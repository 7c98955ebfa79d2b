import Mathlib.Logic.Function.Basic
import MultiUserChat.Library.Roster
/-!
# Presence services

Users have accounts, enter with a password and are then present at some place, and gather in groups
while they are present. Who departs, for whatever reason, leaves every group. These are all the deeds
of such a service (`Presence.Does`); every sequence of them keeps the accounts, and the groups remain
groups of users who are present (`Presence.Sound`).
-/

namespace MultiUserChat

/-- What a presence service knows. -/
@[ext]
structure Presence (ν π δ κ : Type) where
  /-- The passwords that open an account. -/
  account : ν → Option (π → Prop)
  /-- Where a user is present. -/
  place : ν → Option δ
  /-- The members of the groups, under their headers. -/
  groups : List (κ × List ν)

/-- What can be done in a presence service. -/
inductive Deed (ν π δ κ : Type)
  /-- Somebody opens an account. -/
  | enrol (name : ν) (password : π)
  /-- Somebody enters at a place. -/
  | enter (name : ν) (password : π) (place : δ)
  /-- A group is formed. -/
  | gather (header : κ) (members : List ν)
  /-- Some users depart. -/
  | depart (gone : ν → Bool)

namespace Presence

variable {ν π δ κ : Type} [DecidableEq ν]

/-- A deed is possible, and this is what it does. -/
inductive Does (before : Presence ν π δ κ) : Deed ν π δ κ → Presence ν π δ κ → Prop
  /-- The name is free, and the password is one of those that open the account. -/
  | enrol {name : ν} {password : π} {opens : π → Prop} (free : before.account name = none)
      (opened : opens password) :
      Does before (.enrol name password)
        { before with account := Function.update before.account name (some opens) }
  /-- The password opens the account, and its user is not present. -/
  | enter {name : ν} {password : π} {opens : π → Prop} {place : δ}
      (known : before.account name = some opens) (opened : opens password)
      (absent : before.place name = none) :
      Does before (.enter name password place)
        { before with place := Function.update before.place name (some place) }
  /-- The members are different users who are present. -/
  | gather {header : κ} {members : List ν} (some_ : members ≠ []) (distinct : members.Nodup)
      (present : ∀ member ∈ members, (before.place member).isSome) :
      Does before (.gather header members)
        { before with groups := (header, members) :: before.groups }
  /-- Those who depart are present. -/
  | depart {gone : ν → Bool} (present : ∀ name, gone name = true → (before.place name).isSome) :
      Does before (.depart gone)
        { before with
          place := fun name => if gone name = true then none else before.place name
          groups := Roster.depart gone before.groups }

/-- Deeds that are done one after the other. -/
inductive DoesAll : Presence ν π δ κ → List (Deed ν π δ κ) → Presence ν π δ κ → Prop
  | nothing (presence : Presence ν π δ κ) : DoesAll presence [] presence
  | first {before between after : Presence ν π δ κ} {deed : Deed ν π δ κ}
      {deeds : List (Deed ν π δ κ)} (does : before.Does deed between)
      (later : DoesAll between deeds after) : DoesAll before (deed :: deeds) after

/-- One deed. -/
theorem Does.all {before after : Presence ν π δ κ} {deed : Deed ν π δ κ}
    (does : before.Does deed after) : before.DoesAll [deed] after := .first does (.nothing after)

/-- More deeds. -/
theorem DoesAll.append {before between after : Presence ν π δ κ} {deeds later : List (Deed ν π δ κ)}
    (early : before.DoesAll deeds between) (late : between.DoesAll later after) :
    before.DoesAll (deeds ++ later) after := by
  induction early with
  | nothing presence => exact late
  | first does _ ih => exact .first does (ih late)

/-- Only those with accounts are present, and the groups are groups of different users who are. -/
structure Sound (presence : Presence ν π δ κ) : Prop where
  /-- Who is present has an account. -/
  known : ∀ name, (presence.place name).isSome → (presence.account name).isSome
  /-- Every group has a member. -/
  inhabited : Roster.Inhabited presence.groups
  /-- Nobody is listed twice. -/
  distinct : ∀ group ∈ presence.groups, group.2.Nodup
  /-- The members are present. -/
  present : ∀ group ∈ presence.groups, ∀ member ∈ group.2, (presence.place member).isSome

variable {before after : Presence ν π δ κ} {deed : Deed ν π δ κ} {deeds : List (Deed ν π δ κ)}

/-- A deed keeps the service sound. -/
theorem Does.sound (does : before.Does deed after) (sound : before.Sound) : after.Sound := by
  cases does with
  | @enrol name password opens free opened =>
    refine { sound with known := fun other present => ?_ }
    dsimp only
    by_cases same : other = name
    · rw [same, Function.update_self]
      rfl
    · rw [Function.update_of_ne same]
      exact sound.known other present
  | @enter name password opens place known opened absent =>
    refine { sound with known := fun other present => ?_, present := fun group listed member inside => ?_ }
    · by_cases same : other = name
      · rw [same]
        exact Option.isSome_of_eq_some known
      · dsimp only at present
        rw [Function.update_of_ne same] at present
        exact sound.known other present
    · dsimp only
      by_cases same : member = name
      · rw [same, Function.update_self]
        rfl
      · rw [Function.update_of_ne same]
        exact sound.present group listed member inside
  | gather some_ distinct present =>
    exact
      { known := sound.known
        inhabited := List.forall_mem_cons.mpr ⟨some_, sound.inhabited⟩
        distinct := List.forall_mem_cons.mpr ⟨distinct, sound.distinct⟩
        present := List.forall_mem_cons.mpr ⟨present, sound.present⟩ }
  | @depart gone present =>
    refine
      { known := fun name here => ?_
        inhabited := fun group listed => (Roster.mem_depart.mp listed).1
        distinct := fun group listed => ?_
        present := fun group listed member inside => ?_ }
    · dsimp only at here
      split at here
      · contradiction
      · exact sound.known name here
    · obtain ⟨_, old, member, _, members⟩ := Roster.mem_depart.mp listed
      rw [members]
      exact (sound.distinct old member).filter _
    · obtain ⟨stays, old, listed, inside⟩ := Roster.depart_members listed inside
      dsimp only
      rw [if_neg (by simp [stays])]
      exact sound.present old listed member inside

/-- Some deeds, one after the other, keep the service sound. -/
theorem DoesAll.sound (does : before.DoesAll deeds after) (sound : before.Sound) : after.Sound := by
  induction does with
  | nothing presence => exact sound
  | first does _ ih => exact ih (does.sound sound)

/-- A deed keeps the accounts. -/
theorem Does.account (does : before.Does deed after) {name : ν} {opens : π → Prop}
    (known : before.account name = some opens) : after.account name = some opens := by
  cases does with
  | @enrol other password opens' free opened =>
    have different : name ≠ other := by
      rintro rfl
      rw [free] at known
      contradiction
    dsimp only
    rw [Function.update_of_ne different]
    exact known
  | enter known' opened absent => exact known
  | gather some_ distinct present => exact known
  | depart present => exact known

/-- Some deeds, one after the other, keep the accounts. -/
theorem DoesAll.account (does : before.DoesAll deeds after) {name : ν} {opens : π → Prop}
    (known : before.account name = some opens) : after.account name = some opens := by
  induction does with
  | nothing presence => exact known
  | first does _ ih => exact ih (does.account known)

end Presence

end MultiUserChat
