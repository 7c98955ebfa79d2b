import Mathlib.Data.List.Infix
/-!
# A receiver of announced contents

A receiver with room for one transfer takes openings, which name an origin and announce a length,
pieces and closings. At a closing it reports what it has gathered when its length agrees with the one
announced. Receivers differ in what a refused opening does to the transfer that is active and in when
two lengths agree. A transfer that nothing interrupts is reported as it was sent (`run_transfer`); a
transfer stays within the length announced as long as each piece does (`within_take`); and two
receivers report the same as long as they are `Unison` at each item (`run_eq_of_unison`).
-/

namespace MultiUserChat

variable {κ β : Type}

/-- A transfer that is being received. -/
structure Intake (κ β : Type) where
  /-- Who announced it. -/
  origin : κ
  /-- The length announced. -/
  announced : Nat
  /-- What has been gathered. -/
  content : List β
deriving DecidableEq

/-- What may arrive. -/
inductive Item (κ β : Type)
  /-- An opening that is accepted. -/
  | opening (origin : κ) (announced : Nat)
  /-- An opening that is refused. -/
  | refused
  /-- A piece that is stored. -/
  | piece (bytes : List β)
  /-- A piece that cannot be stored. -/
  | broken
  | closing
deriving DecidableEq

/-- In what receivers differ. -/
structure Policy where
  /-- An opening that is refused leaves the active transfer as it is. -/
  keeps : Bool
  /-- The length gathered agrees with the length announced. -/
  agrees : Nat → Nat → Bool

namespace Policy

/-- What a closing reports: the origin and the content. -/
def report (policy : Policy) (slot : Option (Intake κ β)) : Option (κ × List β) :=
  slot.bind fun intake =>
    if policy.agrees intake.content.length intake.announced then
      some (intake.origin, intake.content)
    else none

/-- The slot after an item, and what is reported. -/
def take (policy : Policy) (slot : Option (Intake κ β)) :
    Item κ β → Option (Intake κ β) × Option (κ × List β)
  | .opening origin announced => (some ⟨origin, announced, []⟩, none)
  | .refused => (if policy.keeps then slot else none, none)
  | .piece bytes =>
    (slot.map fun intake => { intake with content := intake.content ++ bytes }, none)
  | .broken => (none, none)
  | .closing => (none, policy.report slot)

/-- The slot after some items, and what is reported. -/
def run (policy : Policy) (slot : Option (Intake κ β)) :
    List (Item κ β) → Option (Intake κ β) × List (κ × List β)
  | [] => (slot, [])
  | item :: items =>
    let (slot, reported) := policy.take slot item
    let (slot, later) := policy.run slot items
    (slot, reported.toList ++ later)

variable (policy : Policy) {slot : Option (Intake κ β)}

/-- The slot after one more item. -/
theorem run_cons (item : Item κ β) (items : List (Item κ β)) :
    policy.run slot (item :: items) =
      ((policy.run (policy.take slot item).1 items).1,
        (policy.take slot item).2.toList ++ (policy.run (policy.take slot item).1 items).2) := rfl

/-- Items are taken one after the other. -/
theorem run_append (items later : List (Item κ β)) :
    policy.run slot (items ++ later) =
      ((policy.run (policy.run slot items).1 later).1,
        (policy.run slot items).2 ++ (policy.run (policy.run slot items).1 later).2) := by
  induction items generalizing slot with
  | nil => rfl
  | cons item items ih =>
    rw [List.cons_append, run_cons, ih, run_cons]
    simp only [List.append_assoc]

/-- Pieces are gathered in their order. -/
theorem run_pieces (intake : Intake κ β) (pieces : List (List β)) :
    policy.run (some intake) (pieces.map .piece) =
      (some { intake with content := intake.content ++ pieces.flatten }, []) := by
  induction pieces generalizing intake with
  | nil => simp [run]
  | cons bytes pieces ih =>
    rw [List.map_cons, run_cons, take, Option.map_some, ih]
    simp

/-- A transfer that nothing interrupts is reported as it was sent, whatever was in the slot. -/
theorem run_transfer {origin : κ} {announced : Nat} {pieces : List (List β)}
    (whole : policy.agrees pieces.flatten.length announced = true) :
    policy.run slot (.opening origin announced :: (pieces.map .piece ++ [.closing])) =
      (none, [(origin, pieces.flatten)]) := by
  have gathered : policy.report (some (⟨origin, announced, pieces.flatten⟩ : Intake κ β)) =
      some (origin, pieces.flatten) := by
    rw [report, Option.bind_some, if_pos whole]
  rw [run_cons, run_append, take, run_pieces, List.nil_append, run_cons, take, gathered]
  rfl

end Policy

/-! ## Lengths -/

/-- The active transfer is within the length announced, and that within a limit. -/
def Within (limit : Nat) (slot : Option (Intake κ β)) : Prop :=
  ∀ intake ∈ slot, intake.content.length ≤ intake.announced ∧ intake.announced ≤ limit

/-- An opening announces no more than the limit. -/
def Item.Modest (limit : Nat) : Item κ β → Prop
  | .opening _ announced => announced ≤ limit
  | _ => True

/-- A piece is no longer than what is left of the length announced. -/
def Fits (slot : Option (Intake κ β)) : Item κ β → Prop
  | .piece bytes =>
    ∀ intake ∈ slot, intake.content.length + bytes.length ≤ intake.announced
  | _ => True

/-- A slot that is within its limit stays so exactly when what arrives fits. -/
theorem within_take {policy : Policy} {limit : Nat} {slot : Option (Intake κ β)} {item : Item κ β}
    (modest : item.Modest limit) (within_ : Within limit slot) :
    Within limit (policy.take slot item).1 ↔ Fits slot item := by
  cases item with
  | opening origin announced =>
    refine iff_of_true ?_ trivial
    rintro intake ⟨⟩
    exact ⟨Nat.zero_le _, modest⟩
  | refused =>
    refine iff_of_true ?_ trivial
    intro intake member
    rw [Policy.take] at member
    dsimp only at member
    split at member
    · exact within_ intake member
    · contradiction
  | piece bytes =>
    cases slot with
    | none => exact iff_of_true (fun _ => nofun) (fun _ => nofun)
    | some intake =>
      constructor
      · rintro later _ ⟨⟩
        have bound := (later _ rfl).1
        rwa [List.length_append] at bound
      · rintro fits _ ⟨⟩
        exact ⟨by rw [List.length_append]; exact fits intake rfl, (within_ intake rfl).2⟩
  | broken => exact iff_of_true (fun _ => nofun) trivial
  | closing => exact iff_of_true (fun _ => nofun) trivial

/-! ## Two receivers -/

/-- Two receivers do the same with an item that finds a slot. -/
def Unison (policy policy' : Policy) (slot : Option (Intake κ β)) : Item κ β → Prop
  | .refused => policy.keeps = policy'.keeps ∨ slot = none
  | .closing => policy.report slot = policy'.report slot
  | _ => True

/-- Then they take the item alike. -/
theorem take_eq_of_unison {policy policy' : Policy} {slot : Option (Intake κ β)} {item : Item κ β}
    (unison : Unison policy policy' slot item) : policy.take slot item = policy'.take slot item := by
  cases item with
  | opening => rfl
  | refused =>
    rcases unison with same | free
    · rw [Policy.take, Policy.take, same]
    · rw [Policy.take, Policy.take, free, ite_self, ite_self]
  | piece => rfl
  | broken => rfl
  | closing =>
    have same : policy.report slot = policy'.report slot := unison
    rw [Policy.take, Policy.take, same]

/-- Two receivers that are in unison at each item end with the same slot and report the same. -/
theorem run_eq_of_unison {policy policy' : Policy} {slot : Option (Intake κ β)}
    {items : List (Item κ β)}
    (unison : ∀ front item, front ++ [item] <+: items →
      Unison policy policy' (policy.run slot front).1 item) :
    policy.run slot items = policy'.run slot items := by
  induction items generalizing slot with
  | nil => rfl
  | cons item items ih =>
    have same : policy.take slot item = policy'.take slot item :=
      take_eq_of_unison (unison [] item (by simp))
    have rest : policy.run (policy.take slot item).1 items =
        policy'.run (policy.take slot item).1 items :=
      ih fun front later front_of => unison (item :: front) later
        ((List.prefix_cons_inj item).mpr front_of)
    rw [Policy.run_cons, Policy.run_cons, ← same, rest]

end MultiUserChat
