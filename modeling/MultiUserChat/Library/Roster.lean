import Mathlib.Data.List.Basic
/-!
# Rosters

A roster is a list of member lists, each under a header. Members depart for good: `depart` takes a
set of them out of every list and drops the lists that become empty, and departures compose to the
departure of the union. This is what a service with temporary groups keeps about its users when it
notices, in whatever order, that some of them have gone.
-/

namespace MultiUserChat.Roster

variable {κ α : Type}

/-- Take members out of every list and drop the lists that become empty. -/
def depart (gone : α → Bool) (roster : List (κ × List α)) : List (κ × List α) :=
  (roster.map fun entry => (entry.1, entry.2.filter fun member => !gone member)).filter
    fun entry => !entry.2.isEmpty

/-- Every list has a member. -/
def Inhabited (roster : List (κ × List α)) : Prop := ∀ entry ∈ roster, entry.2 ≠ []

/-- What remains of a list, as an optional entry. -/
def remaining (gone : α → Bool) (entry : κ × List α) : Option (κ × List α) :=
  if (entry.2.filter fun member => !gone member).isEmpty then none
  else some (entry.1, entry.2.filter fun member => !gone member)

/-- Departing treats each list by itself. -/
theorem depart_eq_filterMap (gone : α → Bool) (roster : List (κ × List α)) :
    depart gone roster = roster.filterMap (remaining gone) := by
  induction roster with
  | nil => rfl
  | cons entry roster ih =>
    simp only [depart, List.map_cons] at ih ⊢
    rw [List.filter_cons, List.filterMap_cons, remaining, ← ih]
    cases (entry.2.filter fun member => !gone member).isEmpty <;> simp

/-- The first list is treated on its own. -/
theorem depart_cons (gone : α → Bool) (entry : κ × List α) (roster : List (κ × List α)) :
    depart gone (entry :: roster) = (remaining gone entry).toList ++ depart gone roster := by
  simp only [depart_eq_filterMap, List.filterMap_cons]
  cases remaining gone entry <;> rfl

/-- When no member departs nothing changes. -/
theorem depart_absent {gone : α → Bool} {roster : List (κ × List α)}
    (inhabited : Inhabited roster)
    (absent : ∀ entry ∈ roster, ∀ member ∈ entry.2, gone member = false) :
    depart gone roster = roster := by
  have same : (roster.map fun entry =>
      (entry.1, entry.2.filter fun member => !gone member)) = roster := by
    rw [← List.map_id roster, List.map_map, List.map_eq_map_iff]
    intro entry listed
    refine Prod.ext rfl (List.filter_eq_self.mpr fun member inside => ?_)
    rw [absent entry listed member inside]
    rfl
  rw [depart, same, List.filter_eq_self]
  intro entry listed
  simpa using inhabited entry listed

/-- When nobody departs nothing changes. -/
theorem depart_none {roster : List (κ × List α)} (inhabited : Inhabited roster) :
    depart (fun _ => false) roster = roster :=
  depart_absent inhabited fun _ _ _ _ => rfl

/-- Two departures are the departure of the union. -/
theorem depart_depart (first second : α → Bool) (roster : List (κ × List α)) :
    depart second (depart first roster) =
      depart (fun member => first member || second member) roster := by
  simp only [depart_eq_filterMap, List.filterMap_filterMap]
  congr 1
  funext entry
  have twice : ((entry.2.filter fun member => !first member).filter fun member => !second member) =
      entry.2.filter fun member => !(first member || second member) := by
    rw [List.filter_filter]
    congr 1
    funext member
    cases first member <;> simp
  unfold remaining
  split
  · rename_i empty
    rw [List.isEmpty_iff] at empty
    rw [← twice, empty]
    rfl
  · rw [Option.bind_some, twice]

/-- An entry remains exactly when one of its members does, and keeps those that do in order. -/
theorem mem_depart {gone : α → Bool} {roster : List (κ × List α)} {entry : κ × List α} :
    entry ∈ depart gone roster ↔ entry.2 ≠ [] ∧ ∃ before ∈ roster, before.1 = entry.1 ∧
      entry.2 = before.2.filter fun member => !gone member := by
  simp only [depart, List.mem_filter, List.mem_map, Bool.not_eq_true', List.isEmpty_eq_false_iff]
  constructor
  · rintro ⟨⟨before, member, rfl⟩, nonempty⟩
    exact ⟨nonempty, before, member, rfl, rfl⟩
  · rintro ⟨nonempty, before, member, header, members⟩
    exact ⟨⟨before, member, Prod.ext header members.symm⟩, nonempty⟩

/-- Members of the result are members that did not depart. -/
theorem depart_members {gone : α → Bool} {roster : List (κ × List α)} {entry : κ × List α}
    {name : α} (member : entry ∈ depart gone roster) (inside : name ∈ entry.2) :
    gone name = false ∧ ∃ before ∈ roster, name ∈ before.2 := by
  obtain ⟨_, before, old, _, members⟩ := mem_depart.mp member
  rw [members, List.mem_filter] at inside
  exact ⟨by simpa using inside.2, before, old, inside.1⟩

/-- The lists that remain keep their order. -/
theorem depart_headers (gone : α → Bool) (roster : List (κ × List α)) :
    ((depart gone roster).map Prod.fst).Sublist (roster.map Prod.fst) := by
  have headers : (roster.map fun entry =>
      (entry.1, entry.2.filter fun member => !gone member)).map Prod.fst = roster.map Prod.fst := by
    rw [List.map_map]
    rfl
  rw [← headers]
  exact List.Sublist.map Prod.fst List.filter_sublist

/-- The headers of the lists a member is on. -/
def memberships [DecidableEq α] (roster : List (κ × List α)) (member : α) : List κ :=
  (roster.filter fun entry => member ∈ entry.2).map Prod.fst

/-- Who stayed is on the lists it was on, in the same order. -/
theorem memberships_stayed [DecidableEq α] {gone : α → Bool} {member : α}
    (stays : gone member = false) (roster : List (κ × List α)) :
    memberships (depart gone roster) member = memberships roster member := by
  have kept : ∀ entry : κ × List α,
      member ∈ (entry.2.filter fun other => !gone other) ↔ member ∈ entry.2 := by
    intro entry
    simp [stays]
  induction roster with
  | nil => rfl
  | cons entry roster ih =>
    simp only [memberships] at ih ⊢
    rw [depart_cons, List.filter_append, List.map_append, ih, List.filter_cons]
    by_cases inside : member ∈ entry.2
    · have remains := (kept entry).mpr inside
      have nonempty : (entry.2.filter fun other => !gone other).isEmpty = false :=
        List.isEmpty_eq_false_iff.mpr (List.ne_nil_of_mem remains)
      have alone : remaining gone entry =
          some (entry.1, entry.2.filter fun other => !gone other) := by
        simp [remaining, nonempty]
      rw [alone, Option.toList_some, List.filter_cons, if_pos (decide_eq_true remains),
        if_pos (decide_eq_true inside)]
      rfl
    · have none : (remaining gone entry).toList.filter (fun other => member ∈ other.2) = [] := by
        rw [List.filter_eq_nil_iff]
        intro other listed
        unfold remaining at listed
        split at listed
        · exact absurd listed List.not_mem_nil
        · rw [Option.toList_some, List.mem_singleton] at listed
          rw [listed, decide_eq_true_eq]
          exact fun remains => inside ((kept entry).mp remains)
      rw [none, if_neg (by simpa using inside)]
      rfl

end MultiUserChat.Roster
