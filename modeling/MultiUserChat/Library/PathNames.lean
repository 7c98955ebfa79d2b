import Mathlib.Data.List.Infix
import Mathlib.Data.List.DropRight
/-!
# Names along a path

A path is a list of names, two of which do not name an entry: one stands for the directory that has
been reached and one for its parent. Resolving leaves the first out and takes the second together with
the name in front of it. What is left ends in the names of entries (`resolveNames_spec`), and such
names are not resolved any further (`resolveNames_entries`). A path that leads from one
list of names to another starts with as many parents as there are names to leave, so that it starts
with a name of the other list only if that one lies below (`relativeNames_below`,
`relativeNames_outside`).
-/

namespace MultiUserChat

section Resolving

variable {ν : Type} [DecidableEq ν] (self parent : ν)

/-- Take one more name to those that are left; a parent that has nothing in front of it is kept or left
out. -/
def resolveName (above : Bool) (kept : List ν) (name : ν) : List ν :=
  if name = self then kept
  else if name = parent then
    if kept.getLast?.all (· = parent) then if above then kept ++ [parent] else kept
    else kept.dropLast
  else kept ++ [name]

/-- The names that are left when all are resolved. -/
def resolveNames (above : Bool) (names : List ν) : List ν := names.foldl (resolveName self parent above) []

/-- The names name entries. -/
def Entries (names : List ν) : Prop := ∀ name ∈ names, name ≠ self ∧ name ≠ parent

variable {self parent}

/-- Entries are resolved already. -/
theorem resolveNames_entries {above : Bool} {names : List ν} (entries : Entries self parent names) :
    resolveNames self parent above names = names := by
  have behind (kept : List ν) : names.foldl (resolveName self parent above) kept = kept ++ names := by
    induction names generalizing kept with
    | nil => exact (List.append_nil kept).symm
    | cons name names ih =>
      obtain ⟨first, rest⟩ := List.forall_mem_cons.mp entries
      rw [List.foldl_cons, resolveName, if_neg first.1, if_neg first.2, ih rest, List.append_assoc]
      rfl
  exact behind []

/-- What is left are parents and, behind them, entries; there are no parents unless they are kept. -/
theorem resolveNames_spec (above : Bool) (names : List ν) : ∃ ups entries,
    resolveNames self parent above names = List.replicate ups parent ++ entries ∧
      Entries self parent entries ∧ (above = false → ups = 0) := by
  induction names using List.reverseRecOn with
  | nil => exact ⟨0, [], rfl, by simp [Entries], fun _ => rfl⟩
  | append_singleton names name ih =>
    obtain ⟨ups, entries, left, named, none_⟩ := ih
    have split : resolveNames self parent above (names ++ [name]) =
        resolveName self parent above (resolveNames self parent above names) name := by
      rw [resolveNames, List.foldl_append]
      rfl
    rw [split, left, resolveName]
    by_cases here : name = self
    · rw [if_pos here]
      exact ⟨ups, entries, rfl, named, none_⟩
    by_cases up : name = parent
    · rw [if_neg here, if_pos up]
      rcases List.eq_nil_or_concat entries with rfl | ⟨others, last, rfl⟩
      · -- Only parents are left.
        have parents : ((List.replicate ups parent ++ []).getLast?.all (· = parent)) = true := by
          rw [List.append_nil]
          cases ups <;> simp [List.getLast?_replicate]
        rw [if_pos parents]
        split
        · rename_i keeps
          refine ⟨ups + 1, [], ?_, named, fun drops => ?_⟩
          · rw [List.append_nil, List.append_nil, List.replicate_succ']
          · rw [drops] at keeps
            contradiction
        · exact ⟨ups, [], rfl, named, none_⟩
      · have differs := (named last (by simp)).2
        have entry : ((List.replicate ups parent ++ others.concat last).getLast?.all (· = parent)) =
            false := by
          simp [List.getLast?_append, differs]
        rw [if_neg (entry ▸ Bool.false_ne_true)]
        refine ⟨ups, others, ?_, fun other member => named other (by simp [member]), none_⟩
        rw [List.concat_eq_append, ← List.append_assoc, List.dropLast_concat]
    · rw [if_neg here, if_neg up]
      refine ⟨ups, entries ++ [name], List.append_assoc _ _ _, ?_, none_⟩
      intro other member
      rcases List.mem_append.mp member with before | last
      · exact named other before
      · rw [List.mem_singleton.mp last]
        exact ⟨here, up⟩

/-- Nothing is left that was not there, but parents that are kept. -/
theorem mem_resolveNames {above : Bool} {names : List ν} {name : ν}
    (member : name ∈ resolveNames self parent above names) :
    name ∈ names ∨ above = true ∧ name = parent := by
  induction names using List.reverseRecOn with
  | nil => exact .inl member
  | append_singleton names last ih =>
    rw [resolveNames, List.foldl_append, List.foldl_cons, List.foldl_nil, ← resolveNames,
      resolveName] at member
    have before (left : name ∈ resolveNames self parent above names) :
        name ∈ names ++ [last] ∨ above = true ∧ name = parent :=
      (ih left).imp_left (List.mem_append_left _)
    split at member
    · exact before member
    split at member
    · split at member
      · split at member
        · rename_i keeps
          rcases List.mem_append.mp member with left | new
          · exact before left
          · exact .inr ⟨keeps, List.mem_singleton.mp new⟩
        · exact before member
      · exact before (List.mem_of_mem_dropLast member)
    · rcases List.mem_append.mp member with left | new
      · exact before left
      · exact .inl (List.mem_append_right _ new)

/-- Where no parents are kept, entries are left. -/
theorem entries_resolveNames (names : List ν) :
    Entries self parent (resolveNames self parent false names) := by
  obtain ⟨ups, entries, left, named, none_⟩ := @resolveNames_spec ν _ self parent false names
  rw [left, none_ rfl]
  exact named

end Resolving

/-! ## From one path to another -/

section Relating

variable {ν κ : Type} [DecidableEq κ]

/-- The number of names that two lists have in common at their fronts. -/
def commonLength : List κ → List κ → Nat
  | left :: lefts, right :: rights => if left = right then commonLength lefts rights + 1 else 0
  | _, _ => 0

/-- All of a list is in common exactly when it is a front of the other. -/
theorem commonLength_eq_length {left right : List κ} :
    commonLength left right = left.length ↔ left <+: right := by
  induction left generalizing right with
  | nil => simp [commonLength]
  | cons first left ih =>
    cases right with
    | nil => simp [commonLength]
    | cons other right =>
      rw [commonLength, List.cons_prefix_cons, ← ih]
      split
      · rename_i same
        rw [List.length_cons, Nat.add_right_cancel_iff]
        exact (and_iff_right same).symm
      · rename_i differ
        exact iff_of_false (by simp) fun both => differ both.1

/-- No more than a list is in common. -/
theorem commonLength_le (left right : List κ) : commonLength left right ≤ left.length := by
  induction left generalizing right with
  | nil => simp [commonLength]
  | cons first left ih =>
    cases right with
    | nil => simp [commonLength]
    | cons other right =>
      rw [commonLength]
      split
      · exact Nat.succ_le_succ (ih right)
      · exact Nat.zero_le _

variable (parent : ν) (key : ν → κ)

/-- Names in front of both lists are in common. -/
theorem commonLength_append (front left right : List κ) :
    commonLength (front ++ left) (front ++ right) = front.length + commonLength left right := by
  induction front with
  | nil => exact (Nat.zero_add _).symm
  | cons name front ih =>
    rw [List.cons_append, List.cons_append, commonLength, if_pos rfl, ih, List.length_cons]
    omega

/-- The names that lead from one place to another; two names are the same if their keys are. -/
def relativeNames (source target : List ν) : List ν :=
  let common := commonLength (source.map key) (target.map key)
  List.replicate (source.length - common) parent ++ target.drop common

variable {parent : ν} {key : ν → κ}

/-- Names in front of both places do not matter. -/
theorem relativeNames_append (front source target : List ν) :
    relativeNames parent key (front ++ source) (front ++ target) =
      relativeNames parent key source target := by
  unfold relativeNames
  dsimp only
  rw [List.map_append, List.map_append, commonLength_append, List.length_append, List.length_map,
    Nat.add_sub_add_left, List.drop_length_add_append]

/-- To a place below lead the names behind those of the source. -/
theorem relativeNames_below {source target : List ν} (below : source.map key <+: target.map key) :
    relativeNames parent key source target = target.drop source.length := by
  have all := commonLength_eq_length.mpr below
  rw [List.length_map] at all
  unfold relativeNames
  dsimp only
  rw [all, Nat.sub_self]
  rfl

/-- To every other place a parent leads first. -/
theorem relativeNames_outside {source target : List ν}
    (outside : ¬source.map key <+: target.map key) :
    ∃ later, relativeNames parent key source target = parent :: later := by
  have some_ : commonLength (source.map key) (target.map key) < source.length := by
    refine Nat.lt_of_le_of_ne ?_ fun all => outside (commonLength_eq_length.mp ?_)
    · rw [← List.length_map key]
      exact commonLength_le _ _
    · rw [all, List.length_map]
  obtain ⟨ups, count⟩ := Nat.exists_eq_succ_of_ne_zero (Nat.sub_ne_zero_of_lt some_)
  unfold relativeNames
  dsimp only
  rw [count, List.replicate_succ]
  exact ⟨_, rfl⟩

end Relating

end MultiUserChat
