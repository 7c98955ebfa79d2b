import Mathlib.Data.List.Nodup
import Mathlib.Data.List.Range
/-!
# Lists addressed by index

A list of records with distinct keys can be changed through an index or by searching for the key;
these are the same change. Also the list that a chain of all indices enumerates, and the part of a
list that is worked through until an entry stops the work.
-/

namespace MultiUserChat

variable {α κ : Type}

/-- Changing the record at an index changes the only record with its key. -/
theorem modify_eq_map [DecidableEq κ] (key : α → κ) (change : α → α) {records : List α} {index : Nat}
    {record : α} (distinct : (records.map key).Nodup) (found : records[index]? = some record) :
    records.modify index change =
      records.map fun other => if key other = key record then change other else other := by
  apply List.ext_getElem?
  intro position
  rw [List.getElem?_modify, List.getElem?_map]
  by_cases same : index = position
  · subst same
    simp [found]
  · cases other : records[position]? with
    | none => simp
    | some found' =>
      have different : key found' ≠ key record := by
        intro equal
        have left : (records.map key)[index]? = some (key record) := by simp [found]
        have right : (records.map key)[position]? = some (key record) := by simp [other, equal]
        obtain ⟨inside, _⟩ := List.getElem?_eq_some_iff.mp left
        exact same ((List.getElem?_inj inside distinct).mp (left.trans right.symm))
      simp [same, different]

/-- The entries of a list at all its indices, in order, are the list. -/
theorem filterMap_getElem?_range (entries : List α) :
    (List.range entries.length).filterMap (entries[·]?) = entries := by
  induction entries with
  | nil => rfl
  | cons entry entries ih =>
    rw [List.length_cons, List.range_succ_eq_map, List.filterMap_cons_some (by rfl),
      List.filterMap_map]
    exact congrArg (entry :: ·) ih

/-- The front of a list up to the first entry that fails a test, that entry included. -/
def takeThrough (test : α → Bool) : List α → List α
  | [] => []
  | entry :: entries => entry :: if test entry then takeThrough test entries else []

/-- What is taken through the first match is a front of the list. -/
theorem takeThrough_prefix (test : α → Bool) (entries : List α) :
    takeThrough test entries <+: entries := by
  induction entries with
  | nil => exact List.prefix_rfl
  | cons entry entries ih =>
    rw [takeThrough]
    split
    · exact List.prefix_cons_inj entry |>.mpr ih
    · exact List.prefix_cons_inj entry |>.mpr List.nil_prefix

/-- Entries that all pass are taken, and what follows them is looked at. -/
theorem takeThrough_append_of_all {test : α → Bool} {entries : List α}
    (all : ∀ entry ∈ entries, test entry = true) (later : List α) :
    takeThrough test (entries ++ later) = entries ++ takeThrough test later := by
  induction entries with
  | nil => rfl
  | cons entry entries ih =>
    obtain ⟨first, rest⟩ := List.forall_mem_cons.mp all
    rw [List.cons_append, takeThrough, if_pos first, ih rest]
    rfl

/-- Nothing after entries that do not all pass is taken. -/
theorem takeThrough_append_of_not_all {test : α → Bool} {entries : List α}
    (fails : ¬ ∀ entry ∈ entries, test entry = true) (later : List α) :
    takeThrough test (entries ++ later) = takeThrough test entries := by
  induction entries with
  | nil => exact absurd (by simp) fails
  | cons entry entries ih =>
    rw [List.cons_append, takeThrough, takeThrough]
    split
    · rename_i passes
      rw [ih fun rest => fails (List.forall_mem_cons.mpr ⟨passes, rest⟩)]
    · rfl

/-- The whole list is taken exactly when all entries but the last pass. -/
theorem takeThrough_eq_self {test : α → Bool} {entries : List α} :
    takeThrough test entries = entries ↔ ∀ entry ∈ entries.dropLast, test entry = true := by
  induction entries with
  | nil => simp [takeThrough]
  | cons entry entries ih =>
    cases entries with
    | nil =>
      rw [takeThrough, takeThrough, ite_self]
      simp
    | cons next entries =>
      rw [List.dropLast_cons_cons, List.forall_mem_cons, ← ih, takeThrough]
      cases passes : test entry with
      | true => simp
      | false => simp

/-- Overwriting an entry behind the ones that pass a test, by one that does not pass, changes nothing
of them. -/
theorem takeWhile_set_behind {test : α → Bool} {entry : α} (stops : test entry = false)
    {entries : List α} {index : Nat} (behind : (entries.takeWhile test).length ≤ index) :
    (entries.set index entry).takeWhile test = entries.takeWhile test := by
  induction entries generalizing index with
  | nil => rfl
  | cons first rest ih =>
    cases index with
    | zero =>
      rw [List.length_eq_zero_iff.mp (Nat.le_zero.mp behind), List.set_cons_zero,
        List.takeWhile_cons_of_neg (by simp [stops])]
    | succ index =>
      rw [List.set_cons_succ]
      by_cases goes : test first = true
      · rw [List.takeWhile_cons_of_pos goes, List.length_cons] at behind
        rw [List.takeWhile_cons_of_pos goes, List.takeWhile_cons_of_pos goes, ih (by omega)]
      · rw [List.takeWhile_cons_of_neg goes, List.takeWhile_cons_of_neg goes]

/-- A front of what entries map to stops at an entry that maps to its last item. -/
theorem prefix_filterMap_concat {image : α → Option κ} {entries : List α} {front : List κ} {item : κ}
    (front_of : front ++ [item] <+: entries.filterMap image) : ∃ early entry,
      early ++ [entry] <+: entries ∧ early.filterMap image = front ∧ image entry = some item := by
  obtain ⟨used, used_of, same⟩ := List.prefix_filterMap_iff.mp front_of
  obtain ⟨before, last, rfl, rfl, one⟩ := List.append_eq_filterMap_iff.mp same
  obtain ⟨skipped, entry, rest, rfl, nothing, given, _⟩ := List.filterMap_eq_cons_iff.mp one
  refine ⟨before ++ skipped, entry, ?_, ?_, given⟩
  · refine List.IsPrefix.trans ?_ used_of
    simp
  · rw [List.filterMap_append, List.filterMap_eq_nil_iff.mpr nothing, List.append_nil]

/-- What comes next at a front of two entries. -/
theorem concat_prefix_pair {front : List α} {entry first second : α}
    (inside : front ++ [entry] <+: [first, second]) :
    front = [] ∧ entry = first ∨ front = [first] ∧ entry = second := by
  match front, inside with
  | [], inside => exact .inl ⟨rfl, (List.cons_prefix_cons.mp inside).1⟩
  | [here], inside =>
    obtain ⟨rfl, rest⟩ := List.cons_prefix_cons.mp inside
    exact .inr ⟨rfl, (List.cons_prefix_cons.mp rest).1⟩
  | _ :: _ :: front, inside =>
    have long := inside.length_le
    simp at long

/-- The pieces of one size at consecutive places are the front that they cover. -/
theorem flatten_pieces (size : Nat) (entries : List α) (count : Nat) :
    ((List.range count).map fun turn => (entries.drop (size * turn)).take size).flatten =
      entries.take (size * count) := by
  induction count with
  | zero => rfl
  | succ count ih =>
    rw [List.range_succ, List.map_append, List.flatten_append, ih, List.map_singleton,
      List.flatten_singleton, Nat.mul_succ, List.take_add]

end MultiUserChat
