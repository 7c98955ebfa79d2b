import Mathlib.Data.List.Rotate
import Mathlib.Data.Nat.ModEq
import MultiUserChat.Library.Transition
/-!
# Queues in a ring of slots

A queue with room for a limited number of entries, as a list and in a ring. A ring has a fixed number
of slots; its entries lie in consecutive slots from the head on, where the first slot follows the last.
The number of entries is kept beside the head, so a full ring and an empty one are told apart although
their entries begin and end at the same slot. The list says what the ring is for (`Ring.step_held`).
-/

namespace MultiUserChat

variable {α : Type}

/-! ## The list -/

/-- An operation on a queue. -/
inductive QueueOp (α : Type)
  /-- Put an entry behind the others. -/
  | insert (entry : α)
  /-- Take the first entry out. -/
  | remove

/-- The answer to an operation. -/
inductive QueueAnswer (α : Type)
  /-- Nothing was done. -/
  | refused
  /-- The entry was put into the queue. -/
  | inserted
  /-- The first entry was taken out. -/
  | removed (entry : α)
deriving DecidableEq

/-- An operation on a list with room for a limited number of entries. -/
def queueStep (limit : Nat) (held : List α) : QueueOp α → QueueAnswer α × List α
  | .insert entry => if held.length = limit then (.refused, held) else (.inserted, held ++ [entry])
  | .remove =>
    match held with
    | [] => (.refused, [])
    | first :: rest => (.removed first, rest)

/-- The entries that are there are those of the first and of the others. -/
theorem reduceOption_cons (first : Option α) (rest : List (Option α)) :
    (first :: rest).reduceOption = first.toList ++ rest.reduceOption := by
  cases first <;> rfl

/-- When each input takes entries off the front of a list or adds them at the end, all that was added
is what was taken, in order, and what is left. -/
theorem answers_conserves {ι ο : Type} {step : List α → ι → ο × List α}
    {added taken : ι → ο → Option α}
    (each : ∀ held input, held ++ (added input (step held input).1).toList =
      (taken input (step held input).1).toList ++ (step held input).2)
    (held : List α) (inputs : List ι) :
    held ++ (List.zipWith added inputs (answers step held inputs).1).reduceOption =
      (List.zipWith taken inputs (answers step held inputs).1).reduceOption ++
        (answers step held inputs).2 := by
  induction inputs generalizing held with
  | nil => exact List.append_nil _
  | cons input inputs ih =>
    have first := each held input
    have rest := ih (step held input).2
    rw [answers]
    dsimp only
    rw [List.zipWith_cons_cons, List.zipWith_cons_cons, reduceOption_cons, reduceOption_cons,
      ← List.append_assoc, first, List.append_assoc, rest, List.append_assoc]

/-! ## The ring -/

/-- A ring of slots, some of which hold the entries of a queue. -/
structure Ring (α : Type) where
  /-- The slots. -/
  slots : List α
  /-- The slot of the first entry. -/
  head : Nat
  /-- The number of entries. -/
  size : Nat
  /-- The first entry has a slot. -/
  head_lt : head < slots.length
  /-- Every entry has a slot of its own. -/
  size_le : size ≤ slots.length

namespace Ring

variable {ring : Ring α}

/-- The entries in their order. -/
def held (ring : Ring α) : List α := (ring.slots.rotate ring.head).take ring.size

/-- The slot behind the last entry. -/
def tail (ring : Ring α) : Nat := (ring.head + ring.size) % ring.slots.length

/-- There is at least one slot. -/
theorem slots_pos (ring : Ring α) : 0 < ring.slots.length := Nat.zero_lt_of_lt ring.head_lt

/-- The end of the ring is one of the slots. -/
theorem tail_lt (ring : Ring α) : ring.tail < ring.slots.length := Nat.mod_lt _ ring.slots_pos

/-- There are as many entries as the ring says. -/
@[simp]
theorem held_length (ring : Ring α) : ring.held.length = ring.size := by
  rw [held, List.length_take, List.length_rotate]
  exact Nat.min_eq_left ring.size_le

/-- Overwriting a slot overwrites the entry in it. -/
theorem rotate_set {slots : List α} {entry : α} {head offset : Nat} (inside : offset < slots.length) :
    (slots.set ((head + offset) % slots.length) entry).rotate head =
      (slots.rotate head).set offset entry := by
  apply List.ext_getElem
  · simp
  intro index left right
  rw [List.length_rotate, List.length_set] at left
  have same : (head + offset) % slots.length = (index + head) % slots.length ↔ offset = index := by
    rw [Nat.add_comm index head]
    constructor
    · intro equal
      have residue : offset % slots.length = index % slots.length :=
        Nat.ModEq.add_left_cancel' head equal
      rwa [Nat.mod_eq_of_lt inside, Nat.mod_eq_of_lt left] at residue
    · exact fun equal => equal ▸ rfl
  simp only [List.getElem_rotate, List.getElem_set, List.length_set, same]

/-- The slot at the head. -/
def front (ring : Ring α) : α := ring.slots.get ⟨ring.head, ring.head_lt⟩

/-- Put an entry behind the others. -/
def insert (ring : Ring α) (entry : α) (room : ring.size < ring.slots.length) : Ring α where
  slots := ring.slots.set ring.tail entry
  head := ring.head
  size := ring.size + 1
  head_lt := by
    rw [List.length_set]
    exact ring.head_lt
  size_le := by
    rw [List.length_set]
    exact room

/-- Take the first entry out. -/
def remove (ring : Ring α) : Ring α where
  slots := ring.slots
  head := (ring.head + 1) % ring.slots.length
  size := ring.size - 1
  head_lt := Nat.mod_lt _ ring.slots_pos
  size_le := Nat.le_trans (Nat.sub_le _ _) ring.size_le

/-- An operation on a ring. -/
def step (ring : Ring α) : QueueOp α → QueueAnswer α × Ring α
  | .insert entry =>
    if room : ring.size < ring.slots.length then (.inserted, ring.insert entry room)
    else (.refused, ring)
  | .remove =>
    if ring.size = 0 then (.refused, ring)
    else (.removed ring.front, ring.remove)

/-- The entry comes behind the others. -/
theorem held_insert (entry : α) (room : ring.size < ring.slots.length) :
    (ring.insert entry room).held = ring.held ++ [entry] := by
  have inside : ring.size < ((ring.slots.rotate ring.head).set ring.size entry).length := by
    rw [List.length_set, List.length_rotate]
    exact room
  change ((ring.slots.set ring.tail entry).rotate ring.head).take (ring.size + 1) = _
  rw [tail, rotate_set room, List.take_succ_eq_append_getElem inside, List.getElem_set_self,
    List.take_set, List.set_eq_of_length_le, held]
  rw [List.length_take]
  exact Nat.min_le_left _ _

/-- The first entry is in the slot at the head, and the others stay. -/
theorem held_remove (some_ : ring.size ≠ 0) : ring.held = ring.front :: ring.remove.held := by
  have rotated : ring.slots.rotate ring.head ≠ [] := by
    rw [Ne, List.rotate_eq_nil_iff]
    exact List.ne_nil_of_length_pos ring.slots_pos
  obtain ⟨first, rest, split⟩ := List.exists_cons_of_ne_nil rotated
  have count : rest.length + 1 = ring.slots.length := by
    rw [← List.length_cons, ← split, List.length_rotate]
  have front_ : ring.front = first := by
    have here : (ring.slots.rotate ring.head).head? = ring.slots[ring.head]? :=
      List.head?_rotate ring.head_lt
    rw [split, List.head?_cons, List.getElem?_eq_getElem ring.head_lt] at here
    exact (Option.some.inj here).symm
  have after : ring.remove.held = rest.take (ring.size - 1) := by
    change (ring.slots.rotate ((ring.head + 1) % ring.slots.length)).take (ring.size - 1) = _
    rw [List.rotate_mod, ← List.rotate_rotate, split, List.rotate_cons_succ, List.rotate_zero,
      List.take_append_of_le_length]
    have enough := ring.size_le
    omega
  rw [held, split, front_, after]
  obtain ⟨count, same⟩ := Nat.exists_eq_succ_of_ne_zero some_
  rw [same]
  rfl

/-- The slot behind the new entry follows the slot it was put in. -/
theorem tail_insert (entry : α) (room : ring.size < ring.slots.length) :
    (ring.insert entry room).tail = (ring.tail + 1) % ring.slots.length := by
  change (ring.head + (ring.size + 1)) % (ring.slots.set ring.tail entry).length = _
  rw [List.length_set, tail, Nat.mod_add_mod, Nat.add_assoc]

/-- Taking the first entry out leaves the other end as it is. -/
theorem tail_remove (some_ : ring.size ≠ 0) : ring.remove.tail = ring.tail := by
  change ((ring.head + 1) % ring.slots.length + (ring.size - 1)) % ring.slots.length = _
  rw [Nat.mod_add_mod, Nat.add_assoc, Nat.add_sub_cancel' (Nat.one_le_iff_ne_zero.mpr some_), tail]

/-- An operation on a ring is the operation on the list of its entries. -/
theorem step_held (ring : Ring α) (op : QueueOp α) :
    (ring.step op).1 = (queueStep ring.slots.length ring.held op).1 ∧
      (ring.step op).2.held = (queueStep ring.slots.length ring.held op).2 ∧
      (ring.step op).2.slots.length = ring.slots.length := by
  cases op with
  | insert entry =>
    rw [step, queueStep, held_length]
    by_cases room : ring.size < ring.slots.length
    · rw [dif_pos room, if_neg (Nat.ne_of_lt room)]
      exact ⟨rfl, held_insert entry room, List.length_set⟩
    · rw [dif_neg room, if_pos (Nat.le_antisymm ring.size_le (Nat.not_lt.mp room))]
      exact ⟨rfl, rfl, rfl⟩
  | remove =>
    rw [step]
    by_cases none_ : ring.size = 0
    · have empty : ring.held = [] := List.length_eq_zero_iff.mp (by rw [held_length, none_])
      rw [if_pos none_, empty]
      exact ⟨rfl, rfl, rfl⟩
    · rw [if_neg none_, held_remove none_]
      exact ⟨rfl, rfl, rfl⟩

end Ring

end MultiUserChat
