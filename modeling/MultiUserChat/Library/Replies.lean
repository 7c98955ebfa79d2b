import Mathlib.Data.List.Infix
/-!
# Positional replies

A requester queues an entry for some of its requests and takes the oldest one whenever a reply
arrives; nothing in a reply names its request. Requests are numbered in the order in which they are
made, and a reply carries the number of the request it answers only here. When replies come in the
order of the requests (`InOrder`) and a reply to a request without an entry finds nothing unanswered,
the oldest entry is the one of the request that is answered, and the queue stays what it should be
(`InOrder.answer`).
-/

namespace MultiUserChat

variable {ε : Type}

/-- The entry of a request. -/
def entryOf (asked : List (Option ε)) (number : Nat) : Option ε := (asked[number]?).join

/-- The entries of the requests that are not answered, oldest first. -/
def unanswered (asked : List (Option ε)) (answered : List Nat) : List ε :=
  asked.zipIdx.flatMap fun request => if request.2 ∈ answered then [] else request.1.toList

/-- No request is answered twice, and one that has an entry is answered before any later request. -/
def InOrder (asked : List (Option ε)) (answered : List Nat) : Prop :=
  ∀ front number, front ++ [number] <+: answered →
    number < asked.length ∧ number ∉ front ∧
      ∀ earlier < number, entryOf asked earlier ≠ none → earlier ∈ front

/-- A new request comes last. -/
theorem unanswered_ask {asked : List (Option ε)} {answered : List Nat} (entry : Option ε)
    (new : asked.length ∉ answered) :
    unanswered (asked ++ [entry]) answered = unanswered asked answered ++ entry.toList := by
  rw [unanswered, List.zipIdx_append, List.flatMap_append]
  simp [unanswered, new]

/-- When nothing is unanswered, more answers leave nothing unanswered. -/
theorem unanswered_append_answered {asked : List (Option ε)} {answered : List Nat}
    (nothing : unanswered asked answered = []) (more : List Nat) :
    unanswered asked (answered ++ more) = [] := by
  rw [unanswered, List.flatMap_eq_nil_iff] at nothing ⊢
  intro request member
  by_cases done : request.2 ∈ answered
  · rw [if_pos (List.mem_append_left _ done)]
  · have untracked := nothing request member
    rw [if_neg done] at untracked
    rw [untracked, ite_self]

/-- When nothing is unanswered, each request with an entry is answered. -/
theorem answered_of_unanswered {asked : List (Option ε)} {answered : List Nat} {number : Nat}
    (nothing : unanswered asked answered = []) (tracked : entryOf asked number ≠ none) :
    number ∈ answered := by
  by_contra open_
  obtain ⟨entry, found⟩ := Option.ne_none_iff_exists'.mp tracked
  have made := Option.join_eq_some_iff.mp found
  rw [unanswered, List.flatMap_eq_nil_iff] at nothing
  have untracked := nothing (some entry, number) (List.mk_mem_zipIdx_iff_getElem?.mpr made)
  rw [if_neg open_] at untracked
  contradiction

/-- The entry of an earlier request stays. -/
theorem entryOf_append {asked : List (Option ε)} {number : Nat} (old : number < asked.length)
    (later : List (Option ε)) : entryOf (asked ++ later) number = entryOf asked number := by
  rw [entryOf, entryOf, List.getElem?_append_left old]

/-- Nothing has been answered. -/
theorem inOrder_nil (asked : List (Option ε)) : InOrder asked [] := by
  intro front number front_of
  have short := front_of.length_le
  simp at short

namespace InOrder

variable {asked : List (Option ε)} {answered : List Nat}

/-- What was answered before a reply was answered in order. -/
theorem front {earlier : List Nat} (ordered : InOrder asked answered)
    (front_of : earlier <+: answered) : InOrder asked earlier :=
  fun front number inner => ordered front number (inner.trans front_of)

/-- More requests leave the order as it is. -/
theorem ask (ordered : InOrder asked answered) (later : List (Option ε)) :
    InOrder (asked ++ later) answered := by
  intro front number front_of
  obtain ⟨old, new, before⟩ := ordered front number front_of
  refine ⟨by rw [List.length_append]; omega, new, fun earlier less tracked => ?_⟩
  rw [entryOf_append (less.trans old)] at tracked
  exact before earlier less tracked

/-- A reply to a request that is not answered, when those before it are. -/
theorem reply {number : Nat} (ordered : InOrder asked answered) (made : number < asked.length)
    (new : number ∉ answered)
    (before : ∀ earlier < number, entryOf asked earlier ≠ none → earlier ∈ answered) :
    InOrder asked (answered ++ [number]) := by
  intro front other front_of
  rcases List.prefix_concat_iff.mp front_of with same | inner
  · obtain ⟨rfl, last⟩ := List.append_inj' same rfl
    rw [List.singleton_inj.mp last]
    exact ⟨made, new, before⟩
  · exact ordered front other inner

/-- No request is answered twice. -/
theorem apart {earlier later : List Nat} (ordered : InOrder asked (earlier ++ later)) {number : Nat}
    (done : number ∈ earlier) : number ∉ later := by
  intro again
  obtain ⟨front, back, rfl⟩ := List.append_of_mem again
  exact (ordered (earlier ++ front) number ⟨back, by simp⟩).2.1 (List.mem_append_left _ done)

/-- An answered request was made. -/
theorem made (ordered : InOrder asked answered) {number : Nat} (member : number ∈ answered) :
    number < asked.length := by
  obtain ⟨front, back, rfl⟩ := List.append_of_mem member
  exact (ordered front number ⟨back, by simp⟩).1

/-- The reply takes the entry of the request it answers, and leaves the entries of those that are
then unanswered. -/
theorem answer {number : Nat} (ordered : InOrder asked (answered ++ [number]))
    (alone : entryOf asked number = none → unanswered asked answered = []) :
    (unanswered asked answered).head? = entryOf asked number ∧
      (unanswered asked answered).tail = unanswered asked (answered ++ [number]) := by
  obtain ⟨made, new, before⟩ := ordered answered number List.prefix_rfl
  -- The requests are split at the one that is answered.
  obtain ⟨early, entry, late, whole, count⟩ : ∃ early entry late,
      asked = early ++ entry :: late ∧ early.length = number :=
    ⟨asked.take number, asked[number], asked.drop (number + 1),
      by rw [← List.drop_eq_getElem_cons made, List.take_append_drop],
      List.length_take_of_le made.le⟩
  have own : entryOf asked number = entry := by
    rw [entryOf, whole, ← count, List.getElem?_append_right le_rfl, Nat.sub_self]
    rfl
  have split (numbers : List Nat) : unanswered asked numbers =
      unanswered early numbers ++ ((if number ∈ numbers then [] else entry.toList) ++
        (late.zipIdx (number + 1)).flatMap fun request =>
          if request.2 ∈ numbers then [] else request.1.toList) := by
    rw [unanswered, whole, List.zipIdx_append, List.flatMap_append, List.zipIdx_cons,
      List.flatMap_cons, Nat.zero_add, count, unanswered]
  have silent (numbers : List Nat) (known : ∀ number ∈ answered, number ∈ numbers) :
      unanswered early numbers = [] := by
    rw [unanswered, List.flatMap_eq_nil_iff]
    rintro ⟨expected, earlier⟩ member
    obtain ⟨_, less, same⟩ := List.mem_zipIdx member
    rw [Nat.zero_add] at less
    simp only [Nat.sub_zero] at same
    split
    · rfl
    · rename_i open_
      by_contra tracked
      refine open_ (known _ (before earlier (count ▸ less) fun untracked => tracked ?_))
      rw [entryOf, whole, List.getElem?_append_left less, List.getElem?_eq_getElem less, ← same]
        at untracked
      change expected = none at untracked
      rw [untracked]
      rfl
  have rest : ((late.zipIdx (number + 1)).flatMap fun request =>
      if request.2 ∈ answered ++ [number] then [] else request.1.toList) =
        (late.zipIdx (number + 1)).flatMap fun request =>
          if request.2 ∈ answered then [] else request.1.toList := by
    refine List.flatMap_congr fun request member => ?_
    have later := (List.mem_zipIdx member).1
    have other : request.2 ≠ number := by omega
    simp only [List.mem_append, List.mem_singleton, other, or_false]
  have left := split answered
  have right := split (answered ++ [number])
  rw [silent answered fun _ => id, List.nil_append, if_neg new] at left
  rw [silent (answered ++ [number]) fun _ => List.mem_append_left _, List.nil_append,
    if_pos (List.mem_append_right _ List.mem_cons_self), List.nil_append, rest] at right
  rw [own] at alone ⊢
  cases entry with
  | some expected =>
    rw [left, right]
    exact ⟨rfl, rfl⟩
  | none =>
    have nothing := alone rfl
    rw [Option.toList_none, List.nil_append, nothing] at left
    rw [nothing, right, ← left]
    exact ⟨rfl, rfl⟩

end InOrder

end MultiUserChat
