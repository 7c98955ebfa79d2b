import Mathlib.Data.List.Induction
/-!
# Tokens between delimiters

The tokens of a text are its longest parts without a delimiter; runs of delimiters, and delimiters at
either end, separate nothing. A text cut right after a delimiter is tokenised part by part.
-/

namespace MultiUserChat

variable {α : Type} (delimiter : α → Bool)

/-- The non-empty parts of a text between its delimiters. -/
def tokens (text : List α) : List (List α) :=
  (text.splitOnP delimiter).filter fun part => !part.isEmpty

/-- Nothing precedes the next token but delimiters. -/
def Closed (text : List α) : Prop :=
  text = [] ∨ ∃ front last, text = front ++ [last] ∧ delimiter last = true

variable {delimiter}

@[simp]
theorem tokens_nil : tokens delimiter [] = [] := rfl

/-- A delimiter separates the tokens on its two sides. -/
theorem tokens_append_cons (text : List α) {last : α} (delimits : delimiter last = true)
    (later : List α) :
    tokens delimiter (text ++ last :: later) = tokens delimiter text ++ tokens delimiter later := by
  rw [tokens, List.splitOnP_append_cons _ _ delimits, List.filter_append, tokens, tokens]

/-- A delimiter in front belongs to no token. -/
theorem tokens_cons {first : α} (delimits : delimiter first = true) (later : List α) :
    tokens delimiter (first :: later) = tokens delimiter later :=
  tokens_append_cons [] delimits later

/-- A text without delimiters is one token, unless it is empty. -/
theorem tokens_free {text : List α} (free : ∀ entry ∈ text, delimiter entry = false) :
    tokens delimiter text = if text = [] then [] else [text] := by
  rw [tokens, List.splitOnP_eq_singleton free]
  cases text <;> simp

/-- A token in front of a delimiter. -/
theorem tokens_free_append_cons {token : List α} (nonempty : token ≠ [])
    (free : ∀ entry ∈ token, delimiter entry = false) {last : α} (delimits : delimiter last = true)
    (later : List α) :
    tokens delimiter (token ++ last :: later) = token :: tokens delimiter later := by
  rw [tokens_append_cons token delimits, tokens_free free, if_neg nonempty, List.singleton_append]

/-- Tokens put together with a delimiter between them are the tokens of the text. -/
theorem tokens_intercalate {last : α} (delimits : delimiter last = true) {names : List (List α)}
    (named : ∀ name ∈ names, name ≠ [] ∧ ∀ entry ∈ name, delimiter entry = false) :
    tokens delimiter ([last].intercalate names) = names := by
  induction names with
  | nil => rfl
  | cons name names ih =>
    obtain ⟨first, rest⟩ := List.forall_mem_cons.mp named
    cases names with
    | nil => rw [List.intercalate_singleton, tokens_free first.2, if_neg first.1]
    | cons next names =>
      rw [List.intercalate_cons_cons, List.append_assoc, List.singleton_append,
        tokens_free_append_cons first.1 first.2 delimits, ih rest]

/-- After a closed text the tokens start anew. -/
theorem Closed.tokens_append {text : List α} (closed : Closed delimiter text) (later : List α) :
    tokens delimiter (text ++ later) = tokens delimiter text ++ tokens delimiter later := by
  obtain rfl | ⟨front, last, rfl, delimits⟩ := closed
  · rfl
  · rw [List.append_assoc, List.singleton_append, tokens_append_cons front delimits,
      tokens_append_cons front delimits [], tokens_nil, List.append_nil]

/-- Every text is a closed one followed by the start of a token. -/
theorem exists_closed (delimiter : α → Bool) (text : List α) :
    ∃ front rest, text = front ++ rest ∧ Closed delimiter front ∧
      ∀ entry ∈ rest, delimiter entry = false := by
  induction text using List.reverseRecOn with
  | nil => exact ⟨[], [], rfl, .inl rfl, by simp⟩
  | append_singleton text last ih =>
    cases delimits : delimiter last with
    | true => exact ⟨text ++ [last], [], by simp, .inr ⟨text, last, rfl, delimits⟩, by simp⟩
    | false =>
      obtain ⟨front, rest, rfl, closed, free⟩ := ih
      refine ⟨front, rest ++ [last], by simp, closed, fun entry member => ?_⟩
      rcases List.mem_append.mp member with old | new
      · exact free entry old
      · exact (List.mem_singleton.mp new) ▸ delimits

/-- A text has no tokens exactly when it consists of delimiters. -/
theorem tokens_eq_nil {text : List α} :
    tokens delimiter text = [] ↔ ∀ entry ∈ text, delimiter entry = true := by
  induction text with
  | nil => simp
  | cons first text ih =>
    cases delimits : delimiter first with
    | true => simp [tokens_cons delimits, ih, delimits]
    | false =>
      simp only [List.forall_mem_cons, delimits, Bool.false_eq_true, false_and, iff_false]
      intro none_
      rw [tokens, List.splitOnP_cons_eq_if_modifyHead, if_neg (by simp [delimits])] at none_
      cases parts : text.splitOnP delimiter with
      | nil => exact List.splitOnP_ne_nil _ _ parts
      | cons part parts' => simp [parts] at none_

/-- The tokens hold the entries that are not delimiters. -/
theorem flatten_tokens (text : List α) :
    (tokens delimiter text).flatten = text.filter (!delimiter ·) := by
  rw [tokens, List.flatten_filter_not_isEmpty]
  induction text with
  | nil => rfl
  | cons first text ih =>
    rw [List.splitOnP_cons_eq_if_modifyHead]
    cases delimits : delimiter first with
    | true => simp [delimits, ih]
    | false =>
      cases parts : text.splitOnP delimiter with
      | nil => exact absurd parts (List.splitOnP_ne_nil _ _)
      | cons part parts' =>
        rw [parts] at ih
        simp [delimits, ← ih]

/-- A token consists of entries of the text. -/
theorem mem_of_mem_tokens {text token : List α} (member : token ∈ tokens delimiter text) {entry : α}
    (inside : entry ∈ token) : entry ∈ text := by
  have flat : entry ∈ (tokens delimiter text).flatten := List.mem_flatten_of_mem member inside
  rw [flatten_tokens] at flat
  exact (List.mem_filter.mp flat).1

/-- A token is not empty. -/
theorem ne_nil_of_mem_tokens {text token : List α} (member : token ∈ tokens delimiter text) :
    token ≠ [] := by
  have kept := (List.mem_filter.mp member).2
  rintro rfl
  contradiction

/-- A token has no delimiter. -/
theorem free_of_mem_tokens {text token : List α} (member : token ∈ tokens delimiter text) :
    ∀ entry ∈ token, delimiter entry = false := by
  intro entry inside
  have flat : entry ∈ (tokens delimiter text).flatten := List.mem_flatten_of_mem member inside
  rw [flatten_tokens] at flat
  exact Bool.not_eq_true' _ ▸ (List.mem_filter.mp flat).2

/-- Cutting a text short cuts its tokens short. -/
theorem tokens_take_append_cons {token : List α} (nonempty : token ≠ [])
    (free : ∀ entry ∈ token, delimiter entry = false) {last : α} (delimits : delimiter last = true)
    (later : List α) {count : Nat} (positive : 0 < count) :
    tokens delimiter ((token ++ last :: later).take count) =
      token.take count :: tokens delimiter (later.take (count - (token.length + 1))) := by
  have freeTake : ∀ entry ∈ token.take count, delimiter entry = false := fun entry member =>
    free entry (List.mem_of_mem_take member)
  have nonemptyTake : token.take count ≠ [] := by
    rw [Ne, List.take_eq_nil_iff, not_or]
    exact ⟨Nat.ne_of_gt positive, nonempty⟩
  rw [List.take_append]
  by_cases short : count ≤ token.length
  · rw [Nat.sub_eq_zero_of_le short, Nat.sub_eq_zero_of_le (Nat.le_succ_of_le short), List.take_zero,
      List.take_zero, List.append_nil, tokens_free freeTake, if_neg nonemptyTake, tokens_nil]
  · obtain ⟨rest, more⟩ : ∃ rest, count - token.length = rest + 1 :=
      ⟨count - token.length - 1, by omega⟩
    rw [more, List.take_succ_cons, tokens_free_append_cons nonemptyTake freeTake delimits]
    congr 3
    omega

/-- Dropping entries from the front adds no token. -/
theorem tokens_drop_length_le (delimiter : α → Bool) (count : Nat) (text : List α) :
    (tokens delimiter (text.drop count)).length ≤ (tokens delimiter text).length := by
  induction count generalizing text with
  | zero => exact Nat.le_refl _
  | succ count ih =>
    cases text with
    | nil => exact Nat.le_refl _
    | cons first text =>
      rw [List.drop_succ_cons]
      refine Nat.le_trans (ih text) ?_
      cases delimits : delimiter first with
      | true => exact Nat.le_of_eq (congrArg List.length (tokens_cons delimits text).symm)
      | false =>
        rw [tokens, tokens, List.splitOnP_cons_eq_if_modifyHead, if_neg (by simp [delimits])]
        cases parts : text.splitOnP delimiter with
        | nil => exact absurd parts (List.splitOnP_ne_nil _ _)
        | cons part parts' =>
          rw [List.modifyHead_cons, List.filter_cons, List.filter_cons]
          split
          · simp
          · simp

end MultiUserChat
