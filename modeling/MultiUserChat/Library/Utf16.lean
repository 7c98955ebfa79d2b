import Mathlib.Data.List.Chain
/-!
# Strings of code units

A string as its code points, and as the units of sixteen bits that a language keeps. A surrogate
without its partner is a code point of its own, so a text is the reading of some units when no high
surrogate stands directly in front of a low one (`Paired`); then `points` takes the units back to the
text.
-/

namespace MultiUserChat.Utf16

/-- A high surrogate. -/
def High (point : Nat) : Prop := 0xd800 ≤ point ∧ point < 0xdc00

/-- A low surrogate. -/
def Low (point : Nat) : Prop := 0xdc00 ≤ point ∧ point < 0xe000

instance (point : Nat) : Decidable (High point) :=
  inferInstanceAs (Decidable (0xd800 ≤ point ∧ point < 0xdc00))

instance (point : Nat) : Decidable (Low point) :=
  inferInstanceAs (Decidable (0xdc00 ≤ point ∧ point < 0xe000))

/-- The units of a code point. -/
def units (point : Nat) : List Nat :=
  if point < 0x10000 then [point]
  else [0xd800 + (point - 0x10000) / 0x400, 0xdc00 + (point - 0x10000) % 0x400]

/-- The code points of some units. -/
def points : List Nat → List Nat
  | high :: low :: rest =>
    if High high ∧ Low low then
      (0x10000 + (high - 0xd800) * 0x400 + (low - 0xdc00)) :: points rest
    else high :: points (low :: rest)
  | [unit] => [unit]
  | [] => []

/-- The text is the reading of some units. -/
structure Paired (text : List Nat) : Prop where
  /-- Surrogates that belong together are one code point. -/
  apart : text.IsChain fun first second => ¬ (High first ∧ Low second)
  /-- Every element is a code point. -/
  bounded : ∀ point ∈ text, point < 0x110000

/-- The rest of a text. -/
theorem Paired.tail {point : Nat} {text : List Nat} (paired : Paired (point :: text)) :
    Paired text :=
  ⟨paired.apart.of_cons, fun other inside => paired.bounded other (List.mem_cons_of_mem _ inside)⟩

/-- A text without surrogates. -/
theorem Paired.of_plain {text : List Nat} (plain : ∀ point ∈ text, point < 0xd800) : Paired text := by
  constructor
  · induction text with
    | nil => exact .nil
    | cons point text ih =>
      have later := ih fun other inside => plain other (List.mem_cons_of_mem _ inside)
      have here := plain point List.mem_cons_self
      cases text with
      | nil => exact .singleton _
      | cons next text =>
        apply List.IsChain.cons_cons _ later
        rintro ⟨high, _⟩
        exact absurd high.1 (Nat.not_le.mpr here)
  · intro point inside
    have here := plain point inside
    omega

/-- No unit of a code point is read together with the unit in front of it, unless the code points were
surrogates that belong together. -/
theorem points_cons {point : Nat} {text : List Nat} (paired : Paired (point :: text)) :
    points (point :: text.flatMap units) = point :: points (text.flatMap units) := by
  cases text with
  | nil => rfl
  | cons next text =>
    have apart : ¬ (High point ∧ Low next) := paired.apart.rel
    rw [List.flatMap_cons]
    unfold units
    by_cases small : next < 0x10000
    · rw [if_pos small, List.singleton_append, points, if_neg apart]
    · rw [if_neg small, List.cons_append, points, if_neg]
      rintro ⟨_, low⟩
      have bound := paired.bounded next (by simp)
      have range := low.1
      omega

/-- The units of a text are read as the text. -/
theorem points_units {text : List Nat} (paired : Paired text) :
    points (text.flatMap units) = text := by
  induction text with
  | nil => rfl
  | cons point text ih =>
    have later := ih paired.tail
    by_cases single : point < 0x10000
    · have unit : units point = [point] := if_pos single
      rw [List.flatMap_cons, unit, List.singleton_append, points_cons paired, later]
    · have bound := paired.bounded point List.mem_cons_self
      have high : High (0xd800 + (point - 0x10000) / 0x400) := by
        constructor <;> omega
      have low : Low (0xdc00 + (point - 0x10000) % 0x400) := by
        constructor <;> omega
      have whole : 0x10000 + (0xd800 + (point - 0x10000) / 0x400 - 0xd800) * 0x400 +
          (0xdc00 + (point - 0x10000) % 0x400 - 0xdc00) = point := by omega
      have both : units point =
          [0xd800 + (point - 0x10000) / 0x400, 0xdc00 + (point - 0x10000) % 0x400] := if_neg single
      rw [List.flatMap_cons, both, List.cons_append, List.singleton_append, points,
        if_pos ⟨high, low⟩, whole, later]

end MultiUserChat.Utf16
