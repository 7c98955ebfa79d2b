import MultiUserChat.Web.Message
/-!
# Numerals

A natural number that a double holds is read from its decimal digits as itself: there is no white
space to trim, no prefix and no sign, the digits denote the number, and rounding leaves it alone.
-/

namespace MultiUserChat.Web

/-! ## Digits -/

/-- Every character is a digit. -/
theorem digitsText_range (value : Nat) : ∀ point ∈ digitsText value, 0x30 ≤ point ∧ point ≤ 0x39 := by
  intro point inside
  obtain ⟨byte, digit, rfl⟩ := List.mem_map.mp inside
  have range := decimalDigits_range value byte digit
  exact ⟨range.1, range.2⟩

/-- There is a digit. -/
theorem digitsText_ne_nil (value : Nat) : digitsText value ≠ [] := by
  unfold digitsText decimalDigits
  split
  · simp
  · rename_i positive
    have some : Nat.digits 10 value ≠ [] := Nat.digits_ne_nil_iff_ne_zero.mpr positive
    simpa using some

/-- A text without white space is not trimmed. -/
theorem trim_of_solid {text : Text} (solid : ∀ point ∈ text, whiteSpace point = false) :
    trim text = text := by
  have whole : ∀ text : Text, (∀ point ∈ text, whiteSpace point = false) →
      text.dropWhile whiteSpace = text := by
    intro text solid
    cases text with
    | nil => rfl
    | cons point text =>
      rw [List.dropWhile_cons_of_neg]
      rw [solid point List.mem_cons_self]
      decide
  rw [trim, whole text solid, whole text.reverse fun point inside => solid point (by simpa using inside),
    List.reverse_reverse]

/-- A digit is read as its value. -/
theorem digit_of_range {point : Nat} (range : 0x30 ≤ point ∧ point ≤ 0x39) :
    Number.digit 10 point = some (point - 0x30) ∧ whiteSpace point = false := by
  obtain ⟨low, high⟩ := range
  have every : ∀ point, point < 0x3a → 0x30 ≤ point →
      Number.digit 10 point = some (point - 0x30) ∧ whiteSpace point = false := by decide
  exact every point (by omega) low

/-- The digits of a number denote the number. -/
theorem ofDigits_digitsText (value : Nat) : Number.ofDigits 10 (digitsText value) = value := by
  have same : ∀ (bytes : List UInt8) (start : Nat), (∀ byte ∈ bytes, 48 ≤ byte ∧ byte ≤ 57) →
      (bytes.map UInt8.toNat).foldl
          (fun value point => value * 10 + (Number.digit 10 point).getD 0) start =
        bytes.foldl (fun value byte => value * 10 + (byte.toNat - 48)) start := by
    intro bytes
    induction bytes with
    | nil => exact fun _ _ => rfl
    | cons byte bytes ih =>
      intro start range
      obtain ⟨here, later⟩ := List.forall_mem_cons.mp range
      have digit := (@digit_of_range byte.toNat ⟨here.1, here.2⟩).1
      rw [List.map_cons, List.foldl_cons, List.foldl_cons, digit]
      exact ih _ later
  have read := same (decimalDigits value) 0 (decimalDigits_range value)
  rw [Number.ofDigits, digitsText, read]
  exact decimalValue_decimalDigits value

/-! ## Rounding -/

/-- An integer is the integer nearest to itself. -/
theorem nearestEven_intCast (value : ℤ) : Number.nearestEven value = value := by
  have below : ⌊(value : ℚ)⌋ = value := Int.floor_intCast value
  simp [Number.nearestEven, below]

/-- A natural number of fewer than fifty-four bits is not rounded. -/
theorem round_natCast {value : Nat} (small : value < 2 ^ 53) : Number.round value = .finite value := by
  by_cases zero : value = 0
  · subst zero
    simp [Number.round]
  have positive : (0 : ℚ) < value := by exact_mod_cast Nat.pos_of_ne_zero zero
  have size : Int.log 2 |(value : ℚ)| = Nat.log 2 value := by
    rw [abs_of_pos positive]
    exact Int.log_natCast 2 value
  have bits : Nat.log 2 value < 53 := Nat.log_lt_of_lt_pow zero small
  obtain ⟨unused, bits⟩ : ∃ unused : Nat, Nat.log 2 value + unused = 52 := ⟨52 - Nat.log 2 value, by omega⟩
  have place : max (Int.log 2 |(value : ℚ)|) (-1022) - 52 = -(unused : ℤ) := by
    rw [size]
    omega
  have shifted : (value : ℚ) / 2 ^ (-(unused : ℤ)) = ((value * 2 ^ unused : ℕ) : ℤ) := by
    rw [zpow_neg, zpow_natCast, div_inv_eq_mul]
    push_cast
    rfl
  have back : (((value * 2 ^ unused : ℕ) : ℤ) : ℚ) * 2 ^ (-(unused : ℤ)) = value := by
    rw [zpow_neg, zpow_natCast]
    push_cast
    rw [mul_assoc, mul_inv_cancel₀ (by positivity), mul_one]
  have finite : |(value : ℚ)| < 2 ^ 1024 := by
    have bound : (value : ℚ) < 2 ^ 53 := by exact_mod_cast small
    rw [abs_of_pos positive]
    exact bound.trans (pow_lt_pow_right₀ (by norm_num) (by norm_num))
  unfold Number.round
  rw [if_neg positive.ne']
  dsimp only
  rw [place, shifted, nearestEven_intCast, back, if_pos finite]

/-! ## Reading -/

/-- A natural number that a double holds is read from its digits as itself. -/
theorem ofText_digitsText {value : Nat} (small : value < 2 ^ 53) :
    Number.ofText (digitsText value) = .finite value := by
  have range := digitsText_range value
  have solid : trim (digitsText value) = digitsText value :=
    trim_of_solid fun point inside => (digit_of_range (range point inside)).2
  have digits : Number.decimalDigits (digitsText value) = (digitsText value, []) := by
    have all : ∀ point ∈ digitsText value, (Number.digit 10 point).isSome = true := by
      intro point inside
      rw [(digit_of_range (range point inside)).1]
      rfl
    rw [Number.decimalDigits, List.span_eq_takeWhile_dropWhile, List.takeWhile_eq_self_iff.mpr all,
      List.dropWhile_eq_nil_iff.mpr all]
  have read : Number.decimalLiteral false (digitsText value) = .finite value := by
    have other : digitsText value ≠ literal "Infinity" := by
      intro same
      have letter : 0x49 ∈ digitsText value := by
        rw [same]
        decide
      exact absurd (range _ letter).2 (by decide)
    unfold Number.decimalLiteral
    rw [if_neg other, digits]
    simp only [digitsText_ne_nil, false_and, ↓reduceIte, Number.exponentPart, List.append_nil,
      ofDigits_digitsText]
    simpa using round_natCast small
  -- Every other way to begin needs a letter or a sign among the first two characters.
  unfold Number.ofText
  rw [solid]
  split
  case h_1 empty => exact absurd empty (digitsText_ne_nil value)
  case h_10 => exact read
  all_goals
    rename_i prefixed
    rw [prefixed] at range
    simp at range

end MultiUserChat.Web
