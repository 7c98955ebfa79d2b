import Mathlib.Data.Int.Log
import Mathlib.Data.List.DropRight
import Mathlib.Data.Rat.Floor
/-!
# Strings and numbers of the language

White space and the conversion `Number(text)`. A string is the list of its code points. The digits of
a literal denote a rational number, which is rounded once to the nearest double, ties to even. The
sign of a zero is not kept: nothing here tells the two zeros apart.
-/

namespace MultiUserChat.Web

/-- A string. -/
abbrev Text := List Nat

/-- A string literal. -/
def literal (text : String) : Text := text.toList.map Char.toNat

/-- `WhiteSpace` and `LineTerminator` -/
def whiteSpace (point : Nat) : Bool :=
  point ∈ [0x9, 0xa, 0xb, 0xc, 0xd, 0x20, 0xa0, 0x1680, 0x2028, 0x2029, 0x202f, 0x205f, 0x3000, 0xfeff]
    || (0x2000 ≤ point && point ≤ 0x200a)

/-- `text.trim()` -/
def trim (text : Text) : Text :=
  ((text.dropWhile whiteSpace).reverse.dropWhile whiteSpace).reverse

/-- A trimmed text has no white space at its ends. -/
theorem trim_trim (text : Text) : trim (trim text) = trim text := by
  have front : (trim text).dropWhile whiteSpace = trim text := by
    rw [List.dropWhile_eq_self_iff]
    intro nonempty
    have whole : trim text <+: text.dropWhile whiteSpace := List.rdropWhile_prefix _ _
    rw [whole.getElem nonempty]
    exact List.dropWhile_get_zero_not whiteSpace text _
  change ((trim text).dropWhile whiteSpace).rdropWhile whiteSpace = trim text
  rw [front]
  exact List.rdropWhile_idempotent _ _

/-- Characters that are replaced by others of their kind are trimmed alike. -/
theorem trim_map {change : Nat → Nat} (keeps : ∀ point, whiteSpace (change point) = whiteSpace point)
    (text : Text) : trim (text.map change) = (trim text).map change := by
  have same : whiteSpace ∘ change = whiteSpace := funext keeps
  simp only [trim, List.dropWhile_map, ← List.map_reverse, same]

/-- A number. -/
inductive Number
  /-- Not a number. -/
  | nan
  /-- An infinity. -/
  | infinity (negative : Bool)
  /-- A finite number. -/
  | finite (value : ℚ)
deriving DecidableEq

namespace Number

/-- The integer nearest to a rational number, ties to even. -/
def nearestEven (value : ℚ) : ℤ :=
  let below := ⌊value⌋
  if value - below < 1 / 2 then below
  else if value - below > 1 / 2 then below + 1
  else if below % 2 = 0 then below else below + 1

/-- The double nearest to a rational number. -/
def round (value : ℚ) : Number :=
  if value = 0 then .finite 0
  else
    -- The exponent of the last place; below the normal numbers it stays the same.
    let place := max (Int.log 2 |value|) (-1022) - 52
    let rounded := nearestEven (value / 2 ^ place) * (2 : ℚ) ^ place
    if |rounded| < 2 ^ 1024 then .finite rounded else .infinity (decide (value < 0))

/-- The value of a digit in a base up to sixteen. -/
def digit (base point : Nat) : Option Nat :=
  let value :=
    if 0x30 ≤ point ∧ point ≤ 0x39 then point - 0x30
    else if 0x61 ≤ point ∧ point ≤ 0x66 then point - 0x57
    else if 0x41 ≤ point ∧ point ≤ 0x46 then point - 0x37
    else base
  if value < base then some value else none

/-- The value of a sequence of digits. -/
def ofDigits (base : Nat) (text : Text) : Nat :=
  text.foldl (fun value point => value * base + (digit base point).getD 0) 0

/-- The decimal digits at the front of a text, and what follows them. -/
def decimalDigits (text : Text) : Text × Text := text.span fun point => (digit 10 point).isSome

/-- `ExponentPart`, which may be absent. -/
def exponentPart (text : Text) : Option ℤ :=
  match text with
  | [] => some 0
  | mark :: text =>
    if mark = 0x65 ∨ mark = 0x45 then
      let (negative, text) :=
        match text with
        | 0x2b :: text => (false, text)
        | 0x2d :: text => (true, text)
        | text => (false, text)
      match decimalDigits text with
      | (first :: digits, []) =>
        let value := (ofDigits 10 (first :: digits) : ℤ)
        some (if negative then -value else value)
      | _ => none
    else none

/-- `StrUnsignedDecimalLiteral`, with the sign in front of it. -/
def decimalLiteral (negative : Bool) (text : Text) : Number :=
  if text = literal "Infinity" then .infinity negative
  else
    let (whole, text) := decimalDigits text
    let (fraction, text) :=
      match text with
      | 0x2e :: text => decimalDigits text
      | text => ([], text)
    if whole = [] ∧ fraction = [] then .nan
    else
      match exponentPart text with
      | none => .nan
      | some exponent =>
        let value := ofDigits 10 (whole ++ fraction) * (10 : ℚ) ^ (exponent - fraction.length)
        round (if negative then -value else value)

/-- `NonDecimalIntegerLiteral` after its prefix. -/
def integerLiteral (base : Nat) (text : Text) : Number :=
  if text ≠ [] ∧ text.all fun point => (digit base point).isSome then round (ofDigits base text)
  else .nan

/-- `Number(text)` -/
def ofText (text : Text) : Number :=
  match trim text with
  | [] => .finite 0
  | 0x30 :: 0x62 :: text => integerLiteral 2 text
  | 0x30 :: 0x42 :: text => integerLiteral 2 text
  | 0x30 :: 0x6f :: text => integerLiteral 8 text
  | 0x30 :: 0x4f :: text => integerLiteral 8 text
  | 0x30 :: 0x78 :: text => integerLiteral 16 text
  | 0x30 :: 0x58 :: text => integerLiteral 16 text
  | 0x2b :: text => decimalLiteral false text
  | 0x2d :: text => decimalLiteral true text
  | text => decimalLiteral false text

/-- `Number.isInteger(number) && number >= 0`, with the integer. -/
def natural : Number → Option Nat
  | .finite value => if value.den = 1 ∧ 0 ≤ value then some value.num.toNat else none
  | _ => none

end Number

/-- A decimal numeral, one with a fraction that is rounded away, a hexadecimal one and none at all. -/
example : [" 12\n", "2.99999999999999999", "0x1F", "", "1.5", "-1", "1e3x"].map
    (fun text => (Number.ofText (literal text)).natural) =
      [some 12, some 3, some 31, some 0, none, none, none] := by decide +kernel

end MultiUserChat.Web
