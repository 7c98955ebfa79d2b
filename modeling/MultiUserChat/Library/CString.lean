import Mathlib.Data.List.TakeWhile
import Mathlib.Data.Nat.Digits.Lemmas
import Mathlib.Tactic.IntervalCases
/-!
# C strings and fixed character arrays

A `CString` is what a C program reads through a `char` pointer: the bytes in front of the
terminating NUL. A `FixedString` is a `char` array of a declared size that was cleared before a
string was copied into it, so its size bound is carried by the value. Nothing here belongs to one
program; `copyFixed` is the common `memset`/`strncpy` idiom and `decimal` is `printf`'s unsigned
conversion.
-/

namespace MultiUserChat

/-- The bytes a C program reads through a `char` pointer before the terminating NUL. -/
structure CString where
  /-- Content bytes in memory order. -/
  bytes : List UInt8
  /-- The terminating NUL is not part of the content. -/
  nulFree : 0 ∉ bytes
deriving DecidableEq

namespace CString

/-- Two C strings are equal exactly when `strcmp` finds no difference. -/
@[ext]
theorem ext {left right : CString} (same : left.bytes = right.bytes) : left = right := by
  cases left
  cases right
  cases same
  rfl

/-- Read a C string from the front of an array. A scan that finds no NUL stops at the end. -/
def ofBytes (array : List UInt8) : CString where
  bytes := array.takeWhile (· ≠ 0)
  nulFree := fun member => by simpa using List.mem_takeWhile_imp member

/-- The UTF-8 bytes of a string literal. -/
def ofString (text : String) : CString := ofBytes text.toUTF8.data.toList

/-- The empty string. -/
def empty : CString := ⟨[], by simp⟩

/-- `strlen`. -/
def length (text : CString) : Nat := text.bytes.length

/-- `strchr` of a byte that is not NUL finds an occurrence. -/
def contains (text : CString) (byte : UInt8) : Bool := text.bytes.contains byte

/-- The content followed by its terminating NUL, as the text is stored. -/
def terminated (text : CString) : List UInt8 := text.bytes ++ [0]

/-- The first bytes of a string. -/
def take (count : Nat) (text : CString) : CString :=
  ⟨text.bytes.take count, fun member => text.nulFree (List.mem_of_mem_take member)⟩

/-- The string from a position on. -/
def drop (count : Nat) (text : CString) : CString :=
  ⟨text.bytes.drop count, fun member => text.nulFree (List.mem_of_mem_drop member)⟩

/-- One string after another. -/
def append (text later : CString) : CString :=
  ⟨text.bytes ++ later.bytes, fun member =>
    (List.mem_append.mp member).elim text.nulFree later.nulFree⟩

instance : Append CString := ⟨append⟩

@[simp]
theorem append_bytes (text later : CString) : (text ++ later).bytes = text.bytes ++ later.bytes := rfl

/-- A scan over bytes without a NUL takes all of them. -/
theorem takeWhile_nulFree {bytes : List UInt8} (nulFree : 0 ∉ bytes) :
    bytes.takeWhile (· ≠ 0) = bytes := by
  rw [List.takeWhile_eq_self_iff]
  intro byte member
  simpa using fun zero : byte = 0 => nulFree (zero ▸ member)

/-- A scan stops at the first NUL, whatever follows it. -/
theorem takeWhile_append_nul {bytes : List UInt8} (nulFree : 0 ∉ bytes) (rest : List UInt8) :
    (bytes ++ 0 :: rest).takeWhile (· ≠ 0) = bytes := by
  rw [List.takeWhile_append_of_pos]
  · simp
  · intro byte member
    simpa using fun zero : byte = 0 => nulFree (zero ▸ member)

/-- Reading a stored text returns the text. -/
@[simp]
theorem ofBytes_append_nul (text : CString) (rest : List UInt8) :
    ofBytes (text.bytes ++ 0 :: rest) = text :=
  CString.ext (takeWhile_append_nul text.nulFree rest)

/-- Reading the content alone returns the text. -/
@[simp]
theorem ofBytes_bytes (text : CString) : ofBytes text.bytes = text :=
  CString.ext (takeWhile_nulFree text.nulFree)

/-- Zero bytes behind the bytes change nothing of the string. -/
theorem ofBytes_append_zeros (bytes : List UInt8) (count : Nat) :
    ofBytes (bytes ++ List.replicate count 0) = ofBytes bytes := by
  apply ext
  change (bytes ++ List.replicate count 0).takeWhile (· ≠ 0) = bytes.takeWhile (· ≠ 0)
  have zeros : (List.replicate count (0 : UInt8)).takeWhile (· ≠ 0) = [] := by
    cases count <;> rfl
  rw [List.takeWhile_append, zeros, List.append_nil]
  split
  · rename_i whole
    exact ((List.takeWhile_prefix _).eq_of_length whole).symm
  · rfl

/-- A stored text is one byte longer than its content. -/
@[simp]
theorem terminated_length (text : CString) : text.terminated.length = text.length + 1 := by
  simp [terminated, length]

end CString

/-- A `char` array of the given size that holds a C string followed by zero bytes. -/
structure FixedString (size : Nat) extends CString where
  /-- The content leaves room for its terminating NUL. -/
  fits : bytes.length < size
deriving DecidableEq

namespace FixedString

variable {size : Nat}

/-- Two arrays are equal when their strings are; the padding is all zero. -/
@[ext]
theorem ext {left right : FixedString size} (same : left.toCString = right.toCString) :
    left = right := by
  cases left
  cases right
  cases same
  rfl

/-- The bytes of the array: the string, its NUL and the zero padding. -/
def array (text : FixedString size) : List UInt8 :=
  text.bytes ++ List.replicate (size - text.bytes.length) 0

/-- The array has exactly its declared size. -/
@[simp]
theorem array_length (text : FixedString size) : text.array.length = size := by
  have fits := text.fits
  simp only [array, List.length_append, List.length_replicate]
  omega

/-- Reading the array returns its string. -/
@[simp]
theorem ofBytes_array (text : FixedString size) : CString.ofBytes text.array = text.toCString := by
  have padding : List.replicate (size - text.bytes.length) (0 : UInt8) =
      0 :: List.replicate (size - text.bytes.length - 1) 0 := by
    rw [← List.replicate_succ]
    congr 1
    have := text.fits
    omega
  rw [array, padding, CString.ofBytes_append_nul]

/-- The last byte of the array is a NUL. -/
theorem array_last (text : FixedString size) : text.array[size - 1]? = some 0 := by
  have fits := text.fits
  rw [array, List.getElem?_append_right (by omega), List.getElem?_replicate, if_pos (by omega)]

end FixedString

/-- `memset` to zero followed by `strncpy` of at most `size - 1` bytes. -/
def copyFixed (size : Nat) [NeZero size] (text : CString) : FixedString size where
  bytes := text.bytes.take (size - 1)
  nulFree := fun member => text.nulFree (List.mem_of_mem_take member)
  fits := by
    have positive := Nat.pos_of_neZero size
    rw [List.length_take]
    omega

/-- A string that fits is copied whole. -/
theorem copyFixed_toCString {size : Nat} [NeZero size] {text : CString}
    (fits : text.length < size) : (copyFixed size text).toCString = text := by
  apply CString.ext
  exact List.take_of_length_le (by unfold CString.length at fits; omega)

/-- Copying the content of an array of the same size reproduces the array. -/
@[simp]
theorem copyFixed_self {size : Nat} [NeZero size] (text : FixedString size) :
    copyFixed size text.toCString = text :=
  FixedString.ext (copyFixed_toCString text.fits)

/-- An array of zero bytes. -/
def zeroFixed (size : Nat) [NeZero size] : FixedString size := copyFixed size CString.empty

/-- The decimal digits of a number as text, most significant first; zero has one digit. -/
def decimalDigits (value : Nat) : List UInt8 :=
  if value = 0 then [48]
  else (Nat.digits 10 value).reverse.map fun digit => UInt8.ofNat (48 + digit)

/-- Every digit byte is one of `0` to `9`. -/
theorem decimalDigits_range (value : Nat) :
    ∀ byte ∈ decimalDigits value, 48 ≤ byte ∧ byte ≤ 57 := by
  intro byte member
  unfold decimalDigits at member
  split at member
  · simp only [List.mem_singleton] at member
    subst member
    decide
  · simp only [List.mem_map, List.mem_reverse] at member
    obtain ⟨digit, found, rfl⟩ := member
    have bound : digit < 10 := Nat.digits_lt_base (by decide) found
    interval_cases digit <;> decide

/-- A number below a power of ten has no more digits than the exponent. -/
theorem decimalDigits_length_le {value exponent : Nat} (positive : 0 < exponent)
    (bound : value < 10 ^ exponent) : (decimalDigits value).length ≤ exponent := by
  unfold decimalDigits
  split
  · exact positive
  · rw [List.length_map, List.length_reverse]
    exact (Nat.digits_length_le_iff (by decide) value).mpr bound

/-- `printf` with `%0{width}u`; a width of zero is the plain `%u` or `%zu`. -/
def decimal (width value : Nat) : CString where
  bytes := List.replicate (width - (decimalDigits value).length) 48 ++ decimalDigits value
  nulFree := by
    intro member
    rcases List.mem_append.mp member with zero | digit
    · exact absurd (List.eq_of_mem_replicate zero) (by decide)
    · exact absurd (decimalDigits_range value 0 digit).1 (by decide)

/-- Padded digits are digits. -/
theorem decimal_range (width value : Nat) :
    ∀ byte ∈ (decimal width value).bytes, 48 ≤ byte ∧ byte ≤ 57 := by
  intro byte member
  rcases List.mem_append.mp member with zero | digit
  · rw [List.eq_of_mem_replicate zero]
    decide
  · exact decimalDigits_range value byte digit

/-- Padding makes the text as wide as asked for, or leaves it as wide as it is. -/
theorem decimal_length (width value : Nat) :
    (decimal width value).length = max width (decimalDigits value).length := by
  simp only [CString.length, decimal, List.length_append, List.length_replicate]
  omega

/-- The number that decimal digits denote. -/
def decimalValue (digits : List UInt8) : Nat :=
  digits.foldl (fun value byte => value * 10 + (byte.toNat - 48)) 0

/-- The digits of a number denote it. -/
theorem decimalValue_decimalDigits (value : Nat) : decimalValue (decimalDigits value) = value := by
  unfold decimalDigits
  split
  · rename_i zero
    rw [zero]
    rfl
  have digit : ∀ digit ∈ Nat.digits 10 value, (UInt8.ofNat (48 + digit)).toNat - 48 = digit := by
    intro digit member
    have bound : digit < 10 := Nat.digits_lt_base (by decide) member
    interval_cases digit <;> rfl
  have folded : ∀ digits : List Nat, (∀ digit ∈ digits, (UInt8.ofNat (48 + digit)).toNat - 48 = digit) →
      decimalValue (digits.reverse.map fun digit => UInt8.ofNat (48 + digit)) =
        Nat.ofDigits 10 digits := by
    intro digits plain
    induction digits with
    | nil => rfl
    | cons first digits ih =>
      obtain ⟨here, later⟩ := List.forall_mem_cons.mp plain
      have rest := ih later
      unfold decimalValue at rest ⊢
      rw [List.reverse_cons, List.map_append, List.foldl_append, rest, List.map_singleton,
        List.foldl_cons, List.foldl_nil, here, Nat.ofDigits_cons]
      omega
  rw [folded _ digit, Nat.ofDigits_digits]

/-- Padding does not change the number. -/
theorem decimalValue_decimal (width value : Nat) : decimalValue (decimal width value).bytes = value := by
  have zeros : ∀ count, (List.replicate count (48 : UInt8)).foldl
      (fun value byte => value * 10 + (byte.toNat - 48)) 0 = 0 := by
    intro count
    induction count with
    | zero => rfl
    | succ count ih =>
      rw [List.replicate_succ, List.foldl_cons]
      exact ih
  have same := decimalValue_decimalDigits value
  unfold decimalValue at same ⊢
  change List.foldl _ 0 (List.replicate _ 48 ++ decimalDigits value) = value
  rw [List.foldl_append, zeros, same]

/-- Different numbers have different texts. -/
theorem decimal_injective (width : Nat) : Function.Injective (decimal width) := by
  intro left right same
  rw [← decimalValue_decimal width left, same, decimalValue_decimal]

end MultiUserChat
