import Mathlib.Data.List.Induction
import Mathlib.Tactic.Ring
/-!
# Big-endian words

Four bytes in network order, most significant first, and the number they denote. The writer is the
byte view of a 32-bit store after `htonl`; the reader is `ntohl` of a 32-bit load.
-/

namespace MultiUserChat

/-- The four bytes of a number below `2 ^ 32`, most significant first. -/
def bigEndian (value : Nat) : List UInt8 :=
  [UInt8.ofNat (value / 2 ^ 24), UInt8.ofNat (value / 2 ^ 16), UInt8.ofNat (value / 2 ^ 8),
    UInt8.ofNat value]

/-- The number denoted by bytes in network order. -/
def fromBigEndian (bytes : List UInt8) : Nat :=
  bytes.foldl (fun value byte => value * 256 + byte.toNat) 0

@[simp]
theorem bigEndian_length (value : Nat) : (bigEndian value).length = 4 := rfl

/-- Reading a written word returns its value. -/
theorem fromBigEndian_bigEndian {value : Nat} (bound : value < 2 ^ 32) :
    fromBigEndian (bigEndian value) = value := by
  simp only [fromBigEndian, bigEndian, List.foldl_cons, List.foldl_nil, UInt8.toNat_ofNat']
  omega

/-- What stands in front counts by the number of bytes behind it. -/
theorem fromBigEndian_append (early late : List UInt8) :
    fromBigEndian (early ++ late) = fromBigEndian early * 256 ^ late.length + fromBigEndian late := by
  have shift (value : Nat) :
      late.foldl (fun value byte => value * 256 + byte.toNat) value =
        value * 256 ^ late.length + fromBigEndian late := by
    unfold fromBigEndian
    induction late generalizing value with
    | nil => simp
    | cons byte late ih =>
      rw [List.foldl_cons, List.foldl_cons, ih, ih (0 * 256 + byte.toNat), List.length_cons, pow_succ]
      ring
  rw [fromBigEndian, List.foldl_append, shift]
  rfl

/-- Bytes denote less than their number allows. -/
theorem fromBigEndian_lt (bytes : List UInt8) : fromBigEndian bytes < 256 ^ bytes.length := by
  induction bytes using List.reverseRecOn with
  | nil => decide
  | append_singleton bytes byte ih =>
    have last : fromBigEndian [byte] < 256 := by
      rw [fromBigEndian, List.foldl_cons, List.foldl_nil, Nat.zero_mul, Nat.zero_add]
      exact byte.toNat_lt
    rw [fromBigEndian_append, List.length_append, List.length_singleton, pow_one, pow_succ]
    omega

/-- Two words in network order denote a number of 64 bits. -/
theorem fromBigEndian_twoWords {value : Nat} (bound : value < 2 ^ 64) :
    fromBigEndian (bigEndian (value / 2 ^ 32) ++ bigEndian value) = value := by
  have low : bigEndian value = bigEndian (value % 2 ^ 32) := by
    simp only [bigEndian, List.cons.injEq, and_true, ← UInt8.toNat_inj, UInt8.toNat_ofNat']
    omega
  rw [fromBigEndian_append, fromBigEndian_bigEndian (by omega), low,
    fromBigEndian_bigEndian (Nat.mod_lt _ (by decide)), bigEndian_length]
  omega

end MultiUserChat
