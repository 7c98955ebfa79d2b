import Mathlib.Data.Vector.Basic
import MultiUserChat.Library.CString
/-!
# Salted password digests

`common/crypto_utils.c`. The digest itself comes from OpenSSL; it enters as an instance of `Sha256`,
an arbitrary function from bytes to 32 bytes. The random salt and the success of the library's
context calls are outcomes of the environment and arrive as arguments.
-/

namespace MultiUserChat

/-- `SALT_BYTES` -/
abbrev saltBytes : Nat := 16
/-- `SALT_HEX_LEN` -/
abbrev saltHexLen : Nat := 32
/-- `PASSWORD_HASH_BYTES` -/
abbrev passwordHashBytes : Nat := 32
/-- `PASSWORD_HASH_HEX_LEN` -/
abbrev passwordHashHexLen : Nat := 64

/-- The message digest that OpenSSL provides. -/
class Sha256 where
  /-- Digest of a byte string. -/
  digest : List UInt8 → List.Vector UInt8 passwordHashBytes

/-- `HEX[nibble]` -/
def hexDigit (nibble : UInt8) : UInt8 := if nibble < 10 then 48 + nibble else 87 + nibble

/-- `hex_value`; no value stands for the result -1. -/
def hexValue (char : UInt8) : Option UInt8 :=
  if 48 ≤ char ∧ char ≤ 57 then some (char - 48)
  else if 97 ≤ char ∧ char ≤ 102 then some (char - 97 + 10)
  else if 65 ≤ char ∧ char ≤ 70 then some (char - 65 + 10)
  else none

/-- The loop of `hex_to_bytes` over pairs of digits. -/
def hexPairs : List UInt8 → Option (List UInt8)
  | [] => some []
  | [_] => none
  | high :: low :: rest => do
    let hi ← hexValue high
    let lo ← hexValue low
    let bytes ← hexPairs rest
    return (hi <<< 4 ||| lo) :: bytes

/-- `hex_to_bytes` -/
def hexToBytes (hex : CString) (outLen : Nat) : Option (List UInt8) :=
  if hex.length ≠ outLen * 2 then none else hexPairs hex.bytes

/-- `bytes_to_hex`, without the terminating NUL. -/
def hexText (bytes : List UInt8) : List UInt8 :=
  bytes.flatMap fun (byte : UInt8) => [hexDigit (byte >>> 4 &&& 0x0f), hexDigit (byte &&& 0x0f)]

/-- A hexadecimal digit is not a NUL. -/
theorem hexDigit_ne_zero (nibble : UInt8) (bound : nibble ≤ 15) : hexDigit nibble ≠ 0 := by
  have small : nibble.toNat ≤ 15 := bound
  unfold hexDigit
  intro zero
  split at zero
  · rename_i digit
    have sum := congrArg UInt8.toNat zero
    simp only [UInt8.toNat_add, UInt8.reduceToNat] at sum
    omega
  · have sum := congrArg UInt8.toNat zero
    simp only [UInt8.toNat_add, UInt8.reduceToNat] at sum
    omega

/-- A masked nibble is at most fifteen. -/
theorem nibble_le (byte : UInt8) : byte &&& 0x0f ≤ 15 := by
  change (byte &&& 0x0f).toNat ≤ 15
  rw [UInt8.toNat_and]
  exact Nat.and_le_right

/-- `bytes_to_hex` -/
def bytesToHex (bytes : List UInt8) : CString where
  bytes := hexText bytes
  nulFree := by
    intro member
    simp only [hexText, List.mem_flatMap, List.mem_cons, List.not_mem_nil, or_false] at member
    obtain ⟨byte, _, high | low⟩ := member
    · exact hexDigit_ne_zero _ (nibble_le _) high.symm
    · exact hexDigit_ne_zero _ (nibble_le _) low.symm

/-- `generate_salt_hex`; the random bytes are absent when `RAND_bytes` fails. -/
def generateSaltHex (random : Option (List.Vector UInt8 saltBytes)) : Option CString :=
  random.map fun salt => bytesToHex salt.toList

/-- `hash_password`; `digested` says that the calls into the digest library succeed. -/
def hashPassword [Sha256] (digested : Bool) (password saltHex : CString) : Option CString := do
  let salt ← hexToBytes saltHex saltBytes
  if digested then
    some (bytesToHex (Sha256.digest (salt ++ password.bytes)).toList)
  else none

/-- `verify_password` -/
def verifyPassword [Sha256] (digested : Bool) (password saltHex expectedHash : CString) : Bool :=
  if expectedHash.length ≠ passwordHashHexLen then false
  else
    match hashPassword digested password saltHex with
    | none => false
    | some actual => actual = expectedHash

end MultiUserChat
