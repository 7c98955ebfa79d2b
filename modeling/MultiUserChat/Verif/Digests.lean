import MultiUserChat.Common.Crypto
/-!
# Hexadecimal salts and digests

What `hex_to_bytes` reads and what `bytes_to_hex` writes. A text is read as some bytes exactly when
its digits, in lower case, are the text written for them; so a generated salt is read back, and a
password is verified exactly when the text written for its salted digest is the stored one.
-/

namespace MultiUserChat

/-- `A` to `F` in lower case; other characters are left alone. -/
def lowerDigit (char : UInt8) : UInt8 := if 65 ≤ char ∧ char ≤ 70 then char + 32 else char

/-- A byte with a value as a digit is written for that value, up to its case. -/
theorem hexValue_eq_some (char nibble : UInt8) :
    hexValue char = some nibble ↔ nibble ≤ 15 ∧ lowerDigit char = hexDigit nibble := by
  have digit : char.toNat < 256 := char.toNat_lt
  have value : nibble.toNat < 256 := nibble.toNat_lt
  unfold hexValue lowerDigit hexDigit
  simp only [UInt8.le_iff_toNat_le, UInt8.lt_iff_toNat_lt, UInt8.reduceToNat]
  split_ifs <;>
    simp only [Option.some.injEq, false_iff, ← UInt8.toNat_inj, UInt8.toNat_add,
      UInt8.toNat_sub, UInt8.reduceToNat] <;> omega

/-- Both halves of a byte put together are the byte. -/
theorem nibbles_combine (byte : UInt8) :
    (byte >>> 4 &&& 0x0f) <<< 4 ||| (byte &&& 0x0f) = byte := by
  have every : ∀ value : Fin 256, (UInt8.ofFin value >>> 4 &&& 0x0f) <<< 4 |||
      (UInt8.ofFin value &&& 0x0f) = UInt8.ofFin value := by decide +kernel
  exact every byte.toFin

/-- A byte put together from two halves has these halves. -/
theorem nibbles_split {high low : UInt8} (highBound : high ≤ 15) (lowBound : low ≤ 15) :
    (high <<< 4 ||| low) >>> 4 &&& 0x0f = high ∧ (high <<< 4 ||| low) &&& 0x0f = low := by
  have every : ∀ high low : Fin 16,
      (UInt8.ofNat high <<< 4 ||| UInt8.ofNat low) >>> 4 &&& 0x0f = UInt8.ofNat high ∧
        (UInt8.ofNat high <<< 4 ||| UInt8.ofNat low) &&& 0x0f = UInt8.ofNat low := by
    decide +kernel
  have highSmall : high.toNat < 16 := Nat.lt_succ_of_le highBound
  have lowSmall : low.toNat < 16 := Nat.lt_succ_of_le lowBound
  simpa using every ⟨high.toNat, highSmall⟩ ⟨low.toNat, lowSmall⟩

/-- Two characters are written for a byte exactly when, as digits, they are its two halves. -/
theorem hexPair_eq (high low byte : UInt8) :
    (∃ hi lo, hexValue high = some hi ∧ hexValue low = some lo ∧ hi <<< 4 ||| lo = byte) ↔
      lowerDigit high = hexDigit (byte >>> 4 &&& 0x0f) ∧
        lowerDigit low = hexDigit (byte &&& 0x0f) := by
  simp only [hexValue_eq_some]
  constructor
  · rintro ⟨hi, lo, ⟨hiBound, hiDigit⟩, ⟨loBound, loDigit⟩, rfl⟩
    obtain ⟨upper, lower⟩ := nibbles_split hiBound loBound
    rw [upper, lower]
    exact ⟨hiDigit, loDigit⟩
  · rintro ⟨highDigit, lowDigit⟩
    exact ⟨_, _, ⟨nibble_le _, highDigit⟩, ⟨nibble_le _, lowDigit⟩, nibbles_combine byte⟩

/-- A text is read as some bytes exactly when its digits, in lower case, are written for them. -/
theorem hexPairs_eq_some (text bytes : List UInt8) :
    hexPairs text = some bytes ↔ text.map lowerDigit = hexText bytes := by
  induction text using hexPairs.induct generalizing bytes with
  | case1 =>
    cases bytes <;> simp [hexPairs, hexText]
  | case2 char =>
    cases bytes <;> simp [hexPairs, hexText]
  | case3 high low rest ih =>
    cases bytes with
    | nil =>
      simp [hexPairs, hexText, Option.bind_eq_some_iff]
    | cons byte bytes =>
      have peeled : hexPairs (high :: low :: rest) = some (byte :: bytes) ↔
          (∃ hi lo, hexValue high = some hi ∧ hexValue low = some lo ∧ hi <<< 4 ||| lo = byte) ∧
            hexPairs rest = some bytes := by
        simp only [hexPairs, Option.bind_eq_bind, Option.bind_eq_some_iff, Option.pure_def,
          Option.some.injEq, List.cons.injEq]
        constructor
        · rintro ⟨hi, highRead, lo, lowRead, read, restRead, combined, rfl⟩
          exact ⟨⟨hi, lo, highRead, lowRead, combined⟩, restRead⟩
        · rintro ⟨⟨hi, lo, highRead, lowRead, combined⟩, restRead⟩
          exact ⟨hi, highRead, lo, lowRead, bytes, restRead, combined, rfl⟩
      rw [peeled, hexPair_eq, ih]
      simp [hexText, and_assoc]

/-- Two digits are written for each byte. -/
theorem hexText_length (bytes : List UInt8) : (hexText bytes).length = bytes.length * 2 := by
  simp [hexText, List.length_flatMap]

/-- A digit is one of `0` to `9` and `a` to `f`. -/
theorem hexDigit_range {nibble : UInt8} (bound : nibble ≤ 15) :
    48 ≤ hexDigit nibble ∧ hexDigit nibble ≤ 57 ∨ 97 ≤ hexDigit nibble ∧ hexDigit nibble ≤ 102 := by
  unfold hexDigit
  split_ifs <;>
    simp only [UInt8.le_iff_toNat_le, UInt8.lt_iff_toNat_lt, UInt8.toNat_add,
      UInt8.reduceToNat] at * <;> omega

/-- Every character written for bytes is such a digit. -/
theorem hexText_range (bytes : List UInt8) :
    ∀ char ∈ hexText bytes, 48 ≤ char ∧ char ≤ 57 ∨ 97 ≤ char ∧ char ≤ 102 := by
  intro char member
  simp only [hexText, List.mem_flatMap, List.mem_cons, List.not_mem_nil, or_false] at member
  obtain ⟨byte, _, rfl | rfl⟩ := member
  · exact hexDigit_range (nibble_le _)
  · exact hexDigit_range (nibble_le _)

/-- What is written for bytes is in lower case. -/
theorem lowerDigit_hexText (bytes : List UInt8) :
    (hexText bytes).map lowerDigit = hexText bytes := by
  refine (List.map_congr_left fun char member => ?_).trans (List.map_id _)
  have range := hexText_range bytes char member
  simp only [UInt8.le_iff_toNat_le, UInt8.reduceToNat] at range
  rw [lowerDigit, if_neg, id]
  simp only [UInt8.le_iff_toNat_le, UInt8.reduceToNat]
  omega

/-- What was written for bytes is read as these bytes. -/
theorem hexToBytes_bytesToHex {bytes : List UInt8} {count : Nat} (exact : bytes.length = count) :
    hexToBytes (bytesToHex bytes) count = some bytes := by
  have length : (bytesToHex bytes).length = count * 2 := exact ▸ hexText_length bytes
  rw [hexToBytes, if_neg (not_not.mpr length)]
  exact (hexPairs_eq_some _ _).mpr (lowerDigit_hexText bytes)

/-- A salt is read exactly when it is 32 hexadecimal digits, and then as the bytes they denote. -/
theorem hexToBytes_eq_some {hex : CString} {count : Nat} {bytes : List UInt8} :
    hexToBytes hex count = some bytes ↔
      bytes.length = count ∧ hex.bytes.map lowerDigit = hexText bytes := by
  unfold hexToBytes
  split
  · rename_i wrong
    simp only [reduceCtorEq, false_iff, not_and]
    intro exact same
    have length := congrArg List.length same
    rw [List.length_map, hexText_length, exact] at length
    exact wrong length
  · rename_i right
    rw [hexPairs_eq_some]
    refine ⟨fun same => ⟨?_, same⟩, And.right⟩
    have length := congrArg List.length same
    rw [List.length_map, hexText_length] at length
    have whole : hex.bytes.length = count * 2 := not_not.mp right
    omega

/-! ## Passwords -/

variable [Sha256]

/-- The text of the digest of a salted password. -/
def saltedDigest (salt : List UInt8) (password : CString) : CString :=
  bytesToHex (Sha256.digest (salt ++ password.bytes)).toList

/-- The text of a digest has 64 digits. -/
theorem saltedDigest_length (salt : List UInt8) (password : CString) :
    (saltedDigest salt password).length = passwordHashHexLen := by
  change (hexText (Sha256.digest (salt ++ password.bytes)).toList).length = passwordHashHexLen
  rw [hexText_length, List.Vector.toList_length]
  rfl

/-- Hashing a password with a salt that was generated gives the digest of the two. -/
theorem hashPassword_generated (digested : Bool) (password : CString)
    (salt : List.Vector UInt8 saltBytes) :
    hashPassword digested password (bytesToHex salt.toList) =
      if digested then some (saltedDigest salt.toList password) else none := by
  rw [hashPassword, hexToBytes_bytesToHex salt.toList_length]
  rfl

/-- A password is verified exactly when the salt denotes 16 bytes and the text of the digest of the
salted password is the stored one. -/
theorem verifyPassword_iff (digested : Bool) (password saltHex expectedHash : CString) :
    verifyPassword digested password saltHex expectedHash = true ↔
      digested = true ∧ ∃ salt, salt.length = saltBytes ∧
        saltHex.bytes.map lowerDigit = hexText salt ∧ saltedDigest salt password = expectedHash := by
  unfold verifyPassword
  split
  · rename_i wrong
    simp only [Bool.false_eq_true, false_iff, not_and, not_exists]
    rintro - salt - - rfl
    exact wrong (saltedDigest_length salt password)
  · unfold hashPassword
    cases read : hexToBytes saltHex saltBytes with
    | none =>
      simp only [Option.bind_eq_bind, Option.bind_none, Bool.false_eq_true, false_iff, not_and,
        not_exists]
      rintro - salt exact digits
      rw [hexToBytes_eq_some.mpr ⟨exact, digits⟩] at read
      contradiction
    | some salt =>
      obtain ⟨exact, digits⟩ := hexToBytes_eq_some.mp read
      cases digested with
      | false => simp
      | true =>
        simp only [Option.bind_eq_bind, Option.bind_some, ↓reduceIte, decide_eq_true_eq, true_and]
        constructor
        · intro same
          exact ⟨salt, exact, digits, same⟩
        · rintro ⟨other, exact', digits', same⟩
          have equal := hexToBytes_eq_some.mpr ⟨exact', digits'⟩
          rw [read, Option.some.injEq] at equal
          exact equal ▸ same

end MultiUserChat
