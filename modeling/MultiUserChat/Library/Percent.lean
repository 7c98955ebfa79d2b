import Mathlib.Tactic.MkIffOfInductiveProp
import MultiUserChat.Library.Utf8Encode
/-!
# Percent-encoded text

A text in which a percent sign and two hexadecimal digits stand for a byte, and the bytes of the UTF-8
encoding of a character for the character. `Spells` says which texts are well formed and what they
denote; `percentDecode` reads them from left to right and gives up at the first escape that is not
followed by the others of its character (`percentDecode_iff`).
-/

namespace MultiUserChat

/-- The percent sign. -/
abbrev percentSign : Nat := 0x25

/-- The value of a hexadecimal digit. -/
def hexDigitValue (point : Nat) : Option Nat :=
  if 0x30 ≤ point ∧ point ≤ 0x39 then some (point - 0x30)
  else if 0x41 ≤ point ∧ point ≤ 0x46 then some (point - 0x37)
  else if 0x61 ≤ point ∧ point ≤ 0x66 then some (point - 0x57)
  else none

/-- The byte that two digits denote. -/
def hexOctet (high low : Nat) : Option UInt8 := do
  return UInt8.ofNat (16 * (← hexDigitValue high) + (← hexDigitValue low))

/-! ## The texts -/

/-- Each byte stands behind a percent sign as two digits. -/
def Escapes : List UInt8 → List Nat → Prop
  | [], text => text = []
  | byte :: bytes, text => ∃ high low rest, text = percentSign :: high :: low :: rest ∧
    hexOctet high low = some byte ∧ Escapes bytes rest

/-- A well-formed text, and the text that it denotes. -/
@[mk_iff]
inductive Spells : List Nat → List Nat → Prop
  /-- Nothing denotes nothing. -/
  | nil : Spells [] []
  /-- A character other than the percent sign denotes itself. -/
  | plain {point : Nat} {text denoted : List Nat} (other : point ≠ percentSign)
      (rest : Spells text denoted) : Spells (point :: text) (point :: denoted)
  /-- The escapes of the bytes of a character denote the character. -/
  | escape {point : Nat} {escapes text denoted : List Nat} (valid : Utf8.Scalar point)
      (escaped : Escapes (Utf8.encodePoint point) escapes) (rest : Spells text denoted) :
      Spells (escapes ++ text) (point :: denoted)

/-! ## The decoder -/

/-- Read an escaped byte: the byte and the rest. -/
def readEscape : List Nat → Option (UInt8 × List Nat)
  | sign :: high :: low :: rest =>
    if sign ≠ percentSign then none else (hexOctet high low).map (·, rest)
  | _ => none

/-- Read some escaped bytes. -/
def readEscapes : Nat → List Nat → Option (List UInt8 × List Nat)
  | 0, text => some ([], text)
  | count + 1, text => do
    let (byte, rest) ← readEscape text
    let (bytes, rest) ← readEscapes count rest
    return (byte :: bytes, rest)

/-- The number of ones that a byte begins with, counted up to five. -/
def leadingOnes (byte : UInt8) : Nat :=
  if byte < 0x80 then 0
  else if byte < 0xc0 then 1
  else if byte < 0xe0 then 2
  else if byte < 0xf0 then 3
  else if byte < 0xf8 then 4
  else 5

/-- The character that is encoded by some bytes, if they encode one. -/
def soleCharacter (bytes : List UInt8) : Option Nat :=
  match Utf8.decode bytes with
  | [point] => if Utf8.encodePoint point = bytes then some point else none
  | _ => none

/-- Read an escaped character: its first byte says how many bytes it has. -/
def readCharacter (text : List Nat) : Option (Nat × List Nat) := do
  let (first, rest) ← readEscape text
  if leadingOnes first = 0 then return (first.toNat, rest)
  else if leadingOnes first = 1 ∨ leadingOnes first > 4 then failure
  else
    let (later, rest) ← readEscapes (leadingOnes first - 1) rest
    return (← soleCharacter (first :: later), rest)

/-- The decoder; every turn takes something off the text. -/
def percentDecodeLoop : Nat → List Nat → Option (List Nat)
  | _, [] => some []
  | 0, _ => none
  | turns + 1, point :: text =>
    if point ≠ percentSign then (percentDecodeLoop turns text).map (point :: ·)
    else do
      let (character, rest) ← readCharacter (point :: text)
      (percentDecodeLoop turns rest).map (character :: ·)

/-- The text that a text denotes, if it is well formed. -/
def percentDecode (text : List Nat) : Option (List Nat) := percentDecodeLoop text.length text

/-! ## What it reads -/

/-- An escaped byte is a percent sign and two digits. -/
theorem readEscape_iff {text rest : List Nat} {byte : UInt8} :
    readEscape text = some (byte, rest) ↔
      ∃ high low, text = percentSign :: high :: low :: rest ∧ hexOctet high low = some byte := by
  constructor
  · intro read
    unfold readEscape at read
    split at read
    · rename_i sign high low later
      split at read
      · contradiction
      rename_i percent
      obtain ⟨octet, value, same⟩ := Option.map_eq_some_iff.mp read
      cases same
      exact ⟨high, low, by rw [not_not.mp percent], value⟩
    · contradiction
  · rintro ⟨high, low, rfl, value⟩
    rw [readEscape, if_neg (not_not.mpr rfl), value]
    rfl

/-- Escaped bytes are read as they stand. -/
theorem readEscapes_iff {count : Nat} {text rest : List Nat} {bytes : List UInt8} :
    readEscapes count text = some (bytes, rest) ↔
      bytes.length = count ∧ ∃ escapes, text = escapes ++ rest ∧ Escapes bytes escapes := by
  induction count generalizing text bytes with
  | zero =>
    rw [readEscapes]
    constructor
    · intro read
      cases read
      exact ⟨rfl, [], rfl, rfl⟩
    · rintro ⟨none_, escapes, rfl, escaped⟩
      rw [List.length_eq_zero_iff] at none_
      subst none_
      rw [escaped.trans rfl]
      rfl
  | succ count ih =>
    rw [readEscapes]
    constructor
    · intro read
      obtain ⟨⟨byte, later⟩, first, read⟩ := Option.bind_eq_some_iff.mp read
      obtain ⟨⟨others, last⟩, more, same⟩ := Option.bind_eq_some_iff.mp read
      cases same
      obtain ⟨high, low, rfl, value⟩ := readEscape_iff.mp first
      obtain ⟨length, escapes, rfl, escaped⟩ := ih.mp more
      exact ⟨congrArg Nat.succ length, percentSign :: high :: low :: escapes, rfl, high, low, escapes,
        rfl, value, escaped⟩
    · rintro ⟨length, escapes, rfl, escaped⟩
      cases bytes with
      | nil => contradiction
      | cons byte bytes =>
        obtain ⟨high, low, others, rfl, value, escaped⟩ := escaped
        have first : readEscape (percentSign :: high :: low :: others ++ rest) =
            some (byte, others ++ rest) := readEscape_iff.mpr ⟨high, low, rfl, value⟩
        have more : readEscapes count (others ++ rest) = some (bytes, rest) :=
          ih.mpr ⟨Nat.succ.inj length, others, rfl, escaped⟩
        exact Option.bind_eq_some_iff.mpr ⟨_, first, Option.bind_eq_some_iff.mpr ⟨_, more, rfl⟩⟩

/-- Bytes encode one character when they are its encoding. -/
theorem soleCharacter_iff {bytes : List UInt8} {point : Nat} :
    soleCharacter bytes = some point ↔ Utf8.Scalar point ∧ Utf8.encodePoint point = bytes := by
  have decoded (point : Nat) : Utf8.decode (Utf8.encodePoint point) = [Utf8.scalar point] := by
    have whole := Utf8.decode_encodePoint point []
    rwa [List.append_nil] at whole
  unfold soleCharacter
  constructor
  · intro sole
    split at sole
    · rename_i other same
      split at sole
      · rename_i encoded
        cases sole
        rw [← encoded, decoded, List.singleton_inj, Utf8.scalar_eq_self] at same
        exact ⟨same, encoded⟩
      · contradiction
    · contradiction
  · rintro ⟨valid, rfl⟩
    rw [decoded, Utf8.scalar_eq_self.mpr valid]
    exact if_pos rfl

/-- A byte of ASCII begins with a zero. -/
theorem leadingOnes_one : ∀ point < 0x80, leadingOnes (UInt8.ofNat point) = 0 := by decide

/-- The first of two bytes begins with two ones. -/
theorem leadingOnes_two : ∀ bits < 0x20, leadingOnes (UInt8.ofNat (0xc0 + bits)) = 2 := by decide

/-- The first of three bytes begins with three ones. -/
theorem leadingOnes_three : ∀ bits < 0x10, leadingOnes (UInt8.ofNat (0xe0 + bits)) = 3 := by decide

/-- The first of four bytes begins with four ones. -/
theorem leadingOnes_four : ∀ bits < 8, leadingOnes (UInt8.ofNat (0xf0 + bits)) = 4 := by decide

/-- The first byte of a character says how many bytes it has. -/
theorem leadingOnes_encodePoint {point : Nat} (valid : Utf8.Scalar point) :
    ∃ first later, Utf8.encodePoint point = first :: later ∧
      (leadingOnes first = 0 ∧ later = [] ∧ first.toNat = point ∨
        1 < leadingOnes first ∧ leadingOnes first ≤ 4 ∧ later.length = leadingOnes first - 1) := by
  have bound : point < 0x110000 := by
    unfold Utf8.Scalar at valid
    omega
  unfold Utf8.encodePoint
  rw [if_neg (not_not.mpr valid)]
  split
  · rename_i short
    refine ⟨_, _, rfl, .inl ⟨leadingOnes_one point short, rfl, ?_⟩⟩
    rw [UInt8.toNat_ofNat']
    omega
  split
  · have ones := leadingOnes_two (point / 64) (by omega)
    exact ⟨_, _, rfl, .inr (by rw [ones]; exact ⟨by decide, by decide, rfl⟩)⟩
  split
  · have ones := leadingOnes_three (point / 4096) (by omega)
    exact ⟨_, _, rfl, .inr (by rw [ones]; exact ⟨by decide, by decide, rfl⟩)⟩
  · have ones := leadingOnes_four (point / 262144) (by omega)
    exact ⟨_, _, rfl, .inr (by rw [ones]; exact ⟨by decide, by decide, rfl⟩)⟩

/-- A byte that begins with a zero is the encoding of its own number. -/
theorem encodePoint_of_leadingOnes {byte : UInt8} (none_ : leadingOnes byte = 0) :
    Utf8.Scalar byte.toNat ∧ Utf8.encodePoint byte.toNat = [byte] := by
  have small : byte.toNat < 0x80 := by
    unfold leadingOnes at none_
    split at none_
    · rename_i below
      exact UInt8.lt_iff_toNat_lt.mp below
    · grind
  have valid : Utf8.Scalar byte.toNat := .inl (by omega)
  rw [Utf8.encodePoint, if_neg (not_not.mpr valid), if_pos small, UInt8.ofNat_toNat]
  exact ⟨valid, rfl⟩

/-- An escaped character is read exactly from the escapes of its bytes. -/
theorem readCharacter_iff {text rest : List Nat} {point : Nat} :
    readCharacter text = some (point, rest) ↔
      Utf8.Scalar point ∧ ∃ escapes, text = escapes ++ rest ∧
        Escapes (Utf8.encodePoint point) escapes := by
  constructor
  · intro read
    obtain ⟨⟨first, later⟩, start, chosen⟩ := Option.bind_eq_some_iff.mp read
    dsimp only at chosen
    obtain ⟨high, low, rfl, value⟩ := readEscape_iff.mp start
    split at chosen
    · rename_i none_
      cases chosen
      obtain ⟨valid, encoded⟩ := encodePoint_of_leadingOnes none_
      refine ⟨valid, [percentSign, high, low], rfl, ?_⟩
      rw [encoded]
      exact ⟨high, low, [], rfl, value, rfl⟩
    split at chosen
    · contradiction
    · obtain ⟨⟨others, last⟩, more, ended⟩ := Option.bind_eq_some_iff.mp chosen
      obtain ⟨character, sole, same⟩ := Option.bind_eq_some_iff.mp ended
      cases same
      obtain ⟨_, escapes, rfl, escaped⟩ := readEscapes_iff.mp more
      obtain ⟨valid, encoded⟩ := soleCharacter_iff.mp sole
      refine ⟨valid, percentSign :: high :: low :: escapes, rfl, ?_⟩
      rw [encoded]
      exact ⟨high, low, escapes, rfl, value, escaped⟩
  · rintro ⟨valid, escapes, rfl, escaped⟩
    obtain ⟨first, later, encoded, count⟩ := leadingOnes_encodePoint valid
    rw [encoded] at escaped
    obtain ⟨high, low, others, rfl, value, escaped⟩ := escaped
    have start : readEscape (percentSign :: high :: low :: others ++ rest) =
        some (first, others ++ rest) := readEscape_iff.mpr ⟨high, low, rfl, value⟩
    refine Option.bind_eq_some_iff.mpr ⟨_, start, ?_⟩
    dsimp only
    rcases count with ⟨none_, rfl, same⟩ | ⟨some_, few, length⟩
    · rw [if_pos none_, escaped.trans rfl, same]
      rfl
    · rw [if_neg (by omega), if_neg (by omega)]
      have more : readEscapes (leadingOnes first - 1) (others ++ rest) = some (later, rest) :=
        readEscapes_iff.mpr ⟨length, others, rfl, escaped⟩
      have sole := soleCharacter_iff.mpr ⟨valid, encoded⟩
      exact Option.bind_eq_some_iff.mpr ⟨_, more, Option.bind_eq_some_iff.mpr ⟨_, sole, rfl⟩⟩

/-- What stands for a character begins with a percent sign. -/
theorem Escapes.percent {point : Nat} {escapes : List Nat}
    (escaped : Escapes (Utf8.encodePoint point) escapes) :
    ∃ later, escapes = percentSign :: later := by
  obtain ⟨byte, bytes, encoded⟩ := List.exists_cons_of_ne_nil (Utf8.encodePoint_ne_nil point)
  rw [encoded] at escaped
  obtain ⟨high, low, rest, rfl, _⟩ := escaped
  exact ⟨_, rfl⟩

/-- The empty text denotes itself only. -/
theorem spells_nil {denoted : List Nat} : Spells [] denoted ↔ denoted = [] := by
  refine ⟨fun spells => ?_, fun none_ => none_ ▸ .nil⟩
  rcases (spells_iff _ _).mp spells with ⟨_, none_⟩ | ⟨_, _, _, _, _, same, _⟩ |
    ⟨_, _, _, _, _, escaped, _, same, _⟩
  · exact none_
  · contradiction
  · obtain ⟨later, rfl⟩ := escaped.percent
    contradiction

/-- A text that begins with another character than the percent sign. -/
theorem spells_plain {point : Nat} {text denoted : List Nat} (other : point ≠ percentSign) :
    Spells (point :: text) denoted ↔ ∃ later, Spells text later ∧ point :: later = denoted := by
  refine ⟨fun spells => ?_, ?_⟩
  · rcases (spells_iff _ _).mp spells with ⟨none_, _⟩ | ⟨_, _, later, _, rest, same, rfl⟩ |
      ⟨_, _, _, _, _, escaped, _, same, _⟩
    · contradiction
    · cases same
      exact ⟨later, rest, rfl⟩
    · obtain ⟨later, rfl⟩ := escaped.percent
      exact absurd (List.cons.inj same).1 other
  · rintro ⟨later, rest, rfl⟩
    exact .plain other rest

/-- A text that begins with a percent sign begins with an escaped character. -/
theorem spells_percent {text denoted : List Nat} :
    Spells (percentSign :: text) denoted ↔ ∃ character rest,
      readCharacter (percentSign :: text) = some (character, rest) ∧
        ∃ later, Spells rest later ∧ character :: later = denoted := by
  refine ⟨fun spells => ?_, ?_⟩
  · rcases (spells_iff _ _).mp spells with ⟨none_, _⟩ | ⟨_, _, _, other, _, same, _⟩ |
      ⟨character, escapes, rest, later, valid, escaped, others, same, rfl⟩
    · contradiction
    · exact absurd (List.cons.inj same).1.symm other
    · exact ⟨character, rest, readCharacter_iff.mpr ⟨valid, escapes, same, escaped⟩, later, others, rfl⟩
  · rintro ⟨character, rest, read, later, spells, rfl⟩
    obtain ⟨valid, escapes, same, escaped⟩ := readCharacter_iff.mp read
    rw [same]
    exact .escape valid escaped spells

/-- Every turn reads one character. -/
theorem percentDecodeLoop_iff {turns : Nat} {text denoted : List Nat} (enough : text.length ≤ turns) :
    percentDecodeLoop turns text = some denoted ↔ Spells text denoted := by
  induction turns generalizing text denoted with
  | zero =>
    rw [List.length_eq_zero_iff.mp (Nat.le_zero.mp enough), percentDecodeLoop, spells_nil]
    exact Option.some_inj.trans eq_comm
  | succ turns ih =>
    cases text with
    | nil =>
      rw [percentDecodeLoop, spells_nil]
      exact Option.some_inj.trans eq_comm
    | cons point text =>
      rw [percentDecodeLoop]
      by_cases percent : point = percentSign
      · rw [if_neg (not_not.mpr percent), percent, spells_percent, Option.bind_eq_bind,
          Option.bind_eq_some_iff]
        have shorter {character : Nat} {rest : List Nat}
            (read : readCharacter (percentSign :: text) = some (character, rest)) :
            rest.length ≤ turns := by
          obtain ⟨_, escapes, same, escaped⟩ := readCharacter_iff.mp read
          obtain ⟨later, rfl⟩ := escaped.percent
          have length := congrArg List.length same
          rw [List.cons_append, List.length_cons, List.length_cons, List.length_append] at length
          rw [List.length_cons] at enough
          omega
        constructor
        · rintro ⟨⟨character, rest⟩, read, more⟩
          obtain ⟨later, decoded, same⟩ := Option.map_eq_some_iff.mp more
          exact ⟨character, rest, read, later, (ih (shorter read)).mp decoded, same⟩
        · rintro ⟨character, rest, read, later, spells, same⟩
          exact ⟨(character, rest), read,
            Option.map_eq_some_iff.mpr ⟨later, (ih (shorter read)).mpr spells, same⟩⟩
      · rw [if_pos percent, spells_plain percent, Option.map_eq_some_iff]
        simp only [ih (Nat.le_of_succ_le_succ enough)]

/-- A text is decoded exactly when it is well formed, to the text that it denotes. -/
theorem percentDecode_iff {text denoted : List Nat} :
    percentDecode text = some denoted ↔ Spells text denoted :=
  percentDecodeLoop_iff (Nat.le_refl _)

end MultiUserChat
