import Mathlib.Algebra.Group.Nat.Defs
import MultiUserChat.Library.Utf8
/-!
# UTF-8 encoding

The encoder that belongs to the lossy decoder. A text is a list of code points, in which surrogates
may stand alone; they and numbers past the last code point are written as the replacement character.
Decoding what was encoded returns the text with these replaced (`decode_encode`), so a byte string is
the encoding of some text exactly when decoding and encoding it again gives it back
(`encode_decode_iff`). Decoding never loses bytes: encoded again, the text is at least as long
(`length_le_encode_decode`).
-/

namespace MultiUserChat.Utf8

/-- The bytes of the replacement character. -/
def replacementBytes : List UInt8 := [0xef, 0xbf, 0xbd]

/-- A code point that is not a surrogate. -/
def Scalar (point : Nat) : Prop := point < 0xd800 ∨ 0xe000 ≤ point ∧ point < 0x110000

instance (point : Nat) : Decidable (Scalar point) :=
  inferInstanceAs (Decidable (point < 0xd800 ∨ 0xe000 ≤ point ∧ point < 0x110000))

/-- The continuation byte with the given six bits. -/
def continuation (bits : Nat) : UInt8 := UInt8.ofNat (0x80 + bits % 64)

/-- The bytes of a code point. -/
def encodePoint (point : Nat) : List UInt8 :=
  if ¬ Scalar point then replacementBytes
  else if point < 0x80 then [UInt8.ofNat point]
  else if point < 0x800 then [UInt8.ofNat (0xc0 + point / 64), continuation point]
  else if point < 0x10000 then
    [UInt8.ofNat (0xe0 + point / 4096), continuation (point / 64), continuation point]
  else
    [UInt8.ofNat (0xf0 + point / 262144), continuation (point / 4096), continuation (point / 64),
      continuation point]

/-- The bytes of a text. -/
def encode (text : List Nat) : List UInt8 := text.flatMap encodePoint

/-- The code point that is left of one that has been encoded. -/
def scalar (point : Nat) : Nat := if Scalar point then point else replacement

@[simp]
theorem encode_nil : encode [] = [] := rfl

@[simp]
theorem encode_cons (point : Nat) (text : List Nat) :
    encode (point :: text) = encodePoint point ++ encode text := List.flatMap_cons

@[simp]
theorem encode_append (text later : List Nat) :
    encode (text ++ later) = encode text ++ encode later := List.flatMap_append

/-! ## Decoding what was encoded -/

/-- A byte that continues a sequence adds its six bits. -/
theorem step_continuation {state : State} {bits : Nat} (needed : state.needed ≠ 0)
    (low : state.lower ≤ continuation bits) (high : continuation bits ≤ state.upper) :
    step state (continuation bits) =
      if state.needed = 1 then ([state.codePoint * 64 + bits % 64], .start)
      else ([], ⟨state.needed - 1, state.codePoint * 64 + bits % 64, 0x80, 0xbf⟩) := by
  have value : (continuation bits).toNat - 0x80 = bits % 64 := by
    rw [continuation, UInt8.toNat_ofNat']
    omega
  rw [step, if_neg needed, if_pos ⟨low, high⟩, value]

/-- Continuation bytes are between `0x80` and `0xbf`. -/
theorem continuation_range (bits : Nat) : 0x80 ≤ continuation bits ∧ continuation bits ≤ 0xbf := by
  have value : (continuation bits).toNat = 0x80 + bits % 64 := by
    rw [continuation, UInt8.toNat_ofNat']
    omega
  refine ⟨UInt8.le_iff_toNat_le.mpr ?_, UInt8.le_iff_toNat_le.mpr ?_⟩ <;>
    rw [value] <;> simp only [UInt8.reduceToNat] <;> omega

/-- The last byte of a sequence emits its code point. -/
theorem step_last (codePoint bits : Nat) :
    step ⟨1, codePoint, 0x80, 0xbf⟩ (continuation bits) =
      ([codePoint * 64 + bits % 64], .start) :=
  step_continuation Nat.one_ne_zero (continuation_range bits).1 (continuation_range bits).2

/-- A byte in the middle of a sequence. -/
theorem step_middle (needed codePoint : Nat) {lower upper : UInt8} {bits : Nat}
    (low : lower ≤ continuation bits) (high : continuation bits ≤ upper) :
    step ⟨needed + 2, codePoint, lower, upper⟩ (continuation bits) =
      ([], ⟨needed + 1, codePoint * 64 + bits % 64, 0x80, 0xbf⟩) :=
  (step_continuation (Nat.succ_ne_zero _) low high).trans (if_neg (by simp))

/-- The first byte of a code point of one byte. -/
theorem step_ascii : ∀ point < 0x80, step .start (UInt8.ofNat point) = ([point], .start) := by
  decide

/-- The first byte of a code point of two bytes. -/
theorem step_two : ∀ bits < 0x20, 2 ≤ bits →
    step .start (UInt8.ofNat (0xc0 + bits)) = ([], ⟨1, bits, 0x80, 0xbf⟩) := by
  decide

/-- The first byte of a code point of three bytes. -/
theorem step_three : ∀ bits < 0x10, step .start (UInt8.ofNat (0xe0 + bits)) =
    ([], ⟨2, bits, if bits = 0 then 0xa0 else 0x80, if bits = 0xd then 0x9f else 0xbf⟩) := by
  decide

/-- The first byte of a code point of four bytes. -/
theorem step_four : ∀ bits < 5, step .start (UInt8.ofNat (0xf0 + bits)) =
    ([], ⟨3, bits, if bits = 0 then 0x90 else 0x80, if bits = 4 then 0x8f else 0xbf⟩) := by
  decide

/-- Decoding goes on with the state that a byte leaves. -/
theorem decodeFrom_cons {state next : State} {byte : UInt8} {points : List Nat}
    (read : step state byte = (points, next)) (rest : List UInt8) :
    decodeFrom state (byte :: rest) = points ++ decodeFrom next rest := by
  rw [decodeFrom, read]

/-- The bounds on the second byte, as bounds on its six bits. -/
theorem second_range {lower upper bits : Nat} (low : lower ≤ bits % 64) (high : bits % 64 ≤ upper)
    (bound : upper < 64) :
    UInt8.ofNat (0x80 + lower) ≤ continuation bits ∧
      continuation bits ≤ UInt8.ofNat (0x80 + upper) := by
  have value : (continuation bits).toNat = 0x80 + bits % 64 := by
    rw [continuation, UInt8.toNat_ofNat']
    omega
  refine ⟨UInt8.le_iff_toNat_le.mpr ?_, UInt8.le_iff_toNat_le.mpr ?_⟩ <;>
    rw [value, UInt8.toNat_ofNat'] <;> omega

/-- Decoding the bytes of a code point of three bytes. -/
theorem decodeFrom_three {point : Nat} (valid : Scalar point) (low : 0x800 ≤ point)
    (high : point < 0x10000) (rest : List UInt8) :
    decodeFrom .start (UInt8.ofNat (0xe0 + point / 4096) :: continuation (point / 64) ::
      continuation point :: rest) = point :: decodeFrom .start rest := by
  have surrogate : point / 4096 = 0xd → point / 64 % 64 ≤ 0x1f := by
    unfold Scalar at valid
    omega
  have second : (if point / 4096 = 0 then (0xa0 : UInt8) else 0x80) ≤ continuation (point / 64) ∧
      continuation (point / 64) ≤ if point / 4096 = 0xd then (0x9f : UInt8) else 0xbf := by
    split
    · rw [if_neg (by omega)]
      exact @second_range 0x20 0x3f _ (by omega) (by omega) (by omega)
    · split
      · exact @second_range 0 0x1f _ (by omega) (by omega) (by omega)
      · exact continuation_range _
  have value : (point / 4096 * 64 + point / 64 % 64) * 64 + point % 64 = point := by omega
  rw [decodeFrom_cons (step_three _ (by omega)),
    decodeFrom_cons (step_middle 0 _ second.1 second.2), decodeFrom_cons (step_last _ _), value]
  rfl

/-- Decoding the bytes of a code point of four bytes. -/
theorem decodeFrom_four {point : Nat} (low : 0x10000 ≤ point) (high : point < 0x110000)
    (rest : List UInt8) :
    decodeFrom .start (UInt8.ofNat (0xf0 + point / 262144) :: continuation (point / 4096) ::
      continuation (point / 64) :: continuation point :: rest) =
      point :: decodeFrom .start rest := by
  have second : (if point / 262144 = 0 then (0x90 : UInt8) else 0x80) ≤
        continuation (point / 4096) ∧
      continuation (point / 4096) ≤ if point / 262144 = 4 then (0x8f : UInt8) else 0xbf := by
    split
    · rw [if_neg (by omega)]
      exact @second_range 0x10 0x3f _ (by omega) (by omega) (by omega)
    · split
      · exact @second_range 0 0x0f _ (by omega) (by omega) (by omega)
      · exact continuation_range _
  have value : ((point / 262144 * 64 + point / 4096 % 64) * 64 + point / 64 % 64) * 64 +
      point % 64 = point := by omega
  have third := continuation_range (point / 64)
  rw [decodeFrom_cons (step_four _ (by omega)),
    decodeFrom_cons (step_middle 1 _ second.1 second.2),
    decodeFrom_cons (step_middle 0 _ third.1 third.2), decodeFrom_cons (step_last _ _), value]
  rfl

/-- Decoding the bytes of a code point, whatever follows them. -/
theorem decode_encodePoint (point : Nat) (rest : List UInt8) :
    decode (encodePoint point ++ rest) = scalar point :: decode rest := by
  unfold encodePoint scalar decode
  by_cases valid : Scalar point
  · rw [if_neg (not_not_intro valid), if_pos valid]
    split
    · rename_i one
      exact decodeFrom_cons (step_ascii point one) rest
    split
    · have value : point / 64 * 64 + point % 64 = point := by omega
      refine (decodeFrom_cons (step_two _ (by omega) (by omega)) _).trans ?_
      refine (decodeFrom_cons (step_last _ _) _).trans ?_
      rw [value]
      rfl
    split
    · rename_i three
      exact decodeFrom_three valid (by omega) three rest
    · unfold Scalar at valid
      exact decodeFrom_four (by omega) (by omega) rest
  · rw [if_pos valid, if_neg valid]
    rfl

/-- Decoding what was encoded, whatever follows it. -/
theorem decode_encode_append (text : List Nat) (rest : List UInt8) :
    decode (encode text ++ rest) = text.map scalar ++ decode rest := by
  induction text with
  | nil => rfl
  | cons point text ih =>
    rw [encode_cons, List.append_assoc, decode_encodePoint, ih]
    rfl

/-- Decoding what was encoded. -/
theorem decode_encode (text : List Nat) : decode (encode text) = text.map scalar := by
  have whole := decode_encode_append text []
  rwa [List.append_nil, show decode [] = [] from rfl, List.append_nil] at whole

/-- A code point is left as it is exactly when it is no surrogate. -/
theorem scalar_eq_self {point : Nat} : scalar point = point ↔ Scalar point := by
  unfold scalar
  constructor
  · intro same
    by_contra lone
    rw [if_neg lone] at same
    exact lone (same ▸ by decide)
  · exact fun valid => if_pos valid

/-- A text is read back exactly when it has no surrogate. -/
theorem decode_encode_iff {text : List Nat} :
    decode (encode text) = text ↔ ∀ point ∈ text, Scalar point := by
  have kept : text.map scalar = text ↔ text.map scalar = text.map id := by rw [List.map_id]
  rw [decode_encode, kept, List.map_inj_left]
  exact forall₂_congr fun _ _ => scalar_eq_self

/-- A text without surrogates is read back. -/
theorem decode_encode_of_scalar {text : List Nat} (valid : ∀ point ∈ text, Scalar point) :
    decode (encode text) = text := decode_encode_iff.mpr valid

/-- Encoding does not see the replacements. -/
theorem encodePoint_scalar (point : Nat) : encodePoint (scalar point) = encodePoint point := by
  unfold scalar
  split
  · rfl
  · rename_i invalid
    rw [encodePoint, encodePoint, if_pos invalid]
    rfl

/-- The encodings of texts are the byte strings that survive decoding. -/
theorem encode_decode_iff {bytes : List UInt8} :
    encode (decode bytes) = bytes ↔ ∃ text, bytes = encode text := by
  refine ⟨fun same => ⟨_, same.symm⟩, ?_⟩
  rintro ⟨text, rfl⟩
  rw [decode_encode, encode, List.flatMap_map]
  exact congrArg (text.flatMap ·) (funext encodePoint_scalar)

/-! ## ASCII bytes -/

/-- A code point is written with an ASCII byte only when it is that byte. -/
theorem ascii_mem_encodePoint {byte : UInt8} (ascii : byte.toNat < 0x80) {point : Nat} :
    byte ∈ encodePoint point ↔ point = byte.toNat := by
  have continued (bits : Nat) : byte ≠ continuation bits := by
    rintro rfl
    have low := UInt8.le_iff_toNat_le.mp (continuation_range bits).1
    exact absurd ascii (Nat.not_lt.mpr low)
  have leading (value : Nat) (low : 0x80 ≤ value) (high : value < 256) :
      byte ≠ UInt8.ofNat value := by
    rintro rfl
    rw [UInt8.toNat_ofNat'] at ascii
    omega
  unfold encodePoint
  split
  · rename_i invalid
    unfold Scalar at invalid
    have other : point ≠ byte.toNat := by omega
    have replaced : byte ∉ replacementBytes := by
      intro member
      simp only [replacementBytes, List.mem_cons, List.not_mem_nil, or_false] at member
      rcases member with rfl | rfl | rfl <;> exact absurd ascii (by decide)
    exact iff_of_false replaced other
  rename_i valid
  have bound : point < 0x110000 := by
    have valid := Decidable.not_not.mp valid
    unfold Scalar at valid
    omega
  split
  · rename_i small
    rw [List.mem_singleton, ← UInt8.toNat_inj, UInt8.toNat_ofNat', Nat.mod_eq_of_lt (by omega),
      eq_comm]
  split
  · have other : point ≠ byte.toNat := by omega
    simp only [List.mem_cons, List.not_mem_nil, continued, other, or_false, iff_false]
    exact leading _ (by omega) (by omega)
  split
  · have other : point ≠ byte.toNat := by omega
    simp only [List.mem_cons, List.not_mem_nil, continued, other, or_false, iff_false]
    exact leading _ (by omega) (by omega)
  · have other : point ≠ byte.toNat := by omega
    simp only [List.mem_cons, List.not_mem_nil, continued, other, or_false, iff_false]
    exact leading _ (by omega) (by omega)

/-- A text is written with an ASCII byte only when it has that code point. -/
theorem ascii_mem_encode {byte : UInt8} (ascii : byte.toNat < 0x80) {text : List Nat} :
    byte ∈ encode text ↔ byte.toNat ∈ text := by
  simp only [encode, List.mem_flatMap, ascii_mem_encodePoint ascii, exists_eq_right]

/-- A text is written with a zero byte only when it has the code point zero. -/
theorem zero_mem_encode {text : List Nat} : 0 ∈ encode text ↔ 0 ∈ text :=
  ascii_mem_encode (by decide)

/-! ## Lengths -/

/-- The least code point that takes the given number of bytes. -/
def shortest (bytes : Nat) : Nat :=
  if bytes ≤ 2 then 0x80 else if bytes = 3 then 0x800 else 0x10000

/-- A state inside a sequence of which so many bytes have been read: the code points that it can
still come to take the bytes of the whole sequence. -/
def State.Pending (state : State) (consumed : Nat) : Prop :=
  state.needed ≠ 0 ∧ consumed + state.needed ≤ 4 ∧
    shortest (consumed + state.needed) ≤
      (state.codePoint * 64 + (state.lower.toNat - 0x80)) * 64 ^ (state.needed - 1) ∧
    (state.codePoint * 64 + (state.upper.toNat - 0x80) + 1) * 64 ^ (state.needed - 1) ≤ 0x110000

instance (state : State) (consumed : Nat) : Decidable (state.Pending consumed) :=
  inferInstanceAs (Decidable (_ ∧ _ ∧ _ ∧ _))

/-- The first byte of a sequence leaves a pending state, or it is no such byte and something is
emitted. -/
theorem lead_pending (byte : UInt8) :
    (lead byte).1 = [] ∧ (lead byte).2.Pending 1 ∨
      (lead byte).1 ≠ [] ∧ (lead byte).2 = .start := by
  have all : ∀ value < 256, (lead (UInt8.ofNat value)).1 = [] ∧
      (lead (UInt8.ofNat value)).2.Pending 1 ∨
      (lead (UInt8.ofNat value)).1 ≠ [] ∧ (lead (UInt8.ofNat value)).2 = .start := by
    decide +kernel
  simpa using all byte.toNat byte.toNat_lt

/-- Every code point takes a byte. -/
theorem encodePoint_ne_nil (point : Nat) : encodePoint point ≠ [] := by
  unfold encodePoint
  repeat' split
  all_goals simp [replacementBytes]

/-- Only the empty text is written as nothing. -/
theorem encode_eq_nil {text : List Nat} : encode text = [] ↔ text = [] := by
  cases text with
  | nil => exact iff_of_true rfl rfl
  | cons point text => simp [encodePoint_ne_nil]

/-- A text has at least as many bytes as code points. -/
theorem length_le_encode (text : List Nat) : text.length ≤ (encode text).length := by
  induction text with
  | nil => exact Nat.le_refl _
  | cons point text ih =>
    have some_ := List.length_pos_of_ne_nil (encodePoint_ne_nil point)
    rw [encode_cons, List.length_append, List.length_cons]
    omega

/-- A code point from the shortest on takes as many bytes. -/
theorem le_encodePoint_length {point bytes : Nat} (few : bytes ≤ 4) (long : shortest bytes ≤ point)
    (valid : point < 0x110000) : bytes ≤ (encodePoint point).length := by
  unfold shortest at long
  unfold encodePoint Scalar replacementBytes
  split
  · split at long
    · exact Nat.le_trans (by assumption) (by simp)
    split at long <;> simp only [List.length_cons, List.length_nil] <;> omega
  repeat' split
  all_goals
    simp only [List.length_cons, List.length_nil]
    split at long
    · omega
    split at long <;> omega

/-- A byte that continues a pending state completes it, or leaves it pending. -/
theorem step_pending {state : State} {consumed : Nat} {byte : UInt8}
    (pending : state.Pending consumed) (low : state.lower ≤ byte) (high : byte ≤ state.upper) :
    (∃ point, step state byte = ([point], .start) ∧
        consumed + 1 ≤ (encodePoint point).length) ∨
      (step state byte).1 = [] ∧ (step state byte).2.Pending (consumed + 1) := by
  obtain ⟨needed, total, least, greatest⟩ := pending
  have low' : state.lower.toNat ≤ byte.toNat := low
  have high' : byte.toNat ≤ state.upper.toNat := high
  rw [step, if_neg needed, if_pos ⟨low, high⟩]
  obtain ⟨more, same⟩ := Nat.exists_eq_succ_of_ne_zero needed
  cases more with
  | zero =>
    simp only [same, Nat.succ_eq_add_one, Nat.zero_add, ↓reduceIte, Nat.sub_self, Nat.pow_zero,
      Nat.mul_one] at total least greatest ⊢
    exact .inl ⟨_, rfl, le_encodePoint_length total (by omega) (by omega)⟩
  | succ more =>
    have inside : state.needed ≠ 1 := by omega
    have value : consumed + 1 + (more + 1) = consumed + state.needed := by omega
    have power : 64 ^ (state.needed - 1) = 64 * 64 ^ more := by
      rw [same, Nat.succ_sub_one, Nat.pow_succ, Nat.mul_comm]
    rw [power, ← Nat.mul_assoc] at least greatest
    simp only [if_neg inside]
    refine .inr ⟨trivial, ?_⟩
    rw [same, Nat.succ_sub_one]
    refine ⟨Nat.succ_ne_zero _, Nat.le_trans (Nat.le_of_eq value) total, ?_, ?_⟩
    · rw [value]
      exact Nat.le_trans least (Nat.mul_le_mul_right _ (by simp only [UInt8.reduceToNat]; omega))
    · refine Nat.le_trans (Nat.mul_le_mul_right _ ?_) greatest
      simp only [UInt8.reduceToNat]
      omega

/-- Decoding from a state loses no bytes, with those of the sequence it is in counted. -/
theorem length_le_encode_decodeFrom (bytes : List UInt8) :
    bytes.length ≤ (encode (decodeFrom .start bytes)).length ∧
      ∀ state consumed, State.Pending state consumed →
        consumed + bytes.length ≤ (encode (decodeFrom state bytes)).length := by
  induction bytes with
  | nil =>
    refine ⟨Nat.zero_le _, fun state consumed pending => ?_⟩
    obtain ⟨needed, total, _, _⟩ := pending
    have three : (encode (decodeFrom state [])).length = 3 := by
      rw [decodeFrom, if_neg needed]
      rfl
    rw [three, List.length_nil]
    omega
  | cons byte rest ih =>
    obtain ⟨outside, inside⟩ := ih
    -- What a byte outside any sequence comes to.
    have leading : rest.length + 1 ≤
        (encode ((lead byte).1 ++ decodeFrom (lead byte).2 rest)).length := by
      rcases lead_pending byte with ⟨nothing, pending⟩ | ⟨some_, start⟩
      · rw [nothing, List.nil_append, Nat.add_comm]
        exact inside _ 1 pending
      · have positive := List.length_pos_of_ne_nil some_
        have emitted := length_le_encode (lead byte).1
        rw [start, encode_append, List.length_append]
        omega
    refine ⟨leading, fun state consumed pending => ?_⟩
    rw [decodeFrom, List.length_cons]
    by_cases range : state.lower ≤ byte ∧ byte ≤ state.upper
    · rcases step_pending pending range.1 range.2 with ⟨point, read, long⟩ | ⟨nothing, pending⟩
      · simp only [read, encode_append, List.length_append, encode_cons, encode_nil,
          List.append_nil]
        omega
      · rw [nothing, List.nil_append]
        have later := inside _ _ pending
        omega
    · obtain ⟨needed, total, _, _⟩ := pending
      rw [step, if_neg needed, if_neg range]
      simp only [List.cons_append, encode_cons, List.length_append] at leading ⊢
      have three : (encodePoint replacement).length = 3 := rfl
      omega

/-- Decoding loses no bytes. -/
theorem length_le_encode_decode (bytes : List UInt8) :
    bytes.length ≤ (encode (decode bytes)).length := (length_le_encode_decodeFrom bytes).1

end MultiUserChat.Utf8
