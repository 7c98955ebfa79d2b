import Mathlib.Data.List.Basic
/-!
# Lossy UTF-8 decoding

The decoder that text APIs apply to arbitrary bytes: a state machine over the bytes that emits code
points, and the replacement character where the bytes are not well-formed. A byte that cannot
continue a sequence ends it with a replacement and is then read afresh. A zero byte never continues
a sequence and nothing else decodes to zero, so decoding commutes with splitting at zero bytes.
-/

namespace MultiUserChat.Utf8

/-- The state between two bytes. -/
structure State where
  /-- Continuation bytes still needed. -/
  needed : Nat
  /-- Bits of the code point read so far. -/
  codePoint : Nat
  /-- Least byte that continues the sequence. -/
  lower : UInt8
  /-- Greatest byte that continues the sequence. -/
  upper : UInt8
deriving DecidableEq

/-- The state outside any sequence. -/
def State.start : State := ⟨0, 0, 0x80, 0xbf⟩

/-- The replacement character. -/
def replacement : Nat := 0xfffd

/-- Read a byte outside any sequence. -/
def lead (byte : UInt8) : List Nat × State :=
  if byte ≤ 0x7f then ([byte.toNat], .start)
  else if 0xc2 ≤ byte ∧ byte ≤ 0xdf then ([], ⟨1, byte.toNat - 0xc0, 0x80, 0xbf⟩)
  else if 0xe0 ≤ byte ∧ byte ≤ 0xef then
    ([], ⟨2, byte.toNat - 0xe0, if byte = 0xe0 then 0xa0 else 0x80,
      if byte = 0xed then 0x9f else 0xbf⟩)
  else if 0xf0 ≤ byte ∧ byte ≤ 0xf4 then
    ([], ⟨3, byte.toNat - 0xf0, if byte = 0xf0 then 0x90 else 0x80,
      if byte = 0xf4 then 0x8f else 0xbf⟩)
  else ([replacement], .start)

/-- Read a byte. -/
def step (state : State) (byte : UInt8) : List Nat × State :=
  if state.needed = 0 then lead byte
  else if state.lower ≤ byte ∧ byte ≤ state.upper then
    let codePoint := state.codePoint * 64 + (byte.toNat - 0x80)
    if state.needed = 1 then ([codePoint], .start)
    else ([], ⟨state.needed - 1, codePoint, 0x80, 0xbf⟩)
  else
    let (points, next) := lead byte
    (replacement :: points, next)

/-- Read bytes from a state to the end of the input, where a sequence that is not complete becomes
a replacement. -/
def decodeFrom : State → List UInt8 → List Nat
  | state, [] => if state.needed = 0 then [] else [replacement]
  | state, byte :: rest => (step state byte).1 ++ decodeFrom (step state byte).2 rest

/-- The code points of a byte string. -/
def decode (bytes : List UInt8) : List Nat := decodeFrom .start bytes

/-- Continuation bytes are at least `0x80`, and the bits read so far will not all be zero. -/
structure State.Sound (state : State) : Prop where
  /-- A zero byte continues nothing. -/
  continuation : 0x80 ≤ state.lower
  /-- Some bit of the code point is or will be set. -/
  positive : state.needed ≠ 0 → 0 < state.codePoint ∨ 0x80 < state.lower

/-- The state outside any sequence is sound. -/
theorem sound_start : State.start.Sound := ⟨by decide, fun needed => absurd rfl needed⟩

/-- Reading a byte outside any sequence leaves a sound state, and emits zero only for zero. -/
theorem lead_sound (byte : UInt8) :
    (lead byte).2.Sound ∧ (byte ≠ 0 → 0 ∉ (lead byte).1) := by
  unfold lead
  split
  · refine ⟨sound_start, fun nonzero => ?_⟩
    simpa using fun zero : 0 = byte.toNat => nonzero (UInt8.toNat_inj.mp zero.symm)
  split
  · rename_i _ range
    have low : (0xc2 : UInt8).toNat ≤ byte.toNat := range.1
    refine ⟨⟨UInt8.le_refl _, fun _ => .inl ?_⟩, by simp⟩
    have value : (0xc2 : UInt8).toNat = 0xc2 := rfl
    dsimp only
    omega
  split
  · rename_i _ _ range
    have low : (0xe0 : UInt8).toNat ≤ byte.toNat := range.1
    have value : (0xe0 : UInt8).toNat = 0xe0 := rfl
    by_cases first : byte = 0xe0
    · subst first
      exact ⟨⟨by decide, fun _ => .inr (by decide)⟩, by simp⟩
    · have different : byte.toNat ≠ 0xe0 := fun same => first (UInt8.toNat_inj.mp same)
      refine ⟨⟨by simp [first], fun _ => .inl ?_⟩, by simp⟩
      dsimp only
      omega
  split
  · rename_i _ _ _ range
    have low : (0xf0 : UInt8).toNat ≤ byte.toNat := range.1
    have value : (0xf0 : UInt8).toNat = 0xf0 := rfl
    by_cases first : byte = 0xf0
    · subst first
      exact ⟨⟨by decide, fun _ => .inr (by decide)⟩, by simp⟩
    · have different : byte.toNat ≠ 0xf0 := fun same => first (UInt8.toNat_inj.mp same)
      refine ⟨⟨by simp [first], fun _ => .inl ?_⟩, by simp⟩
      dsimp only
      omega
  · exact ⟨sound_start, fun _ => by decide⟩

/-- Reading a byte leaves a sound state, and emits zero only for zero. -/
theorem step_sound {state : State} (sound : state.Sound) (byte : UInt8) :
    (step state byte).2.Sound ∧ (byte ≠ 0 → 0 ∉ (step state byte).1) := by
  unfold step
  split
  · exact lead_sound byte
  rename_i needed
  split
  · rename_i range
    have low : state.lower.toNat ≤ byte.toNat := range.1
    have least : (0x80 : UInt8).toNat ≤ state.lower.toNat := sound.continuation
    have value : (0x80 : UInt8).toNat = 0x80 := rfl
    have bits : 0 < state.codePoint * 64 + (byte.toNat - 0x80) := by
      rcases sound.positive needed with some_ | above
      · omega
      · have above : (0x80 : UInt8).toNat < state.lower.toNat := above
        omega
    dsimp only
    split
    · refine ⟨sound_start, fun _ => ?_⟩
      simpa using Nat.ne_of_lt bits
    · exact ⟨⟨UInt8.le_refl _, fun _ => .inl bits⟩, by simp⟩
  · obtain ⟨sound, nonzero⟩ := lead_sound byte
    refine ⟨sound, fun different => ?_⟩
    simpa [replacement] using nonzero different

/-- Only a zero byte decodes to zero. -/
theorem decodeFrom_nulFree {state : State} (sound : state.Sound) {bytes : List UInt8}
    (nulFree : 0 ∉ bytes) : 0 ∉ decodeFrom state bytes := by
  induction bytes generalizing state with
  | nil =>
    unfold decodeFrom
    split
    · exact List.not_mem_nil
    · decide
  | cons byte rest ih =>
    rw [List.mem_cons, not_or] at nulFree
    obtain ⟨first, later⟩ := nulFree
    obtain ⟨next, nonzero⟩ := step_sound sound byte
    rw [decodeFrom, List.mem_append, not_or]
    exact ⟨nonzero fun zero => first zero.symm, ih next later⟩

/-- A zero byte ends whatever sequence is open, as the end of the input does. -/
theorem decodeFrom_nul {state : State} (sound : state.Sound) (rest : List UInt8) :
    decodeFrom state (0 :: rest) = decodeFrom state [] ++ 0 :: decode rest := by
  rw [decodeFrom, decodeFrom, step]
  by_cases outside : state.needed = 0
  · rw [if_pos outside, if_pos outside]
    rfl
  · have refused : ¬ (state.lower ≤ 0 ∧ 0 ≤ state.upper) := by
      rintro ⟨low, _⟩
      have low : state.lower.toNat ≤ (0 : UInt8).toNat := low
      have least : (0x80 : UInt8).toNat ≤ state.lower.toNat := sound.continuation
      have zero : (0 : UInt8).toNat = 0 := rfl
      have value : (0x80 : UInt8).toNat = 0x80 := rfl
      omega
    rw [if_neg outside, if_neg refused, if_neg outside]
    rfl

/-- Decoding from a state treats a zero byte as a boundary. -/
theorem decodeFrom_append_nul {state : State} (sound : state.Sound) (first rest : List UInt8) :
    decodeFrom state (first ++ 0 :: rest) = decodeFrom state first ++ 0 :: decode rest := by
  induction first generalizing state with
  | nil => exact decodeFrom_nul sound rest
  | cons byte first ih =>
    rw [List.cons_append, decodeFrom, decodeFrom, ih (step_sound sound byte).1, List.append_assoc]

/-- Decoding treats a zero byte as a boundary. -/
theorem decode_append_nul (first rest : List UInt8) :
    decode (first ++ 0 :: rest) = decode first ++ 0 :: decode rest :=
  decodeFrom_append_nul sound_start first rest

/-- Bytes without a zero decode to text without a zero. -/
theorem decode_nulFree {bytes : List UInt8} (nulFree : 0 ∉ bytes) : 0 ∉ decode bytes :=
  decodeFrom_nulFree sound_start nulFree

/-- Decoding distributes over fields that are separated by zero bytes. -/
theorem decode_intercalate (fields : List (List UInt8)) :
    decode ([(0 : UInt8)].intercalate fields) = [0].intercalate (fields.map decode) := by
  induction fields with
  | nil => rfl
  | cons field fields ih =>
    cases fields with
    | nil => simp [List.intercalate]
    | cons next fields =>
      rw [List.map_cons, List.map_cons, List.intercalate_cons_cons, List.intercalate_cons_cons,
        ← List.map_cons, ← ih, List.append_assoc, List.append_assoc, List.singleton_append,
        List.singleton_append, decode_append_nul]

/-- Splitting the decoded text at zero recovers the decoded fields. -/
theorem decode_splitOn {fields : List (List UInt8)} (nonempty : fields ≠ [])
    (nulFree : ∀ field ∈ fields, 0 ∉ field) :
    (decode ([(0 : UInt8)].intercalate fields)).splitOn 0 = fields.map decode := by
  rw [decode_intercalate]
  refine List.splitOn_intercalate 0 ?_ (by simpa using nonempty)
  intro text member
  obtain ⟨field, inside, rfl⟩ := List.mem_map.mp member
  exact decode_nulFree (nulFree field inside)

/-- Two-, three- and four-byte sequences, and a truncated one followed by a letter. -/
example : decode [0xc3, 0xa9, 0xe4, 0xb8, 0xad, 0xf0, 0x9f, 0x98, 0x80, 0xe4, 0xb8, 0x61] =
    [0xe9, 0x4e2d, 0x1f600, 0xfffd, 0x61] := by decide

end MultiUserChat.Utf8
