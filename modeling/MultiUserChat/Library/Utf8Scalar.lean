import MultiUserChat.Library.Utf16
import MultiUserChat.Library.Utf8Encode
/-!
# What decoding yields

Decoded bytes are scalar values: inside a sequence, the code points that it can still come to lie on
one side of the surrogates (`State.Whole`). A text of scalar values is a string of every encoding.
-/

namespace MultiUserChat.Utf8

/-- The code points that a sequence can still come to are scalar values. -/
def State.Whole (state : State) : Prop :=
  state.needed ≠ 0 →
    (state.codePoint * 64 + (state.upper.toNat - 0x80) + 1) * 64 ^ (state.needed - 1) ≤ 0xd800 ∨
      0xe000 ≤ (state.codePoint * 64 + (state.lower.toNat - 0x80)) * 64 ^ (state.needed - 1) ∧
        (state.codePoint * 64 + (state.upper.toNat - 0x80) + 1) * 64 ^ (state.needed - 1) ≤ 0x110000

instance (state : State) : Decidable state.Whole := inferInstanceAs (Decidable (_ → _))

/-- A byte outside any sequence. -/
theorem lead_whole (byte : UInt8) :
    (∀ point ∈ (lead byte).1, Scalar point) ∧ (lead byte).2.Whole := by
  have all : ∀ value < 256, (∀ point ∈ (lead (UInt8.ofNat value)).1, Scalar point) ∧
      (lead (UInt8.ofNat value)).2.Whole := by
    decide +kernel
  simpa using all byte.toNat byte.toNat_lt

/-- Every byte. -/
theorem step_whole {state : State} (whole : state.Whole) (byte : UInt8) :
    (∀ point ∈ (step state byte).1, Scalar point) ∧ (step state byte).2.Whole := by
  unfold step
  split
  · exact lead_whole byte
  rename_i needed
  split
  · rename_i range
    have low : state.lower.toNat ≤ byte.toNat := range.1
    have high : byte.toNat ≤ state.upper.toNat := range.2
    have sides := whole needed
    obtain ⟨more, same⟩ := Nat.exists_eq_succ_of_ne_zero needed
    dsimp only
    cases more with
    | zero =>
      have last : state.needed = 1 := same
      rw [last, Nat.sub_self, Nat.pow_zero, Nat.mul_one, Nat.mul_one] at sides
      rw [if_pos last]
      refine ⟨fun point inside => ?_, by simp [State.Whole, State.start]⟩
      rw [List.mem_singleton.mp inside]
      unfold Scalar
      omega
    | succ more =>
      have inside : state.needed ≠ 1 := by omega
      rw [if_neg inside]
      refine ⟨by simp, fun _ => ?_⟩
      have power : 64 ^ (state.needed - 1) = 64 * 64 ^ more := by
        rw [same, Nat.succ_sub_one, Nat.pow_succ, Nat.mul_comm]
      have fewer : state.needed - 1 - 1 = more := by omega
      rw [power, ← Nat.mul_assoc, ← Nat.mul_assoc] at sides
      simp only [fewer, UInt8.reduceToNat]
      rcases sides with below | ⟨above, bound⟩
      · exact .inl (Nat.le_trans (Nat.mul_le_mul_right _ (by omega)) below)
      · exact .inr ⟨Nat.le_trans above (Nat.mul_le_mul_right _ (by omega)),
          Nat.le_trans (Nat.mul_le_mul_right _ (by omega)) bound⟩
  · obtain ⟨scalars, next⟩ := lead_whole byte
    refine ⟨fun point inside => ?_, next⟩
    rcases List.mem_cons.mp inside with rfl | inside
    · decide
    · exact scalars point inside

/-- Decoding yields scalar values. -/
theorem decodeFrom_scalar {state : State} (whole : state.Whole) (bytes : List UInt8) :
    ∀ point ∈ decodeFrom state bytes, Scalar point := by
  induction bytes generalizing state with
  | nil =>
    unfold decodeFrom
    split
    · simp
    · decide
  | cons byte rest ih =>
    obtain ⟨scalars, next⟩ := step_whole whole byte
    rw [decodeFrom]
    intro point inside
    exact (List.mem_append.mp inside).elim (scalars point) (ih next point)

/-- What is decoded is a text of scalar values. -/
theorem decode_scalar (bytes : List UInt8) : ∀ point ∈ decode bytes, Scalar point :=
  decodeFrom_scalar (by decide) bytes

/-- A text of scalar values is a string. -/
theorem paired_of_scalar {text : List Nat} (scalars : ∀ point ∈ text, Scalar point) :
    Utf16.Paired text := by
  constructor
  · apply List.isChain_iff_forall_rel_of_append_cons_cons.mpr
    rintro first second front back rfl ⟨⟨above, below⟩, _⟩
    have scalar := scalars first (by simp)
    unfold Scalar at scalar
    omega
  · intro point inside
    have scalar := scalars point inside
    unfold Scalar at scalar
    omega

end MultiUserChat.Utf8
