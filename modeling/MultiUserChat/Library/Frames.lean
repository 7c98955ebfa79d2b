import Mathlib.Data.List.Basic
/-!
# Streams of frames

A `Framing` looks at the front of a stream and says that it needs more, that the stream is malformed,
or which symbols form the next frame. Its answer does not change when more of the stream arrives, so
decoding a stream piece by piece, with the undecided rest carried over, finds the frames of the whole
stream (`decode_append`).
-/

namespace MultiUserChat

/-- What the front of a stream is. -/
inductive Cut (α : Type)
  /-- Not enough to tell. -/
  | more
  /-- Malformed. -/
  | reject
  /-- A frame and what follows it. -/
  | frame (bytes rest : List α)
deriving DecidableEq

/-- A rule that cuts a stream into frames. -/
structure Framing (α : Type) where
  /-- The front of a stream. -/
  cut : List α → Cut α
  /-- A frame is a part of the stream that is not empty. -/
  split : ∀ {stream bytes rest}, cut stream = .frame bytes rest →
    bytes ≠ [] ∧ stream = bytes ++ rest
  /-- A frame stays a frame when more arrives. -/
  frame_append : ∀ {stream bytes rest}, cut stream = .frame bytes rest →
    ∀ later, cut (stream ++ later) = .frame bytes (rest ++ later)
  /-- A malformed stream stays malformed. -/
  reject_append : ∀ {stream}, cut stream = .reject → ∀ later, cut (stream ++ later) = .reject

/-- What decoding a stream came to. -/
structure Decoded (α : Type) where
  /-- The frames, in order. -/
  frames : List (List α)
  /-- What follows the last of them. -/
  rest : List α
  /-- The rest is malformed. -/
  rejected : Bool
deriving DecidableEq

/-- The decoding that has another frame in front. -/
def Decoded.push {α : Type} (bytes : List α) (decoded : Decoded α) : Decoded α :=
  { decoded with frames := bytes :: decoded.frames }

namespace Framing

variable {α : Type} (framing : Framing α)

/-- Take frames off the front, at most the given number. -/
def take : Nat → List α → Decoded α
  | 0, stream => ⟨[], stream, false⟩
  | count + 1, stream =>
    match framing.cut stream with
    | .more => ⟨[], stream, false⟩
    | .reject => ⟨[], stream, true⟩
    | .frame bytes rest => (take count rest).push bytes

/-- Take all frames off the front; a stream has no more frames than symbols. -/
def decode (stream : List α) : Decoded α := framing.take (stream.length + 1) stream

variable {framing}

/-- A frame shortens the stream. -/
theorem rest_lt {stream bytes rest : List α} (cut : framing.cut stream = .frame bytes rest) :
    rest.length < stream.length := by
  obtain ⟨some_, rfl⟩ := framing.split cut
  have := List.length_pos_of_ne_nil some_
  rw [List.length_append]
  omega

/-- More than the length of the stream makes no difference. -/
theorem take_eq {count count' : Nat} {stream : List α} (enough : stream.length < count)
    (enough' : stream.length < count') : framing.take count stream = framing.take count' stream := by
  induction count generalizing count' stream with
  | zero => contradiction
  | succ count ih =>
    cases count' with
    | zero => contradiction
    | succ count' =>
      rw [take, take]
      cases cut : framing.cut stream with
      | more => rfl
      | reject => rfl
      | frame bytes rest =>
        have shorter := rest_lt cut
        exact congrArg (Decoded.push bytes) (ih (by omega) (by omega))

/-- A stream that needs more has no frame. -/
theorem decode_more {stream : List α} (cut : framing.cut stream = .more) :
    framing.decode stream = ⟨[], stream, false⟩ := by
  rw [decode, take, cut]

/-- A malformed stream has no frame. -/
theorem decode_reject {stream : List α} (cut : framing.cut stream = .reject) :
    framing.decode stream = ⟨[], stream, true⟩ := by
  rw [decode, take, cut]

/-- The first frame, and the frames of what follows it. -/
theorem decode_frame {stream bytes rest : List α} (cut : framing.cut stream = .frame bytes rest) :
    framing.decode stream = (framing.decode rest).push bytes := by
  have shorter := rest_lt cut
  rw [decode, take, cut, decode]
  exact congrArg (Decoded.push bytes) (take_eq (by omega) (by omega))

/-- Decoding by the frames found: a stream without a frame, or a frame in front of another one. -/
theorem decode_induction (framing : Framing α) {motive : List α → Prop}
    (more : ∀ stream, framing.cut stream = .more → motive stream)
    (reject : ∀ stream, framing.cut stream = .reject → motive stream)
    (frame : ∀ stream bytes rest, framing.cut stream = .frame bytes rest → motive rest →
      motive stream) (stream : List α) : motive stream := by
  induction size : stream.length using Nat.strongRecOn generalizing stream with
  | ind length ih =>
    cases cut : framing.cut stream with
    | more => exact more stream cut
    | reject => exact reject stream cut
    | frame bytes rest =>
      exact frame stream bytes rest cut (ih rest.length (size ▸ rest_lt cut) rest rfl)

/-- Each frame is cut off by itself. -/
theorem decode_frames (stream : List α) :
    ∀ bytes ∈ (framing.decode stream).frames, ∃ stream' rest,
      framing.cut stream' = .frame bytes rest := by
  induction stream using (decode_induction framing) with
  | more stream cut => simp [decode_more cut]
  | reject stream cut => simp [decode_reject cut]
  | frame stream bytes rest cut ih =>
    rw [decode_frame cut]
    exact List.forall_mem_cons.mpr ⟨⟨stream, rest, cut⟩, ih⟩

/-- A rest that was not rejected needs more. -/
theorem decode_rest {stream : List α} (accepted : (framing.decode stream).rejected = false) :
    framing.cut (framing.decode stream).rest = .more := by
  induction stream using (decode_induction framing) with
  | more stream cut => rwa [decode_more cut]
  | reject stream cut => simp [decode_reject cut] at accepted
  | frame stream bytes rest cut ih =>
    rw [decode_frame cut] at accepted ⊢
    exact ih accepted

/-- A rest that was rejected is malformed. -/
theorem decode_rest_rejected {stream : List α} (rejected : (framing.decode stream).rejected = true) :
    framing.cut (framing.decode stream).rest = .reject := by
  induction stream using (decode_induction framing) with
  | more stream cut => simp [decode_more cut] at rejected
  | reject stream cut => rwa [decode_reject cut]
  | frame stream bytes rest cut ih =>
    rw [decode_frame cut] at rejected ⊢
    exact ih rejected

/-- What arrives later leaves a rejected stream rejected, with the same frames. -/
theorem decode_append_rejected {stream : List α} (later : List α)
    (rejected : (framing.decode stream).rejected = true) :
    (framing.decode (stream ++ later)).frames = (framing.decode stream).frames ∧
      (framing.decode (stream ++ later)).rejected = true := by
  induction stream using (decode_induction framing) with
  | more stream cut => simp [decode_more cut] at rejected
  | reject stream cut =>
    rw [decode_reject cut, decode_reject (framing.reject_append cut later)]
    exact ⟨rfl, rfl⟩
  | frame stream bytes rest cut ih =>
    rw [decode_frame cut] at rejected ⊢
    rw [decode_frame (framing.frame_append cut later)]
    obtain ⟨frames, still⟩ := ih rejected
    exact ⟨congrArg (bytes :: ·) frames, still⟩

/-- Decoding what has arrived, and then its rest with what arrives later, finds the frames of the
whole stream. -/
theorem decode_append {stream : List α} (later : List α)
    (accepted : (framing.decode stream).rejected = false) :
    framing.decode (stream ++ later) =
      { framing.decode ((framing.decode stream).rest ++ later) with
        frames := (framing.decode stream).frames ++
          (framing.decode ((framing.decode stream).rest ++ later)).frames } := by
  induction stream using (decode_induction framing) with
  | more stream cut => simp [decode_more cut]
  | reject stream cut => simp [decode_reject cut] at accepted
  | frame stream bytes rest cut ih =>
    rw [decode_frame cut] at accepted ⊢
    rw [decode_frame (framing.frame_append cut later), ih accepted]
    rfl

/-! ## Pieces -/

variable (framing) in
/-- Decode a stream that arrives in pieces, from what was left over. The frames that a piece completes
are handed on together, unless the piece is found to be malformed behind them. -/
def feed : List α → List (List α) → Decoded α
  | rest, [] => ⟨[], rest, false⟩
  | rest, piece :: pieces =>
    let decoded := framing.decode (rest ++ piece)
    if decoded.rejected then ⟨[], decoded.rest, true⟩
    else { feed decoded.rest pieces with
      frames := decoded.frames ++ (feed decoded.rest pieces).frames }

variable (framing) in
/-- The frames that are lost with the malformed piece. -/
def lost : List α → List (List α) → List (List α)
  | _, [] => []
  | rest, piece :: pieces =>
    let decoded := framing.decode (rest ++ piece)
    if decoded.rejected then decoded.frames else lost decoded.rest pieces

/-- A stream that has arrived is decoded. -/
theorem feed_nil (rest : List α) : framing.feed rest [] = ⟨[], rest, false⟩ := rfl

/-- Nothing of a malformed piece is handed on. -/
theorem feed_rejected {rest piece : List α} (pieces : List (List α))
    (rejected : (framing.decode (rest ++ piece)).rejected = true) :
    framing.feed rest (piece :: pieces) = ⟨[], (framing.decode (rest ++ piece)).rest, true⟩ :=
  if_pos rejected

/-- Nothing comes of a stream that is malformed from the start. -/
theorem feed_malformed {rest : List α} (malformed : framing.cut rest = .reject)
    (pieces : List (List α)) : (framing.feed rest pieces).frames = [] := by
  cases pieces with
  | nil => rfl
  | cons piece pieces =>
    have answer := decode_reject (framing.reject_append malformed piece)
    rw [feed_rejected pieces (by rw [answer])]

/-- The frames of a piece are handed on, and decoding goes on with the rest. -/
theorem feed_accepted {rest piece : List α} (pieces : List (List α))
    (accepted : (framing.decode (rest ++ piece)).rejected = false) :
    framing.feed rest (piece :: pieces) =
      { framing.feed (framing.decode (rest ++ piece)).rest pieces with
        frames := (framing.decode (rest ++ piece)).frames ++
          (framing.feed (framing.decode (rest ++ piece)).rest pieces).frames } := by
  rw [feed]
  simp only [accepted, Bool.false_eq_true, if_false]

/-- However a stream is cut into pieces, its frames are handed on, except those that are lost with a
malformed piece; and it is rejected when the whole is. -/
theorem decode_pieces {rest : List α} (waiting : framing.cut rest = .more)
    (pieces : List (List α)) :
    (framing.decode (rest ++ pieces.flatten)).frames =
        (framing.feed rest pieces).frames ++ framing.lost rest pieces ∧
      (framing.decode (rest ++ pieces.flatten)).rejected = (framing.feed rest pieces).rejected := by
  induction pieces generalizing rest with
  | nil =>
    rw [List.flatten_nil, List.append_nil, decode_more waiting]
    exact ⟨rfl, rfl⟩
  | cons piece pieces ih =>
    rw [List.flatten_cons, ← List.append_assoc]
    cases answer : (framing.decode (rest ++ piece)).rejected with
    | true =>
      obtain ⟨frames, rejected⟩ := decode_append_rejected pieces.flatten answer
      rw [frames, rejected, feed_rejected pieces answer, lost, if_pos answer]
      exact ⟨rfl, rfl⟩
    | false =>
      obtain ⟨frames, rejected⟩ := ih (decode_rest answer)
      rw [decode_append _ answer, feed_accepted pieces answer, lost]
      simp only [answer, Bool.false_eq_true, if_false, frames, rejected, List.append_assoc,
        and_self]

/-- Pieces that are not malformed are decoded as the whole is. -/
theorem feed_eq_decode {rest : List α} (waiting : framing.cut rest = .more)
    {pieces : List (List α)} (accepted : (framing.decode (rest ++ pieces.flatten)).rejected = false) :
    framing.feed rest pieces = framing.decode (rest ++ pieces.flatten) := by
  induction pieces generalizing rest with
  | nil => rw [List.flatten_nil, List.append_nil, decode_more waiting, feed_nil]
  | cons piece pieces ih =>
    rw [List.flatten_cons, ← List.append_assoc] at accepted ⊢
    cases answer : (framing.decode (rest ++ piece)).rejected with
    | true =>
      rw [(decode_append_rejected pieces.flatten answer).2] at accepted
      contradiction
    | false =>
      rw [decode_append _ answer] at accepted ⊢
      rw [feed_accepted pieces answer, ih (decode_rest answer) accepted]

end Framing

end MultiUserChat
