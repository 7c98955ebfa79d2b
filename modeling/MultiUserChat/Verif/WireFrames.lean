import MultiUserChat.Common.NetUtils
import MultiUserChat.Library.Frames
import MultiUserChat.Verif.Framing
/-!
# The frames of the wire

A frame is a header of 72 bytes followed by as many bytes as its length field says. `packetFraming`
cuts a stream into frames; `recv_packet` returns the packet of the first frame of the stream, and
fails when there is none, because the stream ends in the middle of it or because its length is too
large.
-/

namespace MultiUserChat

/-- The length field of the header at the front of a stream. -/
def lengthField (stream : List UInt8) : Nat := fromBigEndian ((stream.drop 4).take 4)

/-- The length field is within the header. -/
theorem lengthField_append {stream : List UInt8} (header : 72 ≤ stream.length)
    (later : List UInt8) : lengthField (stream ++ later) = lengthField stream := by
  unfold lengthField
  rw [List.drop_append_of_le_length (by omega),
    List.take_append_of_le_length (by rw [List.length_drop]; omega)]

/-- How the wire is cut into frames. -/
def packetCut (stream : List UInt8) : Cut UInt8 :=
  if stream.length < 72 then .more
  else if lengthField stream > packetDataMax then .reject
  else if stream.length < 72 + lengthField stream then .more
  else .frame (stream.take (72 + lengthField stream)) (stream.drop (72 + lengthField stream))

/-- When there is a frame at the front of a stream. -/
theorem packetCut_frame {stream bytes rest : List UInt8} :
    packetCut stream = .frame bytes rest ↔
      72 + lengthField stream ≤ stream.length ∧ lengthField stream ≤ packetDataMax ∧
        bytes = stream.take (72 + lengthField stream) ∧
        rest = stream.drop (72 + lengthField stream) := by
  unfold packetCut
  split
  · simp only [reduceCtorEq, false_iff]
    omega
  split
  · simp only [reduceCtorEq, false_iff]
    omega
  split
  · simp only [reduceCtorEq, false_iff]
    omega
  · simp only [Cut.frame.injEq, eq_comm]
    constructor
    · exact fun ⟨first, later⟩ => ⟨by omega, by omega, first, later⟩
    · exact fun ⟨_, _, first, later⟩ => ⟨first, later⟩

/-- When a stream is malformed. -/
theorem packetCut_reject {stream : List UInt8} :
    packetCut stream = .reject ↔ 72 ≤ stream.length ∧ lengthField stream > packetDataMax := by
  unfold packetCut
  split
  · simp only [reduceCtorEq, false_iff]
    omega
  split
  · simp only [true_iff]
    omega
  split <;> simp only [reduceCtorEq, false_iff] <;> omega

/-- The framing of the wire. -/
def packetFraming : Framing UInt8 where
  cut := packetCut
  split cut := by
    obtain ⟨inside, _, rfl, rfl⟩ := packetCut_frame.mp cut
    refine ⟨List.ne_nil_of_length_pos ?_, (List.take_append_drop _ _).symm⟩
    rw [List.length_take]
    omega
  frame_append cut later := by
    obtain ⟨inside, bound, rfl, rfl⟩ := packetCut_frame.mp cut
    rw [packetCut_frame, lengthField_append (by omega)]
    refine ⟨by rw [List.length_append]; omega, bound, ?_, ?_⟩
    · rw [List.take_append_of_le_length inside]
    · rw [List.drop_append_of_le_length inside]
  reject_append cut later := by
    obtain ⟨header, large⟩ := packetCut_reject.mp cut
    rw [packetCut_reject, lengthField_append header, List.length_append]
    exact ⟨by omega, large⟩

/-- A frame has the length that its own header says. -/
theorem packetCut_bytes {stream bytes rest : List UInt8}
    (cut : packetCut stream = .frame bytes rest) :
    bytes.length = 72 + lengthField bytes ∧ lengthField bytes ≤ packetDataMax := by
  obtain ⟨inside, bound, rfl, rfl⟩ := packetCut_frame.mp cut
  have header : 72 ≤ (stream.take (72 + lengthField stream)).length := by
    rw [List.length_take]
    omega
  have same := lengthField_append header (stream.drop (72 + lengthField stream))
  rw [List.take_append_drop] at same
  rw [← same, List.length_take]
  exact ⟨by omega, bound⟩

/-- A frame is a frame of its own. -/
theorem packetCut_self {stream bytes rest : List UInt8}
    (cut : packetCut stream = .frame bytes rest) : packetCut bytes = .frame bytes [] := by
  obtain ⟨size, bound⟩ := packetCut_bytes cut
  rw [packetCut_frame, ← size]
  exact ⟨Nat.le_refl _, bound, List.take_length.symm, List.drop_length.symm⟩

/-! ## The C reader -/

/-- `recv_packet` returns the packet of a frame, whatever follows it. -/
theorem recvPacket_received {fields data : List UInt8} (whole : fields.length = 72)
    (fits : data.length ≤ packetDataMax) (length : lengthField fields = data.length)
    (rest : List UInt8) :
    recvPacket (fields ++ data ++ rest) = some (receivedPacket fields data whole fits, rest) := by
  have header : recvAll 72 (fields ++ data ++ rest) = some (fields, data ++ rest) := by
    rw [List.append_assoc]
    exact recvAll_append whole
  have body : recvAll (lengthField fields) (data ++ rest) = some (data, rest) :=
    recvAll_append length.symm
  unfold lengthField at body length
  unfold recvPacket
  split
  · rename_i missing
    rw [header] at missing
    contradiction
  · rename_i fields' afterHeader found
    rw [header, Option.some.injEq, Prod.mk.injEq] at found
    obtain ⟨rfl, rfl⟩ := found
    dsimp only
    split
    · rename_i tooLong
      omega
    · split
      · rename_i missing
        rw [body] at missing
        contradiction
      · rename_i data' left received
        rw [body, Option.some.injEq, Prod.mk.injEq] at received
        obtain ⟨rfl, rfl⟩ := received
        rfl

/-- `recv_packet` on a stream with a frame at its front builds the packet of the frame. -/
theorem recvPacket_frame {stream bytes rest : List UInt8}
    (cut : packetCut stream = .frame bytes rest) : ∃ whole fits,
      recvPacket bytes = some (receivedPacket (bytes.take 72) (bytes.drop 72) whole fits, []) ∧
      recvPacket stream = some (receivedPacket (bytes.take 72) (bytes.drop 72) whole fits, rest) := by
  obtain ⟨size, bound⟩ := packetCut_bytes cut
  have split : bytes = bytes.take 72 ++ bytes.drop 72 := (List.take_append_drop _ _).symm
  have whole : (bytes.take 72).length = 72 := by
    rw [List.length_take]
    omega
  have fits : (bytes.drop 72).length ≤ packetDataMax := by
    rw [List.length_drop]
    omega
  have length : lengthField (bytes.take 72) = (bytes.drop 72).length := by
    rw [← lengthField_append (by omega) (bytes.drop 72), ← split, List.length_drop]
    omega
  refine ⟨whole, fits, ?_, ?_⟩
  · have own := recvPacket_received whole fits length []
    rwa [List.append_nil, ← split] at own
  · have front := recvPacket_received whole fits length rest
    rwa [← split, ← (packetFraming.split cut).2] at front

/-- `recv_packet` on a stream with a frame at its front. -/
theorem recvPacket_of_cut {stream bytes rest : List UInt8}
    (cut : packetCut stream = .frame bytes rest) :
    ∃ packet, recvPacket bytes = some (packet, []) ∧ recvPacket stream = some (packet, rest) := by
  obtain ⟨_, _, own, front⟩ := recvPacket_frame cut
  exact ⟨_, own, front⟩

/-- `recv_packet` fails when the stream is shorter than its first frame, or the length field too
large. -/
theorem recvPacket_eq_none {stream : List UInt8} (bad : stream.length < 72 + lengthField stream ∨
    lengthField stream > packetDataMax) : recvPacket stream = none := by
  unfold recvPacket
  split
  · rfl
  · rename_i fields afterHeader header
    obtain ⟨whole, same⟩ := recvAll_eq header
    have length : fromBigEndian ((fields.drop 4).take 4) = lengthField stream := by
      rw [same, lengthField_append (by omega)]
      rfl
    have size : stream.length = 72 + afterHeader.length := by
      rw [same, List.length_append, whole]
    dsimp only
    split
    · rfl
    · split
      · rfl
      · rename_i data rest body
        obtain ⟨enough, split⟩ := recvAll_eq body
        have total : afterHeader.length = data.length + rest.length := by
          rw [split, List.length_append]
        omega

/-- `recv_packet` fails on a stream without a frame at its front. -/
theorem recvPacket_of_no_frame {stream : List UInt8}
    (none_ : ∀ bytes rest, packetCut stream ≠ .frame bytes rest) : recvPacket stream = none := by
  refine recvPacket_eq_none ?_
  by_contra both
  exact none_ _ _ (packetCut_frame.mpr ⟨by omega, by omega, rfl, rfl⟩)

/-- The wire form of a packet is a frame. -/
theorem packetCut_wire (packet : Packet) (rest : List UInt8) :
    packetCut (wire packet ++ rest) = .frame (wire packet) rest := by
  have read := recvPacket_wire packet rest
  cases cut : packetCut (wire packet ++ rest) with
  | more =>
    rw [recvPacket_of_no_frame (by simp [cut])] at read
    contradiction
  | reject =>
    rw [recvPacket_of_no_frame (by simp [cut])] at read
    contradiction
  | frame bytes left =>
    obtain ⟨_, _, front⟩ := recvPacket_of_cut cut
    rw [read, Option.some.injEq, Prod.mk.injEq] at front
    obtain ⟨_, rfl⟩ := front
    rw [List.append_cancel_right (packetFraming.split cut).2]

/-- A part of the wire form of a packet is no frame yet. -/
theorem packetCut_part {packet : Packet} {part : List UInt8} (start : part <+: wire packet)
    (short : part.length < (wire packet).length) : packetCut part = .more := by
  obtain ⟨missing, same⟩ := start
  have whole := packetCut_wire packet []
  rw [List.append_nil, ← same] at whole
  cases cut : packetFraming.cut part with
  | more => exact cut
  | reject =>
    have still : packetCut (part ++ missing) = .reject := packetFraming.reject_append cut missing
    rw [whole] at still
    contradiction
  | frame bytes rest =>
    have longer : packetCut (part ++ missing) = .frame bytes (rest ++ missing) :=
      packetFraming.frame_append cut missing
    rw [whole, Cut.frame.injEq] at longer
    have nothing := List.append_eq_nil_iff.mp longer.2.symm
    rw [nothing.2, List.append_nil] at same
    rw [same] at short
    omega

/-- The packet of a frame. -/
def framePacket (bytes : List UInt8) : Option Packet := (recvPacket bytes).map Prod.fst

/-- As many calls of `recv_packet` as there are frames return their packets, and the next call
fails. -/
theorem recvPackets_decode (stream : List UInt8) : ∃ packets,
    (packetFraming.decode stream).frames.map framePacket = packets.map some ∧
      recvPackets packets.length stream = some (packets, (packetFraming.decode stream).rest) ∧
      recvPacket (packetFraming.decode stream).rest = none := by
  induction stream using (Framing.decode_induction packetFraming) with
  | more stream cut =>
    rw [Framing.decode_more cut]
    refine ⟨[], rfl, rfl, recvPacket_of_no_frame fun bytes rest frame => ?_⟩
    rw [show packetCut stream = .more from cut] at frame
    contradiction
  | reject stream cut =>
    rw [Framing.decode_reject cut]
    refine ⟨[], rfl, rfl, recvPacket_of_no_frame fun bytes rest frame => ?_⟩
    rw [show packetCut stream = .reject from cut] at frame
    contradiction
  | frame stream bytes rest cut ih =>
    obtain ⟨packets, same, read, fails⟩ := ih
    obtain ⟨packet, own, front⟩ := recvPacket_of_cut cut
    rw [Framing.decode_frame cut]
    refine ⟨packet :: packets, ?_, ?_, fails⟩
    · simp only [Decoded.push, List.map_cons, same, framePacket, own, Option.map_some]
    · simp only [List.length_cons, recvPackets, front, Option.bind_eq_bind, Option.bind_some, read,
        Decoded.push]
      rfl

/-- Calls of `recv_packet` up to the one that fails always return the same packets. -/
theorem recvPackets_unique {count count' : Nat} {stream rest rest' : List UInt8}
    {packets packets' : List Packet} (read : recvPackets count stream = some (packets, rest))
    (fails : recvPacket rest = none) (read' : recvPackets count' stream = some (packets', rest'))
    (fails' : recvPacket rest' = none) : packets = packets' := by
  induction count generalizing count' stream packets packets' with
  | zero =>
    cases read
    cases count' with
    | zero =>
      cases read'
      rfl
    | succ count' =>
      rw [recvPackets, fails] at read'
      contradiction
  | succ count ih =>
    simp only [recvPackets, Option.bind_eq_bind, Option.bind_eq_some_iff] at read
    obtain ⟨⟨packet, between⟩, first, ⟨later, left⟩, others, same⟩ := read
    cases same
    cases count' with
    | zero =>
      cases read'
      rw [first] at fails'
      contradiction
    | succ count' =>
      simp only [recvPackets, Option.bind_eq_bind, first, Option.bind_some,
        Option.bind_eq_some_iff] at read'
      obtain ⟨⟨later', left'⟩, others', same'⟩ := read'
      cases same'
      exact congrArg (packet :: ·) (ih others others')

end MultiUserChat
