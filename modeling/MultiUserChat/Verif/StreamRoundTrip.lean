import MultiUserChat.Verif.WireFrames
/-!
# Packets through short calls

Whatever the schedule of short calls and interruptions is, `send_all` writes the whole buffer and
`recv_all` returns the bytes asked for, if the stream has as many. So `send_packet` writes the wire
form of a packet and `recv_packet` returns what it would return in one piece, and the round trip of
packets over a stream does not depend on the schedules at its two ends.
-/

namespace MultiUserChat

namespace Socket

/-- The calls work, and as many of them as needed move something. -/
structure Ready (calls : List CallResult) (needed : Nat) : Prop where
  /-- None ends the connection. -/
  working : ∀ result ∈ calls, result.working = true
  /-- Enough of them move something. -/
  enough : needed ≤ effective calls

/-- The first of the calls that work. -/
theorem Ready.cases {calls : List CallResult} {needed : Nat} (ready : Ready calls (needed + 1)) :
    ∃ later, (calls = .interrupted :: later ∧ Ready later (needed + 1)) ∨
      ∃ count, 0 < count ∧ calls = .moved count :: later ∧ Ready later needed := by
  obtain ⟨working, enough⟩ := ready
  cases calls with
  | nil => contradiction
  | cons result calls =>
    obtain ⟨here, later⟩ := List.forall_mem_cons.mp working
    refine ⟨calls, ?_⟩
    cases result with
    | interrupted => exact .inl ⟨rfl, later, by simpa using enough⟩
    | failed => contradiction
    | moved count =>
      have positive : 0 < count := by simpa [CallResult.working, CallResult.moves] using here
      rw [effective_moved positive] at enough
      exact .inr ⟨count, positive, rfl, later, by omega⟩

/-- Calls that are ready for more are ready for less. -/
theorem Ready.weaken {calls : List CallResult} {needed needed' : Nat} (ready : Ready calls needed')
    (less : needed ≤ needed') : Ready calls needed := ⟨ready.working, less.trans ready.enough⟩

/-- `send_all` writes the buffer. -/
theorem sendAll_ready {calls : List CallResult} {buffer : List UInt8} {needed : Nat}
    (ready : Ready calls (buffer.length + needed)) :
    ∃ left, sendAll calls buffer = .returned (buffer, left) ∧ Ready left needed := by
  induction calls generalizing buffer with
  | nil =>
    cases buffer with
    | nil => exact ⟨[], rfl, ready.weaken (Nat.le_add_left _ _)⟩
    | cons byte buffer =>
      have enough := ready.enough
      simp only [effective_nil, List.length_cons] at enough
      omega
  | cons result calls ih =>
    cases buffer with
    | nil => exact ⟨_, rfl, ready.weaken (Nat.le_add_left _ _)⟩
    | cons byte buffer =>
      have one : Ready (result :: calls) ((buffer.length + needed) + 1) :=
        ready.weaken (by rw [List.length_cons]; omega)
      obtain ⟨later, ⟨first, rest⟩ | ⟨count, positive, first, rest⟩⟩ := one.cases
      · cases first
        obtain ⟨left, sent, ready⟩ :=
          @ih (byte :: buffer) (rest.weaken (by rw [List.length_cons]; omega))
        exact ⟨left, sent, ready⟩
      · cases first
        have some_ : min count (byte :: buffer).length ≠ 0 := by
          rw [List.length_cons]
          omega
        have unsent : Ready calls
            (((byte :: buffer).drop (min count (byte :: buffer).length)).length + needed) :=
          rest.weaken (by rw [List.length_drop, List.length_cons]; omega)
        obtain ⟨left, sent, ready⟩ := ih unsent
        refine ⟨left, ?_, ready⟩
        rw [sendAll, if_neg some_, sent]
        simp only [Progress.returned_bind, Progress.pure_eq, List.take_append_drop]
        exact List.cons_ne_nil _ _

/-- There are fewer bytes than asked for. -/
theorem recvAll_eq_none {length : Nat} {stream : List UInt8} :
    MultiUserChat.recvAll length stream = none ↔ stream.length < length := by
  simp [MultiUserChat.recvAll]

/-- One call of `recv_all` that moves something. -/
theorem recvAll_moved (count length : Nat) (calls : List CallResult) (stream : List UInt8) :
    recvAll (.moved count :: calls) (length + 1) stream =
      if min count (min (length + 1) stream.length) = 0 then .failed
      else (recvAll calls (length + 1 - min count (min (length + 1) stream.length))
        (stream.drop (min count (min (length + 1) stream.length)))).bind fun outcome =>
          .returned (stream.take (min count (min (length + 1) stream.length)) ++ outcome.1,
            outcome.2.1, outcome.2.2) := by
  rw [recvAll]
  · rfl
  · exact Nat.succ_ne_zero length

/-- `recv_all` does what it does on the whole stream: it returns the bytes asked for, or fails
because there are fewer. -/
theorem recvAll_ready {calls : List CallResult} {length needed : Nat}
    (ready : Ready calls (length + needed)) (stream : List UInt8) :
    (∃ bytes left rest, recvAll calls length stream = .returned (bytes, left, rest) ∧
        MultiUserChat.recvAll length stream = some (bytes, rest) ∧ Ready left needed) ∨
      (recvAll calls length stream = .failed ∧ MultiUserChat.recvAll length stream = none) := by
  induction calls generalizing length stream with
  | nil =>
    have enough := ready.enough
    simp only [effective_nil] at enough
    obtain rfl : length = 0 := by omega
    exact .inl ⟨[], [], stream, rfl, by simp [MultiUserChat.recvAll],
      ready.weaken (Nat.le_add_left _ _)⟩
  | cons result calls ih =>
    cases length with
    | zero =>
      exact .inl ⟨[], _, stream, rfl, by simp [MultiUserChat.recvAll],
        ready.weaken (Nat.le_add_left _ _)⟩
    | succ length =>
      have one : Ready (result :: calls) ((length + needed) + 1) := ready.weaken (by omega)
      obtain ⟨later, ⟨first, rest⟩ | ⟨count, positive, first, rest⟩⟩ := one.cases
      · cases first
        exact ih (rest.weaken (by omega)) stream
      · cases first
        by_cases ended : stream.length = 0
        · refine .inr ⟨?_, ?_⟩
          · rw [recvAll_moved, if_pos (by omega)]
          · rw [MultiUserChat.recvAll, if_neg (by omega)]
        have some_ : min count (min (length + 1) stream.length) ≠ 0 := by omega
        obtain ⟨got, size⟩ : ∃ got, got = min count (min (length + 1) stream.length) := ⟨_, rfl⟩
        have split : stream = stream.take got ++ stream.drop got := (List.take_append_drop _ _).symm
        have taken : (stream.take got).length = got := by
          rw [List.length_take]
          omega
        rcases @ih (length + 1 - got) (rest.weaken (by omega)) (stream.drop got) with
          ⟨bytes, left, remaining, received, whole, ready⟩ | ⟨failed, short⟩
        · refine .inl ⟨stream.take got ++ bytes, left, remaining, ?_, ?_, ready⟩
          · rw [recvAll_moved, if_neg some_, ← size, received]
            rfl
          · obtain ⟨size', same⟩ := MultiUserChat.recvAll_eq whole
            have total : (stream.take got ++ bytes).length = length + 1 := by
              rw [List.length_append, taken, size']
              omega
            have front := @recvAll_append _ _ remaining total
            rwa [List.append_assoc, ← same, ← split] at front
        · refine .inr ⟨?_, ?_⟩
          · rw [recvAll_moved, if_neg some_, ← size, failed]
            rfl
          · rw [recvAll_eq_none, List.length_drop] at short
            rw [recvAll_eq_none]
            omega

/-- `send_packet` writes the wire form of the packet. -/
theorem sendPacket_ready {calls : List CallResult} {packet : Packet} {needed : Nat}
    (ready : Ready calls ((wire packet).length + needed)) :
    ∃ left, sendPacket calls packet = .returned (wire packet, left) ∧ Ready left needed := by
  rw [wire_eq, List.length_append] at *
  have whole : Ready calls
      ((wireHeader packet).length + (packet.payload.length + needed)) := ready.weaken (by omega)
  obtain ⟨left, header, ready⟩ := sendAll_ready whole
  unfold sendPacket
  simp only [header, Progress.returned_bind]
  by_cases some_ : packet.length > 0
  · obtain ⟨left, payload, ready⟩ := sendAll_ready ready
    rw [if_pos some_, payload]
    exact ⟨left, rfl, ready⟩
  · have nothing : packet.payload = [] := by
      rw [← List.length_eq_zero_iff, packet.payload_length]
      omega
    rw [if_neg some_, nothing, List.append_nil]
    exact ⟨left, rfl, ready.weaken (by omega)⟩

section

variable {calls left left' : List CallResult} {stream fields afterHeader data rest : List UInt8}

/-- Without a header there is no packet. -/
theorem recvPacket_no_header (failed : recvAll calls 72 stream = .failed) :
    recvPacket calls stream = .failed := by
  unfold recvPacket
  split <;> rename_i header <;> rw [failed] at header <;> cases header

/-- A header with a length that is too large is refused. -/
theorem recvPacket_too_long (received : recvAll calls 72 stream = .returned (fields, left, afterHeader))
    (tooLong : lengthField fields > packetDataMax) : recvPacket calls stream = .failed := by
  unfold recvPacket
  split <;> rename_i header <;> rw [received] at header <;> cases header
  exact dif_pos tooLong

/-- Without the whole payload there is no packet. -/
theorem recvPacket_no_body (received : recvAll calls 72 stream = .returned (fields, left, afterHeader))
    (bound : ¬ lengthField fields > packetDataMax)
    (failed : recvAll left (lengthField fields) afterHeader = .failed) :
    recvPacket calls stream = .failed := by
  unfold recvPacket
  split <;> rename_i header <;> rw [received] at header <;> cases header
  refine (dif_neg bound).trans ?_
  split <;> rename_i body <;> change recvAll _ (lengthField fields) _ = _ at body <;>
    rw [failed] at body <;> cases body

/-- A header and its payload make a packet. -/
theorem recvPacket_whole (received : recvAll calls 72 stream = .returned (fields, left, afterHeader))
    (bound : ¬ lengthField fields > packetDataMax)
    (received' : recvAll left (lengthField fields) afterHeader = .returned (data, left', rest))
    (size : fields.length = 72) (fits : data.length ≤ packetDataMax) :
    recvPacket calls stream = .returned (receivedPacket fields data size fits, left', rest) := by
  unfold recvPacket
  split <;> rename_i header <;> rw [received] at header <;> cases header
  refine (dif_neg bound).trans ?_
  split <;> rename_i body <;> change recvAll _ (lengthField fields) _ = _ at body <;>
    rw [received'] at body <;> cases body
  rfl

end

/-- `recv_packet` does what it does on the whole stream. -/
theorem recvPacket_ready {calls : List CallResult} {needed : Nat}
    (ready : Ready calls (72 + packetDataMax + needed)) (stream : List UInt8) :
    (∃ packet left rest, recvPacket calls stream = .returned (packet, left, rest) ∧
        MultiUserChat.recvPacket stream = some (packet, rest) ∧ Ready left needed) ∨
      (recvPacket calls stream = .failed ∧ MultiUserChat.recvPacket stream = none) := by
  have header : Ready calls (72 + (packetDataMax + needed)) := ready.weaken (by omega)
  rcases recvAll_ready header stream with ⟨fields, left, afterHeader, received, whole, ready⟩ | ⟨failed, short⟩
  · obtain ⟨size, front⟩ := MultiUserChat.recvAll_eq whole
    have field : lengthField stream = lengthField fields := by
      rw [front, lengthField_append (by omega)]
    have total : stream.length = 72 + afterHeader.length := by
      rw [front, List.length_append, size]
    by_cases tooLong : lengthField fields > packetDataMax
    · exact .inr ⟨recvPacket_too_long received tooLong, recvPacket_eq_none (.inr (by omega))⟩
    have body : Ready left (lengthField fields + needed) := ready.weaken (by omega)
    rcases recvAll_ready body afterHeader with
      ⟨data, left', rest, received', whole', ready'⟩ | ⟨failed, short⟩
    · obtain ⟨size', behind⟩ := MultiUserChat.recvAll_eq whole'
      refine .inl ⟨receivedPacket fields data size (by omega), left', rest,
        recvPacket_whole received tooLong received' size (by omega), ?_, ready'⟩
      rw [front, behind, ← List.append_assoc]
      exact recvPacket_received size (by omega) size'.symm rest
    · have fewer := recvAll_eq_none.mp short
      exact .inr ⟨recvPacket_no_body received tooLong failed, recvPacket_eq_none (.inl (by omega))⟩
  · have fewer := recvAll_eq_none.mp short
    exact .inr ⟨recvPacket_no_header failed, recvPacket_eq_none (.inl (by omega))⟩

/-- Successive calls of `recv_packet` do what they do on the whole stream. -/
theorem recvPackets_ready {calls : List CallResult} {count needed : Nat} {stream rest : List UInt8}
    {packets : List Packet} (ready : Ready calls (count * (72 + packetDataMax) + needed))
    (read : MultiUserChat.recvPackets count stream = some (packets, rest)) :
    ∃ left, recvPackets calls count stream = .returned (packets, left, rest) ∧ Ready left needed := by
  induction count generalizing calls stream packets with
  | zero =>
    cases read
    exact ⟨calls, rfl, ready.weaken (by omega)⟩
  | succ count ih =>
    simp only [MultiUserChat.recvPackets, Option.bind_eq_bind, Option.bind_eq_some_iff] at read
    obtain ⟨⟨packet, between⟩, first, ⟨later, remaining⟩, others, same⟩ := read
    cases same
    have enough : (count + 1) * (72 + packetDataMax) + needed =
        72 + packetDataMax + (count * (72 + packetDataMax) + needed) := by
      rw [Nat.add_mul]
      omega
    rcases recvPacket_ready (enough ▸ ready) stream with
      ⟨packet', left, between', received, whole, ready⟩ | ⟨_, none_⟩
    · rw [first] at whole
      cases whole
      obtain ⟨left', received', ready'⟩ := ih ready others
      exact ⟨left', by simp only [recvPackets, received, Progress.returned_bind, received']; rfl, ready'⟩
    · rw [first] at none_
      contradiction

/-- Successive calls of `send_packet` write the wire forms of the packets. -/
theorem sendPackets_ready {calls : List CallResult} {packets : List Packet} {needed : Nat}
    (ready : Ready calls ((packets.flatMap wire).length + needed)) :
    ∃ left, sendPackets calls packets = .returned (packets.flatMap wire, left) ∧
      Ready left needed := by
  induction packets generalizing calls with
  | nil => exact ⟨calls, rfl, ready.weaken (by simp)⟩
  | cons packet packets ih =>
    rw [List.flatMap_cons, List.length_append] at ready
    have first : Ready calls ((wire packet).length + ((packets.flatMap wire).length + needed)) :=
      ready.weaken (by omega)
    obtain ⟨left, sent, ready⟩ := sendPacket_ready first
    obtain ⟨left', later, ready'⟩ := ih ready
    exact ⟨left', by simp only [sendPackets, sent, Progress.returned_bind, later]; rfl, ready'⟩

/-- Enough calls of a schedule are ready for anything. -/
theorem ready_first (schedule : Schedule) (needed : Nat) :
    ∃ enough, ∀ calls ≥ enough, Ready (schedule.first calls) needed := by
  obtain ⟨enough, reached⟩ := schedule.effective_first needed
  exact ⟨enough, fun calls more => ⟨schedule.first_working calls, reached calls more⟩⟩

/-- `recv_packet` fails on a stream that ends in the middle of a packet. -/
theorem recvPacket_truncated {packet : Packet} {part : List UInt8} (start : part <+: wire packet)
    (short : part.length < (wire packet).length) : MultiUserChat.recvPacket part = none := by
  have cut := packetCut_part start short
  exact recvPacket_of_no_frame fun bytes rest => by simp [cut]

/-- Any list of packets, sent in order on one stream under any schedule of short sends and
interruptions, is written as the concatenation of the wire forms; under any schedule of short
receives and interruptions, successive calls of `recv_packet` return exactly these packets, with zero
bytes past the length; and when the stream ends before the last byte of some packet, the packets
before it are returned and the call for it fails. -/
theorem packets_roundTrip (packets : List Packet) (sends receives : Schedule) :
    (∃ enough, ∀ calls ≥ enough, ∃ left,
        sendPackets (sends.first calls) packets = .returned (packets.flatMap wire, left)) ∧
      (∃ enough, ∀ calls ≥ enough, ∃ left,
        recvPackets (receives.first calls) packets.length (packets.flatMap wire) =
          .returned (packets, left, [])) ∧
      (∀ packet ∈ packets, packet.data.toList =
        packet.payload ++ List.replicate (packetDataMax - packet.length) 0) ∧
      ∀ before packet after part, packets = before ++ packet :: after → part <+: wire packet →
        part.length < (wire packet).length → ∃ enough, ∀ calls ≥ enough, ∃ left,
          recvPackets (receives.first calls) before.length (before.flatMap wire ++ part) =
              .returned (before, left, part) ∧
            recvPacket left part = .failed := by
  refine ⟨?_, ?_, fun packet _ => packet.data_eq, ?_⟩
  · obtain ⟨enough, ready⟩ := ready_first sends ((packets.flatMap wire).length + 0)
    refine ⟨enough, fun calls more => ?_⟩
    obtain ⟨left, sent, _⟩ := sendPackets_ready (ready calls more)
    exact ⟨left, sent⟩
  · obtain ⟨enough, ready⟩ := ready_first receives (packets.length * (72 + packetDataMax) + 0)
    refine ⟨enough, fun calls more => ?_⟩
    have read := recvPackets_wires packets []
    rw [List.append_nil] at read
    obtain ⟨left, received, _⟩ := recvPackets_ready (ready calls more) read
    exact ⟨left, received⟩
  · intro before packet after part _ start short
    obtain ⟨enough, ready⟩ := ready_first receives
      (before.length * (72 + packetDataMax) + (72 + packetDataMax + 0))
    refine ⟨enough, fun calls more => ?_⟩
    obtain ⟨left, received, ready'⟩ :=
      recvPackets_ready (ready calls more) (recvPackets_wires before part)
    refine ⟨left, received, ?_⟩
    rcases recvPacket_ready ready' part with ⟨_, _, _, _, some_, _⟩ | ⟨failed, _⟩
    · rw [recvPacket_truncated start short] at some_
      contradiction
    · exact failed

/-- Every other call is interrupted, and the others move at most five bytes. -/
def haltingSchedule : Schedule where
  results turn := if turn % 2 = 0 then .interrupted else .moved 5
  working turn := by
    split <;> rfl
  resumes turn := by
    refine ⟨2 * turn + 1, by omega, ?_⟩
    simp [CallResult.moves]

/-- Two responses come through such calls at both ends. -/
theorem packets_roundTrip_halting : ∃ enough, ∀ calls ≥ enough, ∃ left,
    recvPackets (haltingSchedule.first calls)
      (Channel.twoResponses true ++ Channel.twoResponses false).length
      ((Channel.twoResponses true ++ Channel.twoResponses false).flatMap wire) =
        .returned (Channel.twoResponses true ++ Channel.twoResponses false, left, []) :=
  (packets_roundTrip (Channel.twoResponses true ++ Channel.twoResponses false) haltingSchedule
    haltingSchedule).2.1

end Socket

end MultiUserChat
