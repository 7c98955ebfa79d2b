import MultiUserChat.Library.Transition
import MultiUserChat.Server.Channel
/-!
# Packets on a shared stream

A packet is recovered from its wire form whatever follows it, so a concatenation of whole packets is
read back by as many calls of `recv_packet`. When a thread begins a packet only while no other
thread is part-way through one, the stream is such a concatenation followed by a part of the packet
being sent. Nothing in the code ensures this, and two threads that begin together mix their packets.
-/

namespace MultiUserChat

/-! ## One packet -/

/-- The wire form is the header followed by the payload. -/
theorem wire_eq (packet : Packet) : wire packet = wireHeader packet ++ packet.payload := by
  unfold wire sendBuffers
  split
  · simp
  · rename_i empty
    have nothing : packet.payload = [] := by
      rw [← List.length_eq_zero_iff, packet.payload_length]
      omega
    simp [nothing]

/-- The header has its fixed size. -/
theorem wireHeader_length (packet : Packet) : (wireHeader packet).length = 72 := by
  simp [wireHeader, usernameMaxLen]

/-- Overwriting the terminator of a name with a terminator changes nothing. -/
theorem receivedName_terminator {name : List.Vector UInt8 usernameMaxLen}
    (terminated : name.toList[31]? = some 0) {field : List UInt8} (same : field = name.toList)
    (size : field.length = usernameMaxLen) : receivedName field size = name := by
  subst same
  apply List.Vector.toList_injective
  change name.toList.set 31 0 = name.toList
  apply List.ext_getElem?
  intro position
  rw [List.getElem?_set]
  by_cases last : 31 = position
  · subst last
    rw [if_pos rfl, if_pos (by rw [size]; decide), terminated]
  · rw [if_neg last]

/-- The data array is rebuilt from the payload. -/
theorem dataArray_payload (packet : Packet) {data : List UInt8} (same : data = packet.payload)
    (fits : data.length ≤ packetDataMax) : dataArray data fits = packet.data := by
  subst same
  apply List.Vector.toList_injective
  rw [packet.data_eq, ← packet.payload_length]
  rfl

/-- Packets with equal fields are equal. -/
theorem Packet.ext_fields {left right : Packet} (type : left.type = right.type)
    (length : left.length = right.length) (sender : left.sender = right.sender)
    (receiver : left.receiver = right.receiver) (data : left.data = right.data) : left = right := by
  cases left
  cases right
  simp only at type length sender receiver data
  subst type length sender receiver data
  rfl

/-- A packet is read back from its wire form, and what follows is left. -/
theorem recvPacket_wire (packet : Packet) (rest : List UInt8) :
    recvPacket (wire packet ++ rest) = some (packet, rest) := by
  have header : recvAll 72 (wire packet ++ rest) =
      some (wireHeader packet, packet.payload ++ rest) := by
    rw [wire_eq, List.append_assoc]
    exact recvAll_append (wireHeader_length packet)
  have bound : packet.length ≤ 1024 := packet.length_le
  have length : fromBigEndian (((wireHeader packet).drop 4).take 4) = packet.length := by
    have field : ((wireHeader packet).drop 4).take 4 = bigEndian packet.length := by
      simp [wireHeader, bigEndian]
    rw [field, fromBigEndian_bigEndian (by omega)]
  have type : (UInt32.ofNat (fromBigEndian ((wireHeader packet).take 4))).toInt32 = packet.type := by
    have field : (wireHeader packet).take 4 = bigEndian packet.type.toUInt32.toNat := by
      simp [wireHeader, bigEndian]
    rw [field, fromBigEndian_bigEndian packet.type.toUInt32.toNat_lt, UInt32.ofNat_toNat,
      Int32.toInt32_toUInt32]
  have sender : ((wireHeader packet).drop 8).take 32 = packet.sender.toList := by
    simp [wireHeader, bigEndian]
  have receiver : (wireHeader packet).drop 40 = packet.receiver.toList := by
    simp [wireHeader, bigEndian]
  have body : recvAll packet.length (packet.payload ++ rest) = some (packet.payload, rest) :=
    recvAll_append packet.payload_length
  unfold recvPacket
  split
  · rename_i missing
    rw [header] at missing
    contradiction
  · rename_i fields afterHeader found
    rw [header, Option.some.injEq, Prod.mk.injEq] at found
    obtain ⟨rfl, rfl⟩ := found
    dsimp only
    split
    · rename_i tooLong
      rw [length] at tooLong
      exact absurd tooLong (Nat.not_lt.mpr bound)
    · split
      · rename_i missing
        rw [length, body] at missing
        contradiction
      · rename_i data left received
        have whole := received
        rw [length, body, Option.some.injEq, Prod.mk.injEq] at whole
        obtain ⟨same, rfl⟩ := whole
        refine congrArg (fun received => some (received, rest)) (Packet.ext_fields type ?_ ?_ ?_ ?_)
        · change data.length = packet.length
          rw [← same, packet.payload_length]
        · exact receivedName_terminator packet.sender_terminated sender
            (sender ▸ List.Vector.toList_length _)
        · exact receivedName_terminator packet.receiver_terminated receiver
            (receiver ▸ List.Vector.toList_length _)
        · exact dataArray_payload packet same.symm (by rwa [← same, packet.payload_length])

/-- Packets with the same wire form are the same. -/
theorem wire_injective : Function.Injective wire := by
  intro left right same
  have read := recvPacket_wire left []
  rw [same, recvPacket_wire, Option.some.injEq, Prod.mk.injEq] at read
  exact read.1.symm

/-- A concatenation of whole packets is read back, and what follows is left. -/
theorem recvPackets_wires (packets : List Packet) (rest : List UInt8) :
    recvPackets packets.length (packets.flatMap wire ++ rest) = some (packets, rest) := by
  induction packets with
  | nil => rfl
  | cons packet packets ih =>
    rw [List.flatMap_cons, List.append_assoc, List.length_cons, recvPackets, recvPacket_wire]
    simp only [Option.bind_eq_bind, Option.bind_some, ih]
    rfl

/-! ## Many threads -/

/-- One `send` moves bytes from the buffers to the stream. -/
theorem sendSome_flatten {count : Nat} {buffers left : List (List UInt8)} {bytes : List UInt8}
    (sent : sendSome count buffers = some (bytes, left)) :
    buffers.flatten = bytes ++ left.flatten := by
  unfold sendSome at sent
  split at sent
  · contradiction
  · split at sent
    · cases sent
      split
      · rename_i whole
        rw [whole, List.take_length, List.flatten_cons]
      · rw [List.flatten_cons, List.flatten_cons, ← List.append_assoc, List.take_append_drop]
    · contradiction

namespace Channel

variable {ι : Type} [DecidableEq ι] {channel channel' : Channel ι} {thread : ι} {count : Nat}

/-- What a step does: it continues the packet of its thread, or begins the thread's next one. -/
theorem step_cases (taken : channel.step thread count = some channel') :
    ∃ bytes left, channel'.stream = channel.stream ++ bytes ∧
      ((channel.senders thread).buffers ≠ [] ∧
          (channel.senders thread).buffers.flatten = bytes ++ left.flatten ∧
          channel'.senders = Function.update channel.senders thread
            ⟨left, (channel.senders thread).packets⟩ ∧
          channel'.begun = channel.begun ∨
        ∃ packet rest, (channel.senders thread).buffers = [] ∧
          (channel.senders thread).packets = packet :: rest ∧
          wire packet = bytes ++ left.flatten ∧
          channel'.senders = Function.update channel.senders thread ⟨left, rest⟩ ∧
          channel'.begun = channel.begun ++ [(thread, packet)]) := by
  unfold step at taken
  simp only [Option.bind_eq_bind, Option.bind_eq_some_iff, Option.pure_def, Option.some.injEq]
    at taken
  obtain ⟨⟨started, buffers, packets⟩, chosen, ⟨bytes, left⟩, sent, rfl⟩ := taken
  have moved := sendSome_flatten sent
  refine ⟨bytes, left, rfl, ?_⟩
  unfold next at chosen
  split at chosen
  · contradiction
  · rename_i packet rest noBuffers queue
    simp only [Option.some.injEq, Prod.mk.injEq] at chosen
    obtain ⟨rfl, rfl, rfl⟩ := chosen
    exact .inr ⟨packet, rest, noBuffers, queue, moved, rfl, rfl⟩
  · rename_i noWork noBegin
    simp only [Option.some.injEq, Prod.mk.injEq] at chosen
    obtain ⟨rfl, rfl, rfl⟩ := chosen
    refine .inl ⟨fun noBuffers => ?_, moved, rfl, by simp⟩
    cases queue : (channel.senders thread).packets with
    | nil => exact noWork noBuffers queue
    | cons packet rest => exact noBegin packet rest noBuffers queue

/-- The thread does not begin a packet while another one is part-way through one. -/
def Alone (channel : Channel ι) (thread : ι) : Prop :=
  (channel.senders thread).buffers = [] → channel.Idle

/-- The stream is a concatenation of whole packets and the part of one packet that its thread has
sent so far. -/
def Framed (channel : Channel ι) : Prop :=
  ∃ (whole : List (ι × Packet)) (part : List UInt8),
    channel.stream = (whole.map Prod.snd).flatMap wire ++ part ∧
      (channel.Idle ∧ part = [] ∧ channel.begun = whole ∨
        ∃ thread packet, channel.begun = whole ++ [(thread, packet)] ∧
          (∀ other, other ≠ thread → (channel.senders other).buffers = []) ∧
          part ++ (channel.senders thread).buffers.flatten = wire packet)

omit [DecidableEq ι] in
/-- When no thread is part-way through a packet, the stream is the packets begun. -/
theorem Framed.idle (framed : channel.Framed) (idle : channel.Idle) :
    channel.stream = channel.packets.flatMap wire := by
  obtain ⟨whole, part, stream, ⟨_, rfl, begun⟩ | ⟨owner, packet, begun, _, rest⟩⟩ := framed
  · rw [stream, packets, begun, List.append_nil]
  · rw [idle owner, List.flatten_nil, List.append_nil] at rest
    rw [stream, packets, begun, rest]
    simp

/-- A step that begins no packet while another is being sent keeps the stream framed. -/
theorem Framed.step (framed : channel.Framed) (taken : channel.step thread count = some channel')
    (alone : channel.Alone thread) : channel'.Framed := by
  obtain ⟨bytes, left, stream', moves⟩ := step_cases taken
  rcases moves with ⟨sending, moved, senders', begun'⟩ | ⟨packet, rest, noBuffers, queue, moved,
    senders', begun'⟩
  · obtain ⟨whole, part, stream, ⟨idle, _, _⟩ | ⟨owner, packet, begun, others, remaining⟩⟩ := framed
    · exact absurd (idle thread) sending
    · have same : thread = owner := by
        by_contra different
        exact sending (others thread different)
      subst same
      refine ⟨whole, part ++ bytes, ?_, .inr ⟨thread, packet, begun'.trans begun, ?_, ?_⟩⟩
      · rw [stream', stream, List.append_assoc]
      · intro other different
        rw [senders', Function.update_of_ne different]
        exact others other different
      · rw [senders', Function.update_self, List.append_assoc, ← moved]
        exact remaining
  · have idle := alone noBuffers
    refine ⟨channel.begun, bytes, ?_, .inr ⟨thread, packet, begun', ?_, ?_⟩⟩
    · rw [stream', framed.idle idle]
      rfl
    · intro other different
      rw [senders', Function.update_of_ne different]
      exact idle other
    · rw [senders', Function.update_self, moved]

/-- What a thread has begun and what it still has to send is its work. -/
def Accounted (work : ι → List Packet) (channel : Channel ι) : Prop :=
  ∀ thread, channel.begunBy thread ++ (channel.senders thread).packets = work thread

/-- Every step keeps account of the threads' work. -/
theorem Accounted.step {work : ι → List Packet} (accounted : channel.Accounted work)
    (taken : channel.step thread count = some channel') : channel'.Accounted work := by
  obtain ⟨bytes, left, _, ⟨_, _, senders', begun'⟩ | ⟨packet, rest, _, queue, _, senders', begun'⟩⟩ :=
    step_cases taken
  · intro other
    rw [begunBy, begun', senders', ← accounted other, begunBy]
    by_cases same : other = thread
    · rw [same, Function.update_self]
    · rw [Function.update_of_ne same]
  · intro other
    rw [begunBy, begun', senders', ← accounted other, begunBy]
    by_cases same : other = thread
    · subst same
      simp [queue]
    · have different : ¬ thread = other := fun equal => same equal.symm
      simp [Function.update_of_ne same, different]

/-- Any interleaving of `send` calls in which no thread begins a packet while another one is
part-way through one. -/
def SerialReachable (work : ι → List Packet) (channel : Channel ι) : Prop :=
  Reachable (· = opened work) (fun channel (entry : ι × Nat) channel' =>
    channel.step entry.1 entry.2 = some channel' ∧ channel.Alone entry.1) channel

/-- Such an interleaving keeps the stream framed and loses no packet. -/
theorem SerialReachable.framed {work : ι → List Packet} (reached : channel.SerialReachable work) :
    channel.Framed ∧ channel.Accounted work := by
  refine reached.invariant (fun channel => channel.Framed ∧ channel.Accounted work)
    (fun channel initial => ?_) fun channel entry channel' _ holds step => ?_
  · obtain rfl : channel = opened work := initial
    exact ⟨⟨[], [], rfl, .inl ⟨fun _ => rfl, rfl, rfl⟩⟩, fun _ => rfl⟩
  · exact ⟨holds.1.step step.1 step.2, holds.2.step step.1⟩

/-- In any interleaving of any number of threads in which no thread begins a packet while another
one is part-way through one: when no thread is part-way through a packet, the stream is the
concatenation of the packets sent, and successive calls of `recv_packet` return exactly these. Each
thread's packets are among them, each once and in order, up to those it has not begun; and the
packets completed before one that is being sent can always be read. -/
theorem recvPackets_of_serial {work : ι → List Packet} (reached : channel.SerialReachable work) :
    (channel.Idle → channel.stream = channel.packets.flatMap wire ∧
        recvPackets channel.packets.length channel.stream = some (channel.packets, []) ∧
        recvPacket [] = none) ∧
      (∀ thread, channel.begunBy thread ++ (channel.senders thread).packets = work thread) ∧
      ∃ whole part, whole <+: channel.packets ∧ channel.packets.length ≤ whole.length + 1 ∧
        recvPackets whole.length channel.stream = some (whole, part) := by
  obtain ⟨framed, accounted⟩ := reached.framed
  refine ⟨fun idle => ⟨framed.idle idle, ?_, rfl⟩, accounted, ?_⟩
  · have read := recvPackets_wires channel.packets []
    rwa [List.append_nil, ← framed.idle idle] at read
  · obtain ⟨whole, part, stream, ⟨_, _, begun⟩ | ⟨_, packet, begun, _, _⟩⟩ := framed
    · have same : channel.packets = whole.map Prod.snd := congrArg (List.map Prod.snd) begun
      refine ⟨whole.map Prod.snd, part, ⟨[], ?_⟩, ?_, ?_⟩
      · rw [same, List.append_nil]
      · rw [same]
        exact Nat.le_succ _
      · rw [stream, recvPackets_wires]
    · refine ⟨whole.map Prod.snd, part, ?_, ?_, ?_⟩
      · rw [packets, begun, List.map_append]
        exact List.prefix_append _ _
      · simp [packets, begun]
      · rw [stream, recvPackets_wires]

/-- Two threads with one text response each. -/
def twoResponses (thread : Bool) : List Packet :=
  (packetSetText MessageType.msgOk.code (CString.ofString "server") CString.empty
    (CString.ofString (if thread then "yes" else "no"))).toList

/-- Both headers, then both payloads. -/
def headersFirst : List (Bool × Nat) := [(true, 72), (false, 72), (true, 4), (false, 3)]

/-- The threads can make these calls. -/
theorem headersFirst_runs : ((opened twoResponses).run headersFirst).isSome := by decide

/-- A computed step that begins no packet while another is being sent continues such a run. -/
theorem SerialReachable.then {work : ι → List Packet} (reached : channel.SerialReachable work)
    (entry : ι × Nat) (possible : (channel.step entry.1 entry.2).isSome)
    (alone : channel.Alone entry.1) :
    ((channel.step entry.1 entry.2).get possible).SerialReachable work :=
  .next reached ⟨(Option.some_get possible).symm, alone⟩

/-- Computed `send` calls are an interleaving. -/
theorem run_reachable {work : ι → List Packet} {schedule : List (ι × Nat)}
    (reached : Reachable (· = opened work) (fun channel (entry : ι × Nat) channel' =>
      channel.step entry.1 entry.2 = some channel') channel)
    (ran : channel.run schedule = some channel') :
    Reachable (· = opened work) (fun channel (entry : ι × Nat) channel' =>
      channel.step entry.1 entry.2 = some channel') channel' := by
  induction schedule generalizing channel with
  | nil => exact Option.some.inj ran ▸ reached
  | cons entry schedule ih =>
    simp only [run, List.foldlM_cons, Option.bind_eq_bind, Option.bind_eq_some_iff] at ran
    obtain ⟨middle, first, rest⟩ := ran
    exact ih (.next reached first) rest

/-- One thread sends its packet in two calls, then the other one begins. -/
theorem recvPackets_of_serial_twoResponses : ∃ channel : Channel Bool,
    (channel.Idle → channel.stream = channel.packets.flatMap wire ∧
        recvPackets channel.packets.length channel.stream = some (channel.packets, []) ∧
        recvPacket [] = none) ∧
      (∀ thread, channel.begunBy thread ++ (channel.senders thread).packets = twoResponses thread) ∧
      ∃ whole part, whole <+: channel.packets ∧ channel.packets.length ≤ whole.length + 1 ∧
        recvPackets whole.length channel.stream = some (whole, part) :=
  ⟨_, recvPackets_of_serial <|
    (((SerialReachable.then (.start rfl) (true, 72) (by decide) fun _ _ => rfl).then
      (true, 4) (by decide) fun noBuffers => absurd noBuffers (by decide)).then
      (false, 50) (by decide) fun _ thread => by cases thread <;> decide)⟩

/-- When two threads write their headers first, the peer reads something else than what was
sent. -/
theorem recvPackets_headersFirst : ¬ ∀ (ι : Type) [DecidableEq ι] (work : ι → List Packet)
    (channel : Channel ι), Reachable (· = opened work) (fun channel (entry : ι × Nat) channel' =>
      channel.step entry.1 entry.2 = some channel') channel → channel.Idle →
      ∃ order : List Packet, order.Perm channel.packets ∧ channel.stream = order.flatMap wire ∧
        recvPackets order.length channel.stream = some (order, []) := by
  intro claim
  have reached := run_reachable (.start rfl) (Option.some_get headersFirst_runs).symm
  have idle : ((opened twoResponses).run headersFirst).get headersFirst_runs |>.Idle := by
    intro thread
    cases thread <;> decide
  obtain ⟨order, same, _, read⟩ := claim Bool twoResponses _ reached idle
  have two : (((opened twoResponses).run headersFirst).get headersFirst_runs).packets.length = 2 := by
    decide
  have mixed : ((recvPackets 2 (((opened twoResponses).run headersFirst).get
      headersFirst_runs).stream).any fun received => decide (received.1.Perm
        (((opened twoResponses).run headersFirst).get headersFirst_runs).packets)) = false := by
    decide +kernel
  rw [same.length_eq, two] at read
  rw [read, Option.any_some, decide_eq_false_iff_not] at mixed
  exact mixed same

end Channel

end MultiUserChat
