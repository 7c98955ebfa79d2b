import MultiUserChat.Library.Lists
import MultiUserChat.Verif.GatewayPackets
/-!
# The two receivers

`recv_packet` takes a stream packet by packet, the gateway chunk by chunk. They find the same frames,
but the gateway loses the frames of a chunk that is malformed behind them, and stops at an error that
escapes; and a name reaches it as text, so the bytes of a name that is not UTF-8 or not terminated do
not. `receiversAgree_iff` says when none of this happens.
-/

namespace MultiUserChat.Web

/-! ## Names -/

/-- A name field with a terminator, in front of which stands UTF-8. -/
def NameField (field : List UInt8) : Prop :=
  0 ∈ field ∧ ∃ text, field.takeWhile (· ≠ 0) = Utf8.encode text

/-- Forcing a terminator at the end changes nothing in front of another one. -/
theorem takeWhile_set {field : List UInt8} (size : field.length = usernameMaxLen)
    (terminated : 0 ∈ field) : (field.set 31 0).takeWhile (· ≠ 0) = field.takeWhile (· ≠ 0) := by
  obtain ⟨name, rest, rfl, nulFree⟩ := List.eq_append_cons_of_mem terminated
  have total : usernameMaxLen = 32 := rfl
  rw [List.length_append, List.length_cons] at size
  have same : (name ++ 0 :: rest).set 31 0 = name ++ 0 :: rest.set (30 - name.length) 0 := by
    rw [List.set_append, if_neg (by omega)]
    cases last : 31 - name.length with
    | zero =>
      rw [List.set_cons_zero, List.length_eq_zero_iff.mp (show rest.length = 0 by omega)]
      rfl
    | succ position =>
      rw [List.set_cons_succ, show 30 - name.length = position by omega]
  rw [same, CString.takeWhile_append_nul nulFree, CString.takeWhile_append_nul nulFree]

/-- The gateway has the bytes of a name exactly when its field is terminated UTF-8. -/
theorem encode_readFixedCString {field : List UInt8} (size : field.length = usernameMaxLen) :
    Utf8.encode (readFixedCString field) = (CString.ofBytes (field.set 31 0)).bytes ↔
      NameField field := by
  change Utf8.encode (Utf8.decode (field.takeWhile (· ≠ 0))) = (field.set 31 0).takeWhile (· ≠ 0) ↔ _
  by_cases terminated : 0 ∈ field
  · rw [takeWhile_set size terminated, Utf8.encode_decode_iff, NameField,
      and_iff_right terminated]
  · refine iff_of_false ?_ fun name => terminated name.1
    -- All of the field is read as the name, and no byte of it is lost.
    rw [CString.takeWhile_nulFree terminated]
    intro same
    have whole := Utf8.length_le_encode_decode field
    have forced : (field.set 31 0).takeWhile (· ≠ 0) = field.take 31 := by
      have total : usernameMaxLen = 32 := rfl
      rw [List.set_eq_take_append_cons_drop, if_pos (by omega)]
      exact CString.takeWhile_append_nul (fun zero => terminated (List.mem_of_mem_take zero)) _
    rw [same, forced, List.length_take, size] at whole
    exact absurd whole (by decide)

/-! ## Packets -/

/-- A packet of the gateway has what a packet of the C programs has. -/
structure SamePacket (received : ReceivedPacket) (packet : Packet) : Prop where
  /-- The types agree. -/
  type : received.type = packet.type
  /-- The lengths agree. -/
  length : received.length = packet.length
  /-- The data agree. -/
  data : received.data = packet.payload
  /-- The sender names have the same bytes. -/
  sender : Utf8.encode received.sender = packet.senderName.bytes
  /-- The receiver names have the same bytes. -/
  receiver : Utf8.encode received.receiver = packet.receiverName.bytes

/-- A frame whose name fields are terminated UTF-8. -/
def FrameNames (bytes : List UInt8) : Prop :=
  NameField ((bytes.drop 8).take 32) ∧ NameField ((bytes.drop 40).take 32)

/-- The packets of a frame agree exactly when its name fields are terminated UTF-8. -/
theorem samePacket_iff {bytes : List UInt8} {packet : Packet}
    (cut : packetCut bytes = .frame bytes []) (own : recvPacket bytes = some (packet, [])) :
    SamePacket (packetOfFrame bytes) packet ↔ FrameNames bytes := by
  obtain ⟨size, bound⟩ := packetCut_bytes cut
  obtain ⟨whole, fits, read, _⟩ := recvPacket_frame cut
  rw [own, Option.some.injEq, Prod.mk.injEq] at read
  obtain ⟨rfl, _⟩ := read
  have senderField : ((bytes.take 72).drop 8).take 32 = (bytes.drop 8).take 32 := by
    rw [List.drop_take, List.take_take]
    rfl
  have receiverField : (bytes.take 72).drop 40 = (bytes.drop 40).take 32 := by
    rw [List.drop_take]
  have sender : Utf8.encode (packetOfFrame bytes).sender =
      (receivedPacket (bytes.take 72) (bytes.drop 72) whole fits).senderName.bytes ↔
        NameField ((bytes.drop 8).take 32) := by
    have fieldSize : (((bytes.take 72).drop 8).take 32).length = usernameMaxLen := by
      rw [List.length_take, List.length_drop, whole]
      rfl
    have read : (packetOfFrame bytes).sender =
        readFixedCString (((bytes.take 72).drop 8).take 32) := congrArg readFixedCString senderField.symm
    rw [← senderField, read]
    exact encode_readFixedCString fieldSize
  have receiver : Utf8.encode (packetOfFrame bytes).receiver =
      (receivedPacket (bytes.take 72) (bytes.drop 72) whole fits).receiverName.bytes ↔
        NameField ((bytes.drop 40).take 32) := by
    have fieldSize : ((bytes.take 72).drop 40).length = usernameMaxLen := by
      rw [List.length_drop, whole]
    have read : (packetOfFrame bytes).receiver = readFixedCString ((bytes.take 72).drop 40) :=
      congrArg readFixedCString receiverField.symm
    rw [← receiverField, read]
    exact encode_readFixedCString fieldSize
  have type : (packetOfFrame bytes).type =
      (receivedPacket (bytes.take 72) (bytes.drop 72) whole fits).type := by
    change (UInt32.ofNat (fromBigEndian (bytes.take 4))).toInt32 =
      (UInt32.ofNat (fromBigEndian ((bytes.take 72).take 4))).toInt32
    rw [List.take_take]
    rfl
  have length : (packetOfFrame bytes).length =
      (receivedPacket (bytes.take 72) (bytes.drop 72) whole fits).length := by
    change lengthField bytes = (bytes.drop 72).length
    rw [List.length_drop]
    omega
  have data : (packetOfFrame bytes).data =
      (receivedPacket (bytes.take 72) (bytes.drop 72) whole fits).payload := by
    change bytes.drop 72 = (bytes.drop 72 ++ _).take (bytes.drop 72).length
    rw [List.take_left]
  exact ⟨fun same => ⟨sender.mp same.sender, receiver.mp same.receiver⟩,
    fun names => ⟨type, length, data, sender.mpr names.1, receiver.mpr names.2⟩⟩

/-! ## Streams -/

instance (packet : ReceivedPacket) : Decidable (GroupWellFormed packet) :=
  decidable_of_iff _ (@ClientSession.handlePacket_isSome {} packet)

namespace ClientSession

/-- The packets passed to `handlePacket` are those up to the first one whose error escapes. -/
theorem handlePackets_passed (session : ClientSession) (packets : List ReceivedPacket) :
    (session.handlePackets packets).1 = takeThrough (fun packet => GroupWellFormed packet) packets := by
  induction packets generalizing session with
  | nil => rfl
  | cons packet packets ih =>
    rw [handlePackets, takeThrough]
    cases handled : session.handlePacket packet with
    | none =>
      have malformed : ¬ GroupWellFormed packet := by
        rw [← @handlePacket_isSome session packet, handled]
        simp
      rw [if_neg (by simpa using malformed)]
    | some session' =>
      have formed : GroupWellFormed packet := by
        rw [← @handlePacket_isSome session packet, handled]
        rfl
      rw [if_pos (by simpa using formed)]
      exact congrArg (packet :: ·) (ih session')

/-- An error escapes from packets that are not all well-formed. -/
theorem handlePackets_escaped (session : ClientSession) {packets : List ReceivedPacket}
    (malformed : ¬ ∀ packet ∈ packets, GroupWellFormed packet) :
    (session.handlePackets packets).2 = none := by
  induction packets generalizing session with
  | nil => exact absurd (by simp) malformed
  | cons packet packets ih =>
    rw [handlePackets]
    cases handled : session.handlePacket packet with
    | none => rfl
    | some session' =>
      refine ih session' fun rest => malformed (List.forall_mem_cons.mpr ⟨?_, rest⟩)
      rw [← @handlePacket_isSome session packet, handled]
      rfl

/-- The packets passed to `handlePacket` while chunks arrive are those of the frames handed on, up to
the first one whose error escapes. -/
theorem handleChunks_passed (session : ClientSession) (chunks : List (List UInt8)) :
    (session.handleChunks chunks).1 = takeThrough (fun packet => GroupWellFormed packet)
      ((packetFraming.feed session.tcpDecoder.buffer chunks).frames.map packetOfFrame) := by
  induction chunks generalizing session with
  | nil => rfl
  | cons chunk chunks ih =>
    rw [handleChunks]
    cases answer : (packetFraming.decode (session.tcpDecoder.buffer ++ chunk)).rejected with
    | true =>
      obtain ⟨session', handled, _, decoder⟩ := handleTcpData_rejected answer
      rw [Framing.feed_rejected chunks answer, handled]
      simp only [ih, decoder, Framing.feed_malformed (Framing.decode_rest_rejected answer),
        List.map_nil, takeThrough, List.append_nil]
    | false =>
      obtain ⟨_, handled⟩ := handleTcpData_accepted answer
      rw [Framing.feed_accepted chunks answer, List.map_append, handled]
      generalize (packetFraming.decode (session.tcpDecoder.buffer ++ chunk)).frames.map
        packetOfFrame = packets
      by_cases formed : ∀ packet ∈ packets, GroupWellFormed packet
      · obtain ⟨session', whole, decoder⟩ := handlePackets_contained (packetsContained_iff.mpr formed)
        rw [takeThrough_append_of_all (by simpa using formed), whole]
        simp only [ih, decoder]
      · have escaped := handlePackets_escaped { session with tcpDecoder :=
          ⟨(packetFraming.decode (session.tcpDecoder.buffer ++ chunk)).rest⟩ } formed
        rw [takeThrough_append_of_not_all (by simpa using formed), ← handlePackets_passed]
        split
        · rename_i passed _ same
          rw [same]
        · rename_i passed later _ same
          rw [same] at escaped
          contradiction

end ClientSession

/-- The packets of frames agree exactly when all name fields are terminated UTF-8. -/
theorem samePackets_iff {frames : List (List UInt8)} {packets : List Packet}
    (cut : ∀ frame ∈ frames, packetCut frame = .frame frame [])
    (own : frames.map framePacket = packets.map some) :
    List.Forall₂ SamePacket (frames.map packetOfFrame) packets ↔
      ∀ frame ∈ frames, FrameNames frame := by
  induction frames generalizing packets with
  | nil =>
    cases packets with
    | nil => simp
    | cons => contradiction
  | cons frame frames ih =>
    cases packets with
    | nil => contradiction
    | cons packet packets =>
      obtain ⟨first, later⟩ := List.forall_mem_cons.mp cut
      rw [List.map_cons, List.map_cons, List.cons.injEq] at own
      obtain ⟨packet', read, _⟩ := recvPacket_of_cut first
      have same : some packet' = some packet := by
        rw [← own.1, framePacket, read]
        rfl
      cases same
      rw [List.map_cons, List.forall₂_cons, List.forall_mem_cons, samePacket_iff first read,
        ih later own.2]

/-- The packets passed to `handlePacket` while the chunks arrive are the packets that `recv_packet`
returns on the same stream up to its first failure. -/
def ReceiversAgree (session : ClientSession) (chunks : List (List UInt8)) : Prop :=
  ∃ packets rest, recvPackets packets.length chunks.flatten = some (packets, rest) ∧
    recvPacket rest = none ∧ List.Forall₂ SamePacket (session.handleChunks chunks).1 packets

/-- The receivers agree, on a new connection of any session and for all chunks, exactly when the chunk
that makes the stream malformed completes no packet, no packet behind which there is another one has a
malformed group payload, and all name fields are terminated UTF-8. -/
theorem receiversAgree_iff (session : ClientSession) (chunks : List (List UInt8)) :
    ReceiversAgree { session with tcpDecoder := {} } chunks ↔
      packetFraming.lost [] chunks = [] ∧
        (∀ frame ∈ (packetFraming.feed [] chunks).frames.dropLast,
          GroupWellFormed (packetOfFrame frame)) ∧
        ∀ frame ∈ (packetFraming.decode chunks.flatten).frames, FrameNames frame := by
  obtain ⟨packets, own, read, fails⟩ := recvPackets_decode chunks.flatten
  obtain ⟨pieces, _⟩ := Framing.decode_pieces (show packetFraming.cut [] = .more from rfl) chunks
  rw [List.nil_append] at pieces
  have cut : ∀ frame ∈ (packetFraming.decode chunks.flatten).frames,
      packetCut frame = .frame frame [] := by
    intro frame member
    obtain ⟨stream, rest, cut⟩ := Framing.decode_frames chunks.flatten frame member
    exact packetCut_self cut
  have names := samePackets_iff cut own
  have passed : (ClientSession.handleChunks { session with tcpDecoder := {} } chunks).1 =
      takeThrough (fun packet => GroupWellFormed packet)
        ((packetFraming.feed [] chunks).frames.map packetOfFrame) :=
    ClientSession.handleChunks_passed { session with tcpDecoder := {} } chunks
  have agree : ReceiversAgree { session with tcpDecoder := {} } chunks ↔
      List.Forall₂ SamePacket
        (ClientSession.handleChunks { session with tcpDecoder := {} } chunks).1 packets := by
    refine ⟨?_, fun same => ⟨packets, _, read, fails, same⟩⟩
    rintro ⟨packets', rest, read', fails', same⟩
    rwa [recvPackets_unique read fails read' fails']
  rw [agree, passed]
  constructor
  · intro same
    have count := same.length_eq
    have total : packets.length =
        (packetFraming.feed [] chunks).frames.length + (packetFraming.lost [] chunks).length := by
      rw [← List.length_append, ← pieces, ← List.length_map, ← own, List.length_map]
    have front := takeThrough_prefix (fun packet => GroupWellFormed packet)
      ((packetFraming.feed [] chunks).frames.map packetOfFrame)
    have shorter := front.length_le
    rw [List.length_map] at shorter
    have nothing : packetFraming.lost [] chunks = [] :=
      List.length_eq_zero_iff.mp (by omega)
    have all := front.eq_of_length (by rw [List.length_map]; omega)
    refine ⟨nothing, ?_, ?_⟩
    · rw [takeThrough_eq_self, ← List.map_dropLast] at all
      exact fun frame member => of_decide_eq_true (List.forall_mem_map.mp all frame member)
    · rw [all] at same
      rw [nothing, List.append_nil] at pieces
      rwa [← pieces, names] at same
  · rintro ⟨nothing, formed, fields⟩
    have all : takeThrough (fun packet => GroupWellFormed packet)
        ((packetFraming.feed [] chunks).frames.map packetOfFrame) =
          (packetFraming.feed [] chunks).frames.map packetOfFrame := by
      rw [takeThrough_eq_self, ← List.map_dropLast]
      exact List.forall_mem_map.mpr fun frame member => decide_eq_true (formed frame member)
    rw [nothing, List.append_nil] at pieces
    rw [all, ← pieces, names]
    exact fields

/-- A packet and the header of one that is too long, in one chunk. -/
def oversizeChunk : List UInt8 :=
  wire (sampleSendable [0x61] (by decide) (by decide)).packet ++
    (bigEndian 1 ++ bigEndian 1025 ++ List.replicate 64 0)

/-- The receivers do not agree on a chunk of which the gateway passes nothing on, when `recv_packet`
returns a packet. -/
theorem not_receiversAgree {session : ClientSession} {chunk : List UInt8}
    (nothing : (session.handleChunks [chunk]).1 = []) (returned : recvPacket chunk ≠ none) :
    ¬ ReceiversAgree session [chunk] := by
  rintro ⟨packets, rest, read, fails, same⟩
  rw [nothing, List.forall₂_nil_left_iff] at same
  subst same
  rw [List.flatten_cons, List.flatten_nil, List.append_nil] at read
  cases read
  exact returned fails

/-- `recv_packet` returns the packet, which is lost at the gateway. -/
theorem receivers_disagree : ¬ ∀ (session : ClientSession) (chunks : List (List UInt8)),
    ReceiversAgree { session with tcpDecoder := {} } chunks := by
  intro claim
  have returned : recvPacket oversizeChunk ≠ none := by
    rw [oversizeChunk, recvPacket_wire]
    simp
  exact not_receiversAgree (by decide +kernel) returned (claim {} [oversizeChunk])

end MultiUserChat.Web
