import MultiUserChat.Verif.StreamRoundTrip
import MultiUserChat.Web.Protocol
/-!
# The gateway's encoder and decoder

`encodePacket` writes what `packet_init` and `send_packet` write. `PacketDecoder.push` takes the
frames of the wire off its buffer (`push_eq`), so however the stream is cut into chunks, the packets
it returns are those of the frames of the whole stream, and what is left in the buffer is what follows
the last frame.
-/

namespace MultiUserChat.Web

/-! ## Encoding -/

/-- Writing over a part in the middle of a buffer. -/
theorem overwrite_middle {before old after new : List UInt8} {offset : Nat}
    (front : before.length = offset) (size : new.length = old.length) :
    overwrite (before ++ old ++ after) offset new = before ++ new ++ after := by
  subst front
  have front : (before ++ old ++ after).take before.length = before := by
    rw [List.append_assoc, List.take_left]
  have behind : (before ++ old ++ after).drop (before.length + new.length) = after :=
    List.drop_left' (by rw [List.length_append, size])
  rw [overwrite, front, behind]

/-- A name in its field. -/
def nameField (name : Text) : List UInt8 :=
  Utf8.encode name ++ List.replicate (usernameMaxLen - (Utf8.encode name).length) 0

/-- A field has the size of a name array. -/
theorem nameField_length {name : Text} (fits : (Utf8.encode name).length < usernameMaxLen) :
    (nameField name).length = usernameMaxLen := by
  rw [nameField, List.length_append, List.length_replicate]
  omega

/-- A text is written with zero bytes behind it. -/
theorem writeFixedCString_field {before old after : List UInt8} {offset size : Nat} {value : Text}
    (fieldName : String) (front : before.length = offset) (room : old.length = size)
    (fits : (Utf8.encode value).length < size) :
    writeFixedCString (before ++ old ++ after) offset size value fieldName =
      .ok (before ++ (Utf8.encode value ++
        List.replicate (size - (Utf8.encode value).length) 0) ++ after) := by
  have cleared : List.replicate size (0 : UInt8) =
      List.replicate (Utf8.encode value).length 0 ++
        List.replicate (size - (Utf8.encode value).length) 0 := by
    rw [← List.replicate_add]
    congr 1
    omega
  rw [writeFixedCString, if_neg (by omega), overwrite_middle front (by rw [List.length_replicate, room]),
    cleared, ← List.append_assoc before, List.append_assoc _ _ after,
    overwrite_middle front List.length_replicate.symm]
  simp only [List.append_assoc]

/-- A name is written into its field. -/
theorem writeFixedCString_middle {before old after : List UInt8} {offset : Nat} {value : Text}
    (fieldName : String) (front : before.length = offset) (room : old.length = usernameMaxLen)
    (fits : (Utf8.encode value).length < usernameMaxLen) :
    writeFixedCString (before ++ old ++ after) offset usernameMaxLen value fieldName =
      .ok (before ++ nameField value ++ after) :=
  writeFixedCString_field fieldName front room fits

/-- What `encodePacket` writes. -/
theorem encodePacket_bytes (type : Int32) {sender receiver : Text} {data : List UInt8}
    (senderFits : (Utf8.encode sender).length < usernameMaxLen)
    (receiverFits : (Utf8.encode receiver).length < usernameMaxLen)
    (dataFits : data.length ≤ packetDataMax) :
    encodePacket type sender receiver data = .ok (bigEndian type.toUInt32.toNat ++
      bigEndian data.length ++ nameField sender ++ nameField receiver ++ data) := by
  have zeros : List.replicate wireHeaderBytes (0 : UInt8) = [] ++ List.replicate 4 0 ++
      (List.replicate 4 0 ++ List.replicate usernameMaxLen 0 ++ List.replicate usernameMaxLen 0) := rfl
  have typeWritten := @overwrite_middle [] (List.replicate 4 0)
    (List.replicate 4 0 ++ List.replicate usernameMaxLen 0 ++ List.replicate usernameMaxLen 0)
    (bigEndian type.toUInt32.toNat) 0 rfl rfl
  have lengthWritten := @overwrite_middle (bigEndian type.toUInt32.toNat) (List.replicate 4 0)
    (List.replicate usernameMaxLen 0 ++ List.replicate usernameMaxLen 0)
    (bigEndian data.length) 4 rfl rfl
  have senderWritten := @writeFixedCString_middle
    (bigEndian type.toUInt32.toNat ++ bigEndian data.length)
    (List.replicate usernameMaxLen 0) (List.replicate usernameMaxLen 0) 8
    sender "sender" rfl List.length_replicate senderFits
  have receiverWritten := @writeFixedCString_middle
    (bigEndian type.toUInt32.toNat ++ bigEndian data.length ++ nameField sender)
    (List.replicate usernameMaxLen 0) [] 40 receiver "receiver"
    (by
      have size : usernameMaxLen = 32 := rfl
      simp only [List.length_append, bigEndian_length, nameField_length senderFits]
      omega)
    List.length_replicate receiverFits
  simp only [List.nil_append, List.append_nil, ← List.append_assoc]
    at typeWritten lengthWritten senderWritten receiverWritten
  rw [encodePacket, if_neg (Nat.not_lt.mpr dataFits), zeros]
  simp only [List.nil_append, ← List.append_assoc, typeWritten, lengthWritten, senderWritten]
  exact congrArg (fun header : Except Text (List UInt8) =>
    header >>= fun header => pure (header ++ data)) receiverWritten

/-- What is encoded fits. -/
theorem encodePacket_ok {type : Int32} {sender receiver : Text} {data bytes : List UInt8}
    (encoded : encodePacket type sender receiver data = .ok bytes) :
    (Utf8.encode sender).length < usernameMaxLen ∧ (Utf8.encode receiver).length < usernameMaxLen ∧
      data.length ≤ packetDataMax := by
  unfold encodePacket writeFixedCString at encoded
  by_cases dataFits : data.length > packetDataMax
  · rw [if_pos dataFits] at encoded
    contradiction
  rw [if_neg dataFits] at encoded
  by_cases senderFits : (Utf8.encode sender).length ≥ usernameMaxLen
  · simp only [if_pos senderFits] at encoded
    contradiction
  by_cases receiverFits : (Utf8.encode receiver).length ≥ usernameMaxLen
  · simp only [if_neg senderFits, if_pos receiverFits] at encoded
    contradiction
  exact ⟨Nat.not_le.mp senderFits, Nat.not_le.mp receiverFits, Nat.not_lt.mp dataFits⟩

/-- The fields of a packet that `encodePacket` accepts. -/
structure Sendable where
  /-- Message type. -/
  type : Int32
  /-- Sender name. -/
  sender : Text
  /-- Receiver name. -/
  receiver : Text
  /-- Data bytes. -/
  data : List UInt8
  /-- The sender name has no NUL. -/
  sender_nulFree : 0 ∉ sender
  /-- The receiver name has no NUL. -/
  receiver_nulFree : 0 ∉ receiver
  /-- The sender name fits its field. -/
  sender_fits : (Utf8.encode sender).length < usernameMaxLen
  /-- The receiver name fits its field. -/
  receiver_fits : (Utf8.encode receiver).length < usernameMaxLen
  /-- The data fit into a packet. -/
  data_fits : data.length ≤ packetDataMax

namespace Sendable

/-- The sender name as the C programs have it. -/
def senderName (fields : Sendable) : CString :=
  ⟨Utf8.encode fields.sender, fun zero => fields.sender_nulFree (Utf8.zero_mem_encode.mp zero)⟩

/-- The receiver name as the C programs have it. -/
def receiverName (fields : Sendable) : CString :=
  ⟨Utf8.encode fields.receiver, fun zero => fields.receiver_nulFree (Utf8.zero_mem_encode.mp zero)⟩

/-- The packet of `packet_init`. -/
def packet (fields : Sendable) : Packet :=
  (packetInit fields.type fields.senderName fields.receiverName fields.data).get
    (packetInit_isSome.mpr fields.data_fits)

/-- The packet was built by `packet_init`. -/
theorem packetInit_packet (fields : Sendable) :
    packetInit fields.type fields.senderName fields.receiverName fields.data =
      some fields.packet := (Option.some_get _).symm

/-- The packet carries the fields. -/
theorem packet_eq (fields : Sendable) : fields.packet.type = fields.type ∧
    fields.packet.length = fields.data.length ∧
    fields.packet.sender.toList = nameField fields.sender ∧
    fields.packet.receiver.toList = nameField fields.receiver ∧
    fields.packet.payload = fields.data := by
  obtain ⟨type, sender, receiver, payload⟩ := packetInit_eq fields.packetInit_packet
  have field (name : CString) (fits : name.length < usernameMaxLen) :
      (copyFixedString name).toList =
        name.bytes ++ List.replicate (usernameMaxLen - name.bytes.length) 0 := by
    change (copyFixed usernameMaxLen name).array = _
    rw [FixedString.array, copyFixed_toCString fits]
  refine ⟨type, ?_, ?_, ?_, payload⟩
  · rw [← fields.packet.payload_length, payload]
  · rw [sender, field fields.senderName fields.sender_fits]
    rfl
  · rw [receiver, field fields.receiverName fields.receiver_fits]
    rfl

/-- `encodePacket` writes what `send_packet` writes. -/
theorem encodePacket_eq (fields : Sendable) :
    encodePacket fields.type fields.sender fields.receiver fields.data = .ok (wire fields.packet) := by
  obtain ⟨type, length, sender, receiver, payload⟩ := fields.packet_eq
  rw [encodePacket_bytes _ fields.sender_fits fields.receiver_fits fields.data_fits, wire_eq,
    wireHeader, type, length, sender, receiver, payload]

end Sendable

/-! ## Decoding -/

/-- A turn of the loop of `push` cuts the buffer. -/
theorem PacketDecoder.loop_succ (turns : Nat) (buffer : List UInt8) :
    PacketDecoder.loop (turns + 1) buffer =
      match packetCut buffer with
      | .more => (some [], buffer)
      | .reject => (none, buffer)
      | .frame bytes rest =>
        ((loop turns rest).1.map (packetOfFrame bytes :: ·), (loop turns rest).2) := by
  unfold packetCut
  by_cases header : buffer.length < 72
  · rw [if_pos header]
    exact if_neg (Nat.not_le.mpr header)
  rw [if_neg header]
  refine (if_pos (Nat.not_lt.mp header)).trans ?_
  by_cases tooLong : lengthField buffer > packetDataMax
  · rw [if_pos tooLong]
    exact if_pos tooLong
  rw [if_neg tooLong]
  refine (if_neg tooLong).trans ?_
  by_cases short : buffer.length < 72 + lengthField buffer
  · rw [if_pos short]
    exact if_pos short
  rw [if_neg short]
  exact if_neg short

/-- The loop of `push` takes frames off the buffer. -/
theorem PacketDecoder.loop_eq (turns : Nat) (buffer : List UInt8) :
    PacketDecoder.loop turns buffer =
      (if (packetFraming.take turns buffer).rejected then none
        else some ((packetFraming.take turns buffer).frames.map packetOfFrame),
        (packetFraming.take turns buffer).rest) := by
  induction turns generalizing buffer with
  | zero => rfl
  | succ turns ih =>
    rw [loop_succ, Framing.take, show packetFraming.cut buffer = packetCut buffer from rfl]
    cases packetCut buffer with
    | more => rfl
    | reject => rfl
    | frame bytes rest =>
      dsimp only [Decoded.push]
      rw [ih]
      by_cases rejected : (packetFraming.take turns rest).rejected = true <;> simp [rejected]

/-- `push` decodes the buffer and the chunk. -/
theorem PacketDecoder.push_eq (decoder : PacketDecoder) (chunk : List UInt8) :
    decoder.push chunk =
      (if (packetFraming.decode (decoder.buffer ++ chunk)).rejected then none
        else some ((packetFraming.decode (decoder.buffer ++ chunk)).frames.map packetOfFrame),
        ⟨(packetFraming.decode (decoder.buffer ++ chunk)).rest⟩) := by
  rw [push, loop_eq]
  rfl

/-- Successive calls of `push`: the packets returned, concatenated, and the decoder; none of them when
a call throws an error. -/
def PacketDecoder.pushAll (decoder : PacketDecoder) :
    List (List UInt8) → Option (List ReceivedPacket × PacketDecoder)
  | [] => some ([], decoder)
  | chunk :: chunks => do
    let packets ← (decoder.push chunk).1
    let (later, decoder) ← pushAll (decoder.push chunk).2 chunks
    return (packets ++ later, decoder)

/-- The packets that successive calls of `push` return are those of the frames handed on. -/
theorem PacketDecoder.pushAll_feed (decoder : PacketDecoder) (chunks : List (List UInt8)) :
    decoder.pushAll chunks =
      if (packetFraming.feed decoder.buffer chunks).rejected then none
      else some ((packetFraming.feed decoder.buffer chunks).frames.map packetOfFrame,
        ⟨(packetFraming.feed decoder.buffer chunks).rest⟩) := by
  induction chunks generalizing decoder with
  | nil => rfl
  | cons chunk chunks ih =>
    rw [pushAll, push_eq, ih]
    cases answer : (packetFraming.decode (decoder.buffer ++ chunk)).rejected with
    | true =>
      rw [Framing.feed_rejected chunks answer]
      rfl
    | false =>
      rw [Framing.feed_accepted chunks answer]
      simp only [Bool.false_eq_true, if_false, Option.bind_eq_bind, Option.bind_some]
      split <;> simp

/-- Decoding whole packets and a part of another one. -/
theorem decode_wires (packets : List Packet) {part : List UInt8} (cut : packetCut part = .more) :
    packetFraming.decode (packets.flatMap wire ++ part) = ⟨packets.map wire, part, false⟩ := by
  induction packets with
  | nil => exact Framing.decode_more cut
  | cons packet packets ih =>
    have front : packetFraming.cut (wire packet ++ (packets.flatMap wire ++ part)) =
      .frame (wire packet) (packets.flatMap wire ++ part) := packetCut_wire packet _
    rw [List.flatMap_cons, List.append_assoc, Framing.decode_frame front, ih]
    rfl

/-! ## Round trip -/

/-- The packet that `PacketDecoder` returns for the fields given to `encodePacket`. -/
def Sendable.received (fields : Sendable) : ReceivedPacket where
  type := fields.type
  length := fields.data.length
  sender := fields.sender.map Utf8.scalar
  receiver := fields.receiver.map Utf8.scalar
  data := fields.data
  text := readFixedCString fields.data

/-- A name is read back from its field. -/
theorem readFixedCString_nameField {name : Text} (nulFree : 0 ∉ name)
    (fits : (Utf8.encode name).length < usernameMaxLen) :
    readFixedCString (nameField name) = name.map Utf8.scalar := by
  have padding : List.replicate (usernameMaxLen - (Utf8.encode name).length) (0 : UInt8) =
      0 :: List.replicate (usernameMaxLen - (Utf8.encode name).length - 1) 0 := by
    rw [← List.replicate_succ]
    congr 1
    omega
  have bytes : 0 ∉ Utf8.encode name := fun zero => nulFree (Utf8.zero_mem_encode.mp zero)
  rw [readFixedCString, nameField, padding, CString.takeWhile_append_nul bytes, Utf8.decode_encode]

/-- A packet as `PacketDecoder` returns it when it was sent. -/
def receivedFrom (packet : Packet) : ReceivedPacket where
  type := packet.type
  length := packet.length
  sender := readFixedCString packet.sender.toList
  receiver := readFixedCString packet.receiver.toList
  data := packet.payload
  text := readFixedCString packet.payload

/-- The frame of a packet is read as the packet. -/
theorem packetOfFrame_eq (packet : Packet) : packetOfFrame (wire packet) = receivedFrom packet := by
  have type : (wire packet).take 4 = bigEndian packet.type.toUInt32.toNat := by
    rw [wire_eq, wireHeader]
    rfl
  have length : ((wire packet).drop 4).take 4 = bigEndian packet.length := by
    rw [wire_eq, wireHeader]
    rfl
  have behind : (wire packet).drop 8 =
      packet.sender.toList ++ (packet.receiver.toList ++ packet.payload) := by
    rw [wire_eq, wireHeader]
    simp only [List.append_assoc]
    rfl
  have afterSender : (wire packet).drop 40 = packet.receiver.toList ++ packet.payload := by
    rw [show 40 = 8 + 32 from rfl, ← List.drop_drop, behind,
      List.drop_left' packet.sender.toList_length]
  have data : (wire packet).drop wireHeaderBytes = packet.payload := by
    rw [show wireHeaderBytes = 40 + 32 from rfl, ← List.drop_drop, afterSender,
      List.drop_left' packet.receiver.toList_length]
  have lengthBound : packet.length < 2 ^ 32 := Nat.lt_of_le_of_lt packet.length_le (by decide)
  rw [packetOfFrame, type, length, behind, afterSender, data,
    List.take_left' packet.sender.toList_length, List.take_left' packet.receiver.toList_length,
    fromBigEndian_bigEndian packet.type.toUInt32.toNat_lt, fromBigEndian_bigEndian lengthBound,
    UInt32.ofNat_toNat, Int32.toInt32_toUInt32]
  rfl

/-- The frame of a packet is read as its fields. -/
theorem packetOfFrame_wire (fields : Sendable) :
    packetOfFrame (wire fields.packet) = fields.received := by
  obtain ⟨type, length, sender, receiver, payload⟩ := fields.packet_eq
  rw [packetOfFrame_eq, receivedFrom, type, length, sender, receiver, payload,
    readFixedCString_nameField fields.sender_nulFree fields.sender_fits,
    readFixedCString_nameField fields.receiver_nulFree fields.receiver_fits]
  rfl

/-- `encodePacket` writes what `packet_init` and `send_packet` write. However the bytes of a list of
packets, and of a part of another one, are cut into chunks, the packets that `push` returns are the
ones that were encoded, with each surrogate that stands alone in a name replaced, and the part stays
in the buffer. -/
theorem pushAll_encodePacket (packets : List Sendable) (next : Sendable) {part : List UInt8}
    {chunks : List (List UInt8)} (start : part <+: wire next.packet)
    (short : part.length < (wire next.packet).length)
    (cut : chunks.flatten = (packets.map Sendable.packet).flatMap wire ++ part) :
    (∀ fields : Sendable,
        packetInit fields.type fields.senderName fields.receiverName fields.data =
          some fields.packet ∧
        encodePacket fields.type fields.sender fields.receiver fields.data =
          .ok (wire fields.packet)) ∧
      PacketDecoder.pushAll {} chunks = some (packets.map Sendable.received, ⟨part⟩) ∧
      ∀ fields : Sendable,
        ((∀ point ∈ fields.sender, Utf8.Scalar point) → fields.received.sender = fields.sender) ∧
        ((∀ point ∈ fields.receiver, Utf8.Scalar point) →
          fields.received.receiver = fields.receiver) := by
  have whole (text : Text) (valid : ∀ point ∈ text, Utf8.Scalar point) :
      text.map Utf8.scalar = text := by
    rw [← Utf8.decode_encode, Utf8.decode_encode_of_scalar valid]
  refine ⟨fun fields => ⟨fields.packetInit_packet, fields.encodePacket_eq⟩, ?_,
    fun fields => ⟨whole _, whole _⟩⟩
  have decoded : packetFraming.decode ([] ++ chunks.flatten) =
      ⟨(packets.map Sendable.packet).map wire, part, false⟩ := by
    rw [List.nil_append, cut, decode_wires _ (packetCut_part start short)]
  have fed : packetFraming.feed [] chunks = ⟨(packets.map Sendable.packet).map wire, part, false⟩ := by
    rw [Framing.feed_eq_decode (show packetFraming.cut [] = .more from rfl) (by rw [decoded]), decoded]
  rw [PacketDecoder.pushAll_feed, fed]
  refine congrArg (fun packets => some (packets, PacketDecoder.mk part)) ?_
  rw [List.map_map, List.map_map]
  exact List.map_congr_left fun fields _ => packetOfFrame_wire fields

/-- An empty name has no NUL. -/
theorem nil_nulFree : 0 ∉ ([] : Text) := List.not_mem_nil

/-- An empty name fits its field. -/
theorem encode_nil_fits : (Utf8.encode []).length < usernameMaxLen := by decide

/-- No data fit into a packet. -/
theorem noData_fits : ([] : List UInt8).length ≤ packetDataMax := by decide

/-- A packet of the given name without data. -/
def sampleSendable (sender : Text) (nulFree : 0 ∉ sender)
    (fits : (Utf8.encode sender).length < usernameMaxLen) : Sendable where
  type := 1
  sender
  receiver := []
  data := []
  sender_nulFree := nulFree
  receiver_nulFree := nil_nulFree
  sender_fits := fits
  receiver_fits := encode_nil_fits
  data_fits := noData_fits

/-- One packet of a user with a name of one letter, cut in the length field. -/
theorem pushAll_encodePacket_letter :
    PacketDecoder.pushAll {}
        [(wire (sampleSendable [0x61] (by decide) (by decide)).packet).take 5,
          (wire (sampleSendable [0x61] (by decide) (by decide)).packet).drop 5] =
      some ([(sampleSendable [0x61] (by decide) (by decide)).received], ⟨[]⟩) :=
  (pushAll_encodePacket [sampleSendable [0x61] (by decide) (by decide)]
    (sampleSendable [] (by decide) (by decide)) List.nil_prefix (by decide) (by simp)).2.1

/-- A name that is a surrogate alone comes back as the replacement character. -/
theorem pushAll_surrogate : ¬ ∀ (packets : List Sendable) (chunks : List (List UInt8)),
    chunks.flatten = (packets.map Sendable.packet).flatMap wire →
      ∃ received decoder, PacketDecoder.pushAll {} chunks = some (received, decoder) ∧
        received.map ReceivedPacket.sender = packets.map Sendable.sender := by
  intro claim
  have alone := claim [sampleSendable [0xd800] (by decide) (by decide)]
    [wire (sampleSendable [0xd800] (by decide) (by decide)).packet] (by simp)
  have read : PacketDecoder.pushAll {}
      [wire (sampleSendable [0xd800] (by decide) (by decide)).packet] =
        some ([(sampleSendable [0xd800] (by decide) (by decide)).received], ⟨[]⟩) := by decide
  obtain ⟨received, decoder, returned, same⟩ := alone
  rw [read, Option.some.injEq, Prod.mk.injEq] at returned
  rw [← returned.1] at same
  exact absurd same (by decide)

end MultiUserChat.Web
