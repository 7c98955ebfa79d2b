import MultiUserChat.Common.Protocol
import MultiUserChat.Library.Calls
/-!
# Sending and receiving whole buffers

`send_all` and `recv_all` of `common/net_utils.c` with their loops over single calls, and
`send_packet` and `recv_packet` over them. The results of the calls are an argument; a call moves no
more than it is asked to, and `recv` no more than the peer has written. At the end of the stream
`recv` moves nothing, which both loops take for an error.
-/

namespace MultiUserChat

section

variable {fields : List UInt8}

/-- The sender's field of a header. -/
theorem senderField_length (whole : fields.length = 72) :
    ((fields.drop 8).take 32).length = usernameMaxLen := by
  rw [List.length_take, List.length_drop, whole]
  rfl

/-- The receiver's field of a header. -/
theorem receiverField_length (whole : fields.length = 72) :
    (fields.drop 40).length = usernameMaxLen := by
  rw [List.length_drop, whole]

/-- The sender's name of a header ends in a NUL. -/
theorem senderField_terminated (size : ((fields.drop 8).take 32).length = usernameMaxLen) :
    (receivedName ((fields.drop 8).take 32) size).toList[31]? = some 0 :=
  receivedName_terminated _ size

/-- The receiver's name of a header ends in a NUL. -/
theorem receiverField_terminated (size : (fields.drop 40).length = usernameMaxLen) :
    (receivedName (fields.drop 40) size).toList[31]? = some 0 := receivedName_terminated _ size

/-- The data array is cleared past the data. -/
theorem dataArray_cleared {data : List UInt8} (fits : data.length ≤ packetDataMax) :
    (dataArray data fits).toList.drop data.length =
      List.replicate (packetDataMax - data.length) 0 := List.drop_left

end

/-- The packet that `recv_packet` builds from the bytes of a header and of a payload. -/
def receivedPacket (fields data : List UInt8) (whole : fields.length = 72)
    (fits : data.length ≤ packetDataMax) : Packet :=
  have senderSize : ((fields.drop 8).take 32).length = usernameMaxLen := senderField_length whole
  have receiverSize : (fields.drop 40).length = usernameMaxLen := receiverField_length whole
  { type := (UInt32.ofNat (fromBigEndian (fields.take 4))).toInt32
    length := data.length
    sender := receivedName ((fields.drop 8).take 32) senderSize
    receiver := receivedName (fields.drop 40) receiverSize
    data := dataArray data fits
    length_le := fits
    sender_terminated := senderField_terminated senderSize
    receiver_terminated := receiverField_terminated receiverSize
    cleared := dataArray_cleared fits }

namespace Socket

/-- `send_all`: the bytes written, and the results of the calls that are still to come. -/
def sendAll : List CallResult → List UInt8 → Progress (List UInt8 × List CallResult)
  | calls, [] => .returned ([], calls)
  | [], _ :: _ => .blocked
  | .interrupted :: calls, buffer => sendAll calls buffer
  | .failed :: _, _ => .failed
  | .moved count :: calls, buffer =>
    let sent := min count buffer.length
    if sent = 0 then .failed
    else do
      let (bytes, calls) ← sendAll calls (buffer.drop sent)
      return (buffer.take sent ++ bytes, calls)

/-- `recv_all` on the bytes written by the peer: the bytes received, the results of the calls still
to come and the bytes still to be received. -/
def recvAll : List CallResult → Nat → List UInt8 →
    Progress (List UInt8 × List CallResult × List UInt8)
  | calls, 0, stream => .returned ([], calls, stream)
  | [], _ + 1, _ => .blocked
  | .interrupted :: calls, length, stream => recvAll calls length stream
  | .failed :: _, _, _ => .failed
  | .moved count :: calls, length, stream =>
    let got := min count (min length stream.length)
    if got = 0 then .failed
    else do
      let (bytes, calls, rest) ← recvAll calls (length - got) (stream.drop got)
      return (stream.take got ++ bytes, calls, rest)

/-- `send_packet` -/
def sendPacket (calls : List CallResult) (packet : Packet) :
    Progress (List UInt8 × List CallResult) := do
  let (header, calls) ← sendAll calls (wireHeader packet)
  if packet.length > 0 then
    let (payload, calls) ← sendAll calls packet.payload
    return (header ++ payload, calls)
  else return (header, calls)

/-- The bytes received have the length asked for, and the rest of the stream follows them. -/
theorem recvAll_eq {calls calls' : List CallResult} {length : Nat} {stream bytes rest : List UInt8}
    (received : recvAll calls length stream = .returned (bytes, calls', rest)) :
    bytes.length = length ∧ stream = bytes ++ rest := by
  fun_induction recvAll calls length stream generalizing bytes with
  | case1 =>
    cases received
    exact ⟨rfl, rfl⟩
  | case2 => contradiction
  | case3 _ _ _ _ ih => exact ih received
  | case4 => contradiction
  | case5 => contradiction
  | case6 =>
    rename_i got _ ih
    obtain ⟨⟨later, left, remaining⟩, inner, outer⟩ := Progress.bind_eq_returned.mp received
    cases outer
    obtain ⟨size, split⟩ := ih inner
    refine ⟨?_, ?_⟩
    · rw [List.length_append, List.length_take, size]
      omega
    · rw [List.append_assoc, ← split, List.take_append_drop]

/-- `recv_packet` -/
def recvPacket (calls : List CallResult) (stream : List UInt8) :
    Progress (Packet × List CallResult × List UInt8) :=
  match header : recvAll calls 72 stream with
  | .blocked => .blocked
  | .failed => .failed
  | .returned (fields, calls, stream) =>
    let length := fromBigEndian ((fields.drop 4).take 4)
    if tooLong : length > packetDataMax then .failed
    else
      -- A payload of length zero takes no call.
      match body : recvAll calls length stream with
      | .blocked => .blocked
      | .failed => .failed
      | .returned (data, calls, stream) =>
        have fits : data.length ≤ packetDataMax := by
          have := (recvAll_eq body).1
          omega
        .returned (receivedPacket fields data (recvAll_eq header).1 fits, calls, stream)

/-- Successive calls of `send_packet`. -/
def sendPackets (calls : List CallResult) : List Packet →
    Progress (List UInt8 × List CallResult)
  | [] => .returned ([], calls)
  | packet :: packets => do
    let (bytes, calls) ← sendPacket calls packet
    let (later, calls) ← sendPackets calls packets
    return (bytes ++ later, calls)

/-- Successive calls of `recv_packet`. -/
def recvPackets (calls : List CallResult) : Nat → List UInt8 →
    Progress (List Packet × List CallResult × List UInt8)
  | 0, stream => .returned ([], calls, stream)
  | count + 1, stream => do
    let (packet, calls, stream) ← recvPacket calls stream
    let (packets, calls, stream) ← recvPackets calls count stream
    return (packet :: packets, calls, stream)

end Socket

end MultiUserChat
