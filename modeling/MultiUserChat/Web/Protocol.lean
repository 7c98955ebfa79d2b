import MultiUserChat.Common.Protocol
import MultiUserChat.Library.Utf8Encode
import MultiUserChat.Web.Number
/-!
# The gateway's codecs

`web/lib/protocol.js`. A `Buffer` is a list of bytes. A string is the list of its code points, where
a surrogate that is not part of a pair stands for itself; `Buffer.from(text, 'utf8')` and
`buffer.toString('utf8')` are `Utf8.encode` and `Utf8.decode`. Where nothing reads the message of an
error that a decoder throws, a thrown error is `none`.
-/

namespace MultiUserChat.Web

/-! ## Packets -/

/-- `WIRE_HEADER_BYTES` -/
abbrev wireHeaderBytes : Nat := 4 + 4 + usernameMaxLen + usernameMaxLen

/-- `readFixedCString` -/
def readFixedCString (buffer : List UInt8) : Text := Utf8.decode (buffer.takeWhile (· ≠ 0))

/-- Write bytes over a part of a buffer. -/
def overwrite (target : List UInt8) (offset : Nat) (bytes : List UInt8) : List UInt8 :=
  target.take offset ++ bytes ++ target.drop (offset + bytes.length)

/-- `writeFixedCString` -/
def writeFixedCString (target : List UInt8) (offset size : Nat) (value : Text)
    (fieldName : String) : Except Text (List UInt8) :=
  let bytes := Utf8.encode value
  if bytes.length ≥ size then
    .error (literal (fieldName ++ " must be shorter than " ++ toString size ++ " bytes"))
  else .ok (overwrite (overwrite target offset (List.replicate size 0)) offset bytes)

/-- `encodePacket`. The type is a 32-bit integer, so the check on it passes. -/
def encodePacket (type : Int32) (sender receiver : Text) (data : List UInt8) :
    Except Text (List UInt8) := do
  if data.length > packetDataMax then
    throw (literal ("data must be at most " ++ toString packetDataMax ++ " bytes"))
  let header := List.replicate wireHeaderBytes 0
  let header := overwrite header 0 (bigEndian type.toUInt32.toNat)
  let header := overwrite header 4 (bigEndian data.length)
  let header ← writeFixedCString header 8 usernameMaxLen sender "sender"
  let header ← writeFixedCString header 40 usernameMaxLen receiver "receiver"
  return header ++ data

/-- `encodeTextPacket` -/
def encodeTextPacket (type : Int32) (sender receiver text : Text) : Except Text (List UInt8) :=
  encodePacket type sender receiver (Utf8.encode (text ++ [0]))

/-- A packet as `PacketDecoder` returns it. -/
structure ReceivedPacket where
  /-- Message type. -/
  type : Int32
  /-- Length of the data. -/
  length : Nat
  /-- Sender name. -/
  sender : Text
  /-- Receiver name. -/
  receiver : Text
  /-- Data bytes. -/
  data : List UInt8
  /-- The data read as a string. -/
  text : Text
deriving DecidableEq

/-- `packetText` -/
def packetText (packet : ReceivedPacket) : Text := readFixedCString packet.data

/-- The packet of a frame, in `PacketDecoder.push`. -/
def packetOfFrame (frame : List UInt8) : ReceivedPacket :=
  let data := frame.drop wireHeaderBytes
  { type := (UInt32.ofNat (fromBigEndian (frame.take 4))).toInt32
    length := fromBigEndian ((frame.drop 4).take 4)
    sender := readFixedCString ((frame.drop 8).take 32)
    receiver := readFixedCString ((frame.drop 40).take 32)
    data
    text := readFixedCString data }

/-- `PacketDecoder` -/
structure PacketDecoder where
  /-- Bytes that have not been decoded. -/
  buffer : List UInt8 := []
deriving DecidableEq

/-- The loop of `PacketDecoder.push`: the packets, unless an error is thrown, and the buffer. Every
turn shortens the buffer. -/
def PacketDecoder.loop : Nat → List UInt8 → Option (List ReceivedPacket) × List UInt8
  | 0, buffer => (some [], buffer)
  | turns + 1, buffer =>
    if buffer.length ≥ wireHeaderBytes then
      let length := fromBigEndian ((buffer.drop 4).take 4)
      if length > packetDataMax then (none, buffer)
      else
        let totalLength := wireHeaderBytes + length
        if buffer.length < totalLength then (some [], buffer)
        else
          let frame := buffer.take totalLength
          -- When a later frame is malformed, the packets in front of it are lost with the error.
          let (packets, buffer) := loop turns (buffer.drop totalLength)
          (packets.map (packetOfFrame frame :: ·), buffer)
    else (some [], buffer)

/-- `PacketDecoder.push`; an error leaves the buffer at the malformed frame. -/
def PacketDecoder.push (decoder : PacketDecoder) (chunk : List UInt8) :
    Option (List ReceivedPacket) × PacketDecoder :=
  let buffer := decoder.buffer ++ chunk
  let (packets, buffer) := loop (buffer.length + 1) buffer
  (packets, ⟨buffer⟩)

/-! ## Group payloads -/

/-- `assertGroupField` -/
def assertGroupField (value : Text) (fieldName : String) (allowEmpty : Bool) : Except Text Text :=
  if !allowEmpty ∧ value.length = 0 then .error (literal (fieldName ++ "不能为空"))
  else if 0 ∈ value then .error (literal (fieldName ++ "不能包含 NUL 字符"))
  else .ok value

/-- The loop of `encodeGroupFields`. -/
def encodeGroupFieldsFrom (total : Nat) : List Text → Except Text (List UInt8)
  | [] => .ok []
  | field :: fields => do
    let text ← assertGroupField field "群字段" true
    let bytes := Utf8.encode (text ++ [0])
    let total := total + bytes.length
    if total > packetDataMax then
      throw (literal ("群协议 payload 不能超过 " ++ toString packetDataMax ++ " 字节"))
    let chunks ← encodeGroupFieldsFrom total fields
    return bytes ++ chunks

/-- `encodeGroupFields` -/
def encodeGroupFields (fields : List Text) : Except Text (List UInt8) :=
  encodeGroupFieldsFrom 0 fields

/-- `encodeGroupCreatePayload` -/
def encodeGroupCreatePayload (name : Text) (members : List Text) : Except Text (List UInt8) := do
  let groupName := trim (← assertGroupField name "群名" false)
  let members ← members.mapM fun item => assertGroupField item "群成员" false
  let uniqueMembers := ((members.map trim).filter (· ≠ [])).eraseDups
  if groupName.length = 0 then throw (literal "群名不能为空")
  if uniqueMembers.length = 0 then throw (literal "请至少选择一名在线成员")
  encodeGroupFields (groupName :: uniqueMembers)

/-- `encodeGroupMessagePayload` -/
def encodeGroupMessagePayload (groupId text : Text) : Except Text (List UInt8) := do
  let _ ← assertGroupField groupId "群 ID" false
  encodeGroupFields [← assertGroupField text "消息" false]

/-- `decodeGroupFields` -/
def decodeGroupFields (data : List UInt8) : Option (List (List Nat)) :=
  if data.length = 0 then some []
  else if data.getLast? ≠ some 0 then none
  else some ((Utf8.decode data.dropLast).splitOn 0)

/-- A group as the gateway knows it; what a message does not say is absent. -/
structure Group where
  /-- Group id. -/
  id : Text
  /-- Group name. -/
  name : Text
  /-- Name of the creator. -/
  creator : Option Text
  /-- Names of the members. -/
  members : Option (List Text)
deriving DecidableEq

/-- `parseGroupRecord` on the fields from the index on: the group, and the fields from the next index
on. -/
def parseGroupRecord : List Text → Option (Group × List Text)
  | id :: name :: creator :: memberCount :: fields =>
    match (Number.ofText memberCount).natural with
    | none => none
    | some memberCount =>
      if memberCount > fields.length then none
      else some (⟨id, name, some creator, some (fields.take memberCount)⟩, fields.drop memberCount)
  | _ => none

/-- `decodeGroupEventPayload`: the event and the group. -/
def decodeGroupEventPayload (data : List UInt8) : Option (Text × Group) := do
  let fields ← decodeGroupFields data
  if fields.length < 5 then failure
  match fields with
  | [] => failure
  | event :: fields =>
    let (group, fields) ← parseGroupRecord fields
    if fields ≠ [] then failure
    return (event, group)

/-- The loop of `decodeGroupListPayload`. -/
def parseGroupRecords : Nat → List Text → Option (List Group × List Text)
  | 0, fields => some ([], fields)
  | groupCount + 1, fields => do
    let (group, fields) ← parseGroupRecord fields
    let (groups, fields) ← parseGroupRecords groupCount fields
    return (group :: groups, fields)

/-- `decodeGroupListPayload` -/
def decodeGroupListPayload (data : List UInt8) : Option (List Group) := do
  match ← decodeGroupFields data with
  | [] => return []
  | groupCount :: fields =>
    let groupCount ← (Number.ofText groupCount).natural
    let (groups, fields) ← parseGroupRecords groupCount fields
    if fields ≠ [] then failure
    return groups

/-- `decodeGroupMessagePayload`: the group id, the group name and the text. -/
def decodeGroupMessagePayload (data : List UInt8) : Option (List Nat × List Nat × List Nat) :=
  match decodeGroupFields data with
  | some [groupId, groupName, text] => some (groupId, groupName, text)
  | _ => none

/-! ## File headers -/

/-- `FILE_NAME_MAX_LEN` -/
abbrev fileNameMaxLen : Nat := 256
/-- `FILE_TRANSFER_MAX_BYTES` -/
abbrev fileTransferMaxBytes : Nat := 10 * 1024 * 1024

/-- `encodeFileBeginPayload` -/
def encodeFileBeginPayload (filename : Text) (filesize : Nat) : Except Text (List UInt8) := do
  let payload := List.replicate (fileNameMaxLen + 8) 0
  let payload ← writeFixedCString payload 0 fileNameMaxLen filename "filename"
  let size := bigEndian (filesize / 2 ^ 32) ++ bigEndian filesize
  return overwrite payload fileNameMaxLen size.reverse

/-- `decodeFileBeginPayload`: the file name and size. The size is a double in the source, which is
exact for sizes that are accepted and too large for the others. -/
def decodeFileBeginPayload (data : List UInt8) : Except Text (Text × Nat) :=
  if data.length ≠ fileNameMaxLen + 8 then .error (literal "invalid file begin payload")
  else
    .ok (readFixedCString (data.take fileNameMaxLen),
      fromBigEndian (data.drop fileNameMaxLen).reverse)

end MultiUserChat.Web
