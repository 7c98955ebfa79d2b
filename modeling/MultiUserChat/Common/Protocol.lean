import Mathlib.Data.Vector.Basic
import MultiUserChat.Library.CString
import MultiUserChat.Library.Words
/-!
# Packets and their wire form

`include/protocol.h`, `common/protocol.c` and the part of `common/net_utils.c` that moves whole
buffers. A `Packet` is the C structure with its arrays. Every packet value of the programs comes
from `packet_init` or `recv_packet`, which both clear the structure first and leave the last byte
of each name zero; the structure carries these facts, so the other code need not check them.

`recvPacket` reads from the bytes a peer has written. How the operating system cuts the stream into
single `recv` results does not appear: `recv_all` loops until it has the bytes it was asked for.
-/

namespace MultiUserChat

/-- `USERNAME_MAX_LEN` -/
abbrev usernameMaxLen : Nat := 32
/-- `PASSWORD_MAX_LEN` -/
abbrev passwordMaxLen : Nat := 64
/-- `FILE_NAME_MAX_LEN` -/
abbrev fileNameMaxLen : Nat := 256
/-- `PACKET_DATA_MAX` -/
abbrev packetDataMax : Nat := 1024
/-- `FILE_TRANSFER_MAX_BYTES` -/
abbrev fileTransferMaxBytes : Nat := 10 * 1024 * 1024
/-- `GROUP_ID_MAX_LEN` -/
abbrev groupIdMaxLen : Nat := 32
/-- `GROUP_NAME_MAX_LEN` -/
abbrev groupNameMaxLen : Nat := 64
/-- `GROUP_MAX_MEMBERS` -/
abbrev groupMaxMembers : Nat := 64
/-- `GROUP_MAX_GROUPS` -/
abbrev groupMaxGroups : Nat := 128
/-- `GROUP_EVENT_MAX_CHANGES` -/
abbrev groupEventMaxChanges : Nat := 64
/-- `GROUP_PAYLOAD_MAX_FIELDS` -/
abbrev groupPayloadMaxFields : Nat := 128

instance usernameMaxLen_neZero : NeZero usernameMaxLen := ⟨by decide⟩
instance fileNameMaxLen_neZero : NeZero fileNameMaxLen := ⟨by decide⟩
instance groupNameMaxLen_neZero : NeZero groupNameMaxLen := ⟨by decide⟩

/-- `MessageType` -/
inductive MessageType
  | msgRegister | msgLogin | msgPrivate | msgGroup | msgOnlineList | msgFileBegin | msgFileChunk
  | msgFileEnd | msgLogout | msgHeartbeat | msgBroadcast | msgOk | msgError | msgGroupCreate
  | msgGroupList | msgGroupMessage | msgGroupEvent
deriving DecidableEq, Repr

namespace MessageType

/-- The enumerator's value. -/
def code : MessageType → Int32
  | msgRegister => 1
  | msgLogin => 2
  | msgPrivate => 3
  | msgGroup => 4
  | msgOnlineList => 5
  | msgFileBegin => 6
  | msgFileChunk => 7
  | msgFileEnd => 8
  | msgLogout => 9
  | msgHeartbeat => 10
  | msgBroadcast => 11
  | msgOk => 12
  | msgError => 13
  | msgGroupCreate => 14
  | msgGroupList => 15
  | msgGroupMessage => 16
  | msgGroupEvent => 17

/-- Every message type, in the order of the enumeration. -/
def all : List MessageType :=
  [msgRegister, msgLogin, msgPrivate, msgGroup, msgOnlineList, msgFileBegin, msgFileChunk,
    msgFileEnd, msgLogout, msgHeartbeat, msgBroadcast, msgOk, msgError, msgGroupCreate,
    msgGroupList, msgGroupMessage, msgGroupEvent]

/-- The enumerator a `switch` on a packet's type selects; none is the default branch. -/
def ofCode? (code : Int32) : Option MessageType := all.find? fun type => type.code = code

/-- A type is selected by its own code. -/
@[simp]
theorem ofCode?_code (type : MessageType) : ofCode? type.code = some type := by
  cases type <;> rfl

/-- A selected type has the code that selected it. -/
theorem code_of_ofCode? {code : Int32} {type : MessageType} (selected : ofCode? code = some type) :
    type.code = code := by
  simpa using List.find?_some selected

/-- Only the selected type has the code. -/
theorem eq_of_ofCode? {code : Int32} {type other : MessageType} (selected : ofCode? code = some type)
    (same : code = other.code) : type = other := by
  rw [same, ofCode?_code, Option.some.injEq] at selected
  exact selected.symm

end MessageType

/-- `Packet` -/
structure Packet where
  /-- Message type as it is on the wire; not every value names a `MessageType`. -/
  type : Int32
  /-- Number of meaningful bytes of `data`. -/
  length : Nat
  /-- Sender name array. -/
  sender : List.Vector UInt8 usernameMaxLen
  /-- Receiver name array. -/
  receiver : List.Vector UInt8 usernameMaxLen
  /-- Data array. -/
  data : List.Vector UInt8 packetDataMax
  /-- The length is within the data array. -/
  length_le : length ≤ packetDataMax
  /-- The sender array ends in a NUL. -/
  sender_terminated : sender.toList[31]? = some 0
  /-- The receiver array ends in a NUL. -/
  receiver_terminated : receiver.toList[31]? = some 0
  /-- Past the length the data array is as `memset` left it. -/
  cleared : data.toList.drop length = List.replicate (packetDataMax - length) 0
deriving DecidableEq

namespace Packet

/-- `packet->sender` read as a C string. -/
def senderName (packet : Packet) : CString := CString.ofBytes packet.sender.toList

/-- `packet->receiver` read as a C string. -/
def receiverName (packet : Packet) : CString := CString.ofBytes packet.receiver.toList

/-- `packet->data` read as a C string. -/
def dataText (packet : Packet) : CString := CString.ofBytes packet.data.toList

/-- The meaningful bytes of the data array. -/
def payload (packet : Packet) : List UInt8 := packet.data.toList.take packet.length

/-- The payload has the packet's length. -/
@[simp]
theorem payload_length (packet : Packet) : packet.payload.length = packet.length := by
  have bound := packet.length_le
  simp only [payload, List.length_take, List.Vector.toList_length]
  omega

/-- The data array is the payload followed by zero bytes. -/
theorem data_eq (packet : Packet) : packet.data.toList =
    packet.payload ++ List.replicate (packetDataMax - packet.length) 0 := by
  rw [← packet.cleared, payload, List.take_append_drop]

/-- The text of the data ends at the first NUL of the payload, if there is one. -/
theorem dataText_eq (packet : Packet) : packet.dataText = CString.ofBytes packet.payload := by
  rw [dataText, packet.data_eq, CString.ofBytes_append_zeros]

/-- The text of a payload is empty exactly when the payload is or starts with a NUL. -/
theorem dataText_length_eq_zero (packet : Packet) :
    packet.dataText.length = 0 ↔ packet.payload = [] ∨ packet.payload.head? = some 0 := by
  rw [dataText_eq]
  change (packet.payload.takeWhile (· ≠ 0)).length = 0 ↔ _
  cases packet.payload with
  | nil => simp
  | cons byte rest => by_cases zero : byte = 0 <;> simp [zero]

end Packet

/-- An array of a packet that can be read as a string. -/
inductive Field
  | sender | receiver | data
deriving DecidableEq

/-- The bytes of the array. -/
def Field.array (packet : Packet) : Field → List UInt8
  | .sender => packet.sender.toList
  | .receiver => packet.receiver.toList
  | .data => packet.data.toList

/-- `copy_fixed_string` into a name array of a cleared packet. -/
def copyFixedString (text : CString) : List.Vector UInt8 usernameMaxLen :=
  ⟨(copyFixed usernameMaxLen text).array, FixedString.array_length _⟩

/-- A copied name array ends in a NUL. -/
theorem copyFixedString_terminated (text : CString) : (copyFixedString text).toList[31]? = some 0 :=
  FixedString.array_last (copyFixed usernameMaxLen text)

/-- A name that fits is read back from its array. -/
theorem ofBytes_copyFixedString {text : CString} (fits : text.length < usernameMaxLen) :
    CString.ofBytes (copyFixedString text).toList = text := by
  change CString.ofBytes (copyFixed usernameMaxLen text).array = text
  rw [FixedString.ofBytes_array, copyFixed_toCString fits]

/-- The data array after `memset` and a copy of at most its size. -/
def dataArray (bytes : List UInt8) (fits : bytes.length ≤ packetDataMax) :
    List.Vector UInt8 packetDataMax :=
  ⟨bytes ++ List.replicate (packetDataMax - bytes.length) 0, by
    rw [List.length_append, List.length_replicate]
    omega⟩

/-- `packet_init`; the data pointer and the length are one list of bytes. -/
def packetInit (type : Int32) (sender receiver : CString) (data : List UInt8) : Option Packet :=
  if fits : data.length ≤ packetDataMax then
    some
      { type
        length := data.length
        sender := copyFixedString sender
        receiver := copyFixedString receiver
        data := dataArray data fits
        length_le := fits
        sender_terminated := copyFixedString_terminated sender
        receiver_terminated := copyFixedString_terminated receiver
        cleared := List.drop_left }
  else none

/-- `packet_set_text` -/
def packetSetText (type : Int32) (sender receiver text : CString) : Option Packet :=
  if text.length + 1 > packetDataMax then none
  else packetInit type sender receiver text.terminated

/-- A packet that was initialised carries its arguments. -/
theorem packetInit_eq {type : Int32} {sender receiver : CString} {data : List UInt8}
    {packet : Packet} (built : packetInit type sender receiver data = some packet) :
    packet.type = type ∧ packet.sender = copyFixedString sender ∧
      packet.receiver = copyFixedString receiver ∧ packet.payload = data := by
  unfold packetInit at built
  split at built
  · cases built
    exact ⟨rfl, rfl, rfl, List.take_left⟩
  · contradiction

/-- Initialisation is refused exactly for data longer than the array. -/
theorem packetInit_isSome {type : Int32} {sender receiver : CString} {data : List UInt8} :
    (packetInit type sender receiver data).isSome ↔ data.length ≤ packetDataMax := by
  unfold packetInit
  split <;> simp_all

/-! ## The wire -/

/-- The `WireHeader` bytes of a packet. -/
def wireHeader (packet : Packet) : List UInt8 :=
  bigEndian packet.type.toUInt32.toNat ++ bigEndian packet.length ++ packet.sender.toList ++
    packet.receiver.toList

/-- The buffers that `send_packet` hands to `send_all`, in order. -/
def sendBuffers (packet : Packet) : List (List UInt8) :=
  wireHeader packet :: if packet.length > 0 then [packet.payload] else []

/-- All bytes `send_packet` writes. -/
def wire (packet : Packet) : List UInt8 := (sendBuffers packet).flatten

/-- `recv_all`: exactly the bytes asked for, or failure at the end of the stream. -/
def recvAll (length : Nat) (stream : List UInt8) : Option (List UInt8 × List UInt8) :=
  if length ≤ stream.length then some (stream.take length, stream.drop length) else none

/-- A received name array with its last byte overwritten by a NUL. -/
def receivedName (field : List UInt8) (size : field.length = usernameMaxLen) :
    List.Vector UInt8 usernameMaxLen :=
  ⟨field.set 31 0, by rw [List.length_set, size]⟩

/-- Overwriting the last byte terminates the array. -/
theorem receivedName_terminated (field : List UInt8) (size : field.length = usernameMaxLen) :
    (receivedName field size).toList[31]? = some 0 := by
  change (field.set 31 0)[31]? = some 0
  rw [List.getElem?_set_self (by rw [size]; decide)]

/-- The bytes returned by `recv_all` have the length asked for, and the rest follows them. -/
theorem recvAll_eq {length : Nat} {stream bytes rest : List UInt8}
    (received : recvAll length stream = some (bytes, rest)) :
    bytes.length = length ∧ stream = bytes ++ rest := by
  unfold recvAll at received
  split at received
  · rename_i enough
    simp only [Option.some.injEq, Prod.mk.injEq] at received
    obtain ⟨rfl, rfl⟩ := received
    exact ⟨by rw [List.length_take]; omega, (List.take_append_drop _ _).symm⟩
  · contradiction

/-- `recv_all` of the length of a known prefix returns it. -/
theorem recvAll_append {length : Nat} {bytes rest : List UInt8} (size : bytes.length = length) :
    recvAll length (bytes ++ rest) = some (bytes, rest) := by
  subst size
  simp [recvAll]

/-- `recv_packet` on the bytes written by the peer, with the bytes left after the packet. -/
def recvPacket (stream : List UInt8) : Option (Packet × List UInt8) :=
  match header : recvAll 72 stream with
  | none => none
  | some (fields, afterHeader) =>
    let length := fromBigEndian ((fields.drop 4).take 4)
    if tooLong : length > packetDataMax then none
    else
      match body : recvAll length afterHeader with
      | none => none
      | some (data, rest) =>
        have fits : data.length ≤ packetDataMax := by
          have := (recvAll_eq body).1
          omega
        have whole := (recvAll_eq header).1
        have senderSize : ((fields.drop 8).take 32).length = usernameMaxLen := by
          rw [List.length_take, List.length_drop, whole]
          rfl
        have receiverSize : (fields.drop 40).length = usernameMaxLen := by
          rw [List.length_drop, whole]
        some
          ({ type := (UInt32.ofNat (fromBigEndian (fields.take 4))).toInt32
             length := data.length
             sender := receivedName ((fields.drop 8).take 32) senderSize
             receiver := receivedName (fields.drop 40) receiverSize
             data := dataArray data fits
             length_le := fits
             sender_terminated := receivedName_terminated _ senderSize
             receiver_terminated := receivedName_terminated _ receiverSize
             cleared := List.drop_left }, rest)

end MultiUserChat
