import MultiUserChat.Common.FileUtils
import MultiUserChat.Common.User
/-!
# The C client's receiving side

`recv_thread`, `wait_for_auth_response` and the incoming file of `client/client.c`. A handler returns
the file it leaves and the lines it prints. The `FILE` of the transfer is the list of the bytes that
`fwrite` has taken for it; what the file system and the stream answer is an argument.
-/

namespace MultiUserChat.Client

/-- `IncomingFile` -/
structure IncomingFile where
  /-- A transfer is active. -/
  active : Bool := false
  /-- Name of the sender. -/
  sender : FixedString usernameMaxLen := zeroFixed usernameMaxLen
  /-- Name of the file. -/
  filename : FixedString fileNameMaxLen := zeroFixed fileNameMaxLen
  /-- Size announced. -/
  expectedSize : UInt64 := 0
  /-- Number of bytes received. -/
  receivedSize : UInt64 := 0
  /-- The open file, with what has been written to it. -/
  fp : Option (List UInt8) := none
  /-- Where the file is stored. -/
  path : CString := CString.empty
  /-- An active transfer has an open file. -/
  opened : active = true → fp.isSome = true := by simp
deriving DecidableEq

/-- Without an active transfer no file needs to be open. -/
theorem inactive_opened : false = true → (none : Option (List UInt8)).isSome = true := by simp

/-- What the client prints. -/
inductive Line
  /-- A text as it is. -/
  | text (text : CString)
  /-- A private message. -/
  | privateText (sender text : CString)
  /-- A public message. -/
  | groupText (sender text : CString)
  /-- A packet of another type, by the type's name. -/
  | system (name : CString)
  /-- A transfer has begun. -/
  | started (filename path : CString) (size : UInt64)
  /-- A file has been received; its content stands beside its path. -/
  | received (path : CString) (content : List UInt8)
  /-- The size of a file is not the one announced. -/
  | mismatch (received expected : UInt64)
deriving DecidableEq

/-- What the environment answers while a packet is handled. -/
structure Outcome where
  /-- What `build_unique_download_path` finds. -/
  download : DownloadOutcome
  /-- `fopen` succeeds. -/
  opened : Bool
  /-- The number of bytes that `fwrite` takes, if it takes fewer than it is given. -/
  taken : Option Nat

/-! ## Files -/

/-- `FileBeginPayload`, with the last byte of the name overwritten by a NUL. -/
structure FileBeginPayload where
  /-- Name of the file. -/
  filename : CString
  /-- Its size. -/
  filesize : UInt64

/-- The payload copied from the data of a packet; the size is in host order, least byte first. -/
def FileBeginPayload.ofData (data : List UInt8) : FileBeginPayload where
  filename := CString.ofBytes ((data.take fileNameMaxLen).set (fileNameMaxLen - 1) 0)
  filesize := UInt64.ofNat (fromBigEndian ((data.drop fileNameMaxLen).take 8).reverse)

/-- `handle_file_begin` -/
def handleFileBegin (outcome : Outcome) (packet : Packet) : IncomingFile × List Line :=
  -- The file that was being received is closed first, whatever comes.
  if packet.length ≠ fileNameMaxLen + 8 then
    ({}, [.text (CString.ofString "收到非法文件头")])
  else
    let payload := FileBeginPayload.ofData packet.data.toList
    if payload.filesize > UInt64.ofNat fileTransferMaxBytes then
      ({}, [.text (CString.ofString "收到的文件超过大小限制，已拒绝")])
    else
      match buildUniqueDownloadPath outcome.download (CString.ofString "downloads")
        packet.senderName payload.filename 512 with
      | none => ({}, [.text (CString.ofString "创建下载路径失败")])
      | some path =>
        if outcome.opened = false then ({}, [.text (CString.ofString "保存接收文件失败")])
        else
          ({ active := true
             sender := copyFixed usernameMaxLen packet.senderName
             filename := copyFixed fileNameMaxLen payload.filename
             expectedSize := payload.filesize
             receivedSize := 0
             fp := some []
             path
             opened := fun _ => rfl },
            [.started payload.filename path payload.filesize])

/-- `handle_file_chunk` -/
def handleFileChunk (outcome : Outcome) (file : IncomingFile) (packet : Packet) :
    IncomingFile × List Line :=
  match file.active, file.fp with
  | true, some content =>
    if outcome.taken.any (· < packet.length) then
      ({}, [.text (CString.ofString "写入接收文件失败")])
    else
      ({ file with
         fp := some (content ++ packet.payload)
         receivedSize := file.receivedSize + UInt64.ofNat packet.length
         opened := fun _ => rfl }, [])
  | _, _ => (file, [])

/-- `handle_file_end` -/
def handleFileEnd (file : IncomingFile) : IncomingFile × List Line :=
  if file.active = false then (file, [])
  else if file.receivedSize = file.expectedSize then
    ({}, [.received file.path (file.fp.getD [])])
  else ({}, [.mismatch file.receivedSize file.expectedSize])

/-! ## Packets -/

/-- `message_type_name` -/
def messageTypeName (type : Int32) : CString :=
  CString.ofString (match MessageType.ofCode? type with
    | some .msgRegister => "REGISTER"
    | some .msgLogin => "LOGIN"
    | some .msgPrivate => "PRIVATE"
    | some .msgGroup => "GROUP"
    | some .msgOnlineList => "ONLINE_LIST"
    | some .msgFileBegin => "FILE_BEGIN"
    | some .msgFileChunk => "FILE_CHUNK"
    | some .msgFileEnd => "FILE_END"
    | some .msgLogout => "LOGOUT"
    | some .msgHeartbeat => "HEARTBEAT"
    | some .msgBroadcast => "BROADCAST"
    | some .msgOk => "OK"
    | some .msgError => "ERROR"
    | some .msgGroupCreate => "GROUP_CREATE"
    | some .msgGroupList => "GROUP_LIST"
    | some .msgGroupMessage => "GROUP_MESSAGE"
    | some .msgGroupEvent => "GROUP_EVENT"
    | none => "UNKNOWN")

/-- The `switch` of `recv_thread`. -/
def recvThread (outcome : Outcome) (file : IncomingFile) (packet : Packet) :
    IncomingFile × List Line :=
  match MessageType.ofCode? packet.type with
  | some .msgOk | some .msgError | some .msgOnlineList => (file, [.text packet.dataText])
  | some .msgPrivate => (file, [.privateText packet.senderName packet.dataText])
  | some .msgGroup => (file, [.groupText packet.senderName packet.dataText])
  | some .msgFileBegin => handleFileBegin outcome packet
  | some .msgFileChunk => handleFileChunk outcome file packet
  | some .msgFileEnd => handleFileEnd file
  | _ => (file, [.system (messageTypeName packet.type)])

/-- The loop of `recv_thread` over packets that arrive, each with what the environment answers. -/
def recvThreadLoop (file : IncomingFile) : List (Packet × Outcome) → IncomingFile × List Line
  | [] => (file, [])
  | (packet, outcome) :: packets =>
    let (file, printed) := recvThread outcome file packet
    let (file, later) := recvThreadLoop file packets
    (file, printed ++ later)

/-- `wait_for_auth_response` for a packet that was received: its result, and what is printed. -/
def waitForAuthResponse (packet : Packet) : Bool × Line :=
  (packet.type = MessageType.msgOk.code, .text packet.dataText)

end MultiUserChat.Client
