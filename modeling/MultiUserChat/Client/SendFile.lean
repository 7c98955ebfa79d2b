import MultiUserChat.Client.Client
/-!
# The C client's sending side

`send_file` of `client/client.c` after its prompts. What the file system and `send_packet` answer is
an argument; the result is the packets that were sent and the line that is printed.
-/

namespace MultiUserChat.Client

/-- What the environment answers to `send_file`. -/
structure SendOutcome where
  /-- `st_size`, when `stat` finds a regular file. -/
  size : Option UInt64
  /-- `fopen` succeeds. -/
  opened : Bool
  /-- What the open file holds. -/
  content : List UInt8
  /-- How many bytes a call of `fread` stores at most when it ends with an error. -/
  failed : Nat → Option Nat
  /-- `send_packet` succeeds for the packet of a number. -/
  sent : Nat → Bool

/-- The bytes of a `FileBeginPayload`; the size is in host order, least byte first. -/
def FileBeginPayload.bytes (filename : CString) (filesize : UInt64) : List UInt8 :=
  (copyFixed fileNameMaxLen filename).array ++
    (bigEndian (filesize.toNat / 2 ^ 32) ++ bigEndian filesize.toNat).reverse

/-- `packet_init` and `send_packet`, for the packet of a number. -/
def sendNumbered (outcome : SendOutcome) (number : Nat) (type : MessageType)
    (username receiver : CString) (data : List UInt8) : Option Packet :=
  (packetInit type.code username receiver data).filter fun _ => outcome.sent number

/-- The loop of `send_file` from a turn on, over what is left of the file: the chunks that were sent,
and the line that is printed when it fails. Every turn that goes on has read a whole buffer. -/
def sendChunks (outcome : SendOutcome) (username receiver : CString) :
    Nat → Nat → List UInt8 → List Packet × Option CString
  | 0, _, _ => ([], none)
  | turns + 1, turn, rest =>
    let buf := rest.take (min packetDataMax ((outcome.failed turn).getD packetDataMax))
    -- `send_file_chunk`, when there is something to send; the header has the number zero.
    let chunk := sendNumbered outcome (turn + 1) .msgFileChunk username receiver buf
    if buf.length > 0 ∧ chunk = none then ([], some (CString.ofString "文件分块发送失败"))
    else
      let sent := if buf.length > 0 then chunk.toList else []
      if (outcome.failed turn).isSome then (sent, some (CString.ofString "读取文件失败"))
      else if buf.length < packetDataMax then (sent, none)
      else
        let (later, failure) :=
          sendChunks outcome username receiver turns (turn + 1) (rest.drop packetDataMax)
        (sent ++ later, failure)

/-- `send_file` -/
def sendFile (outcome : SendOutcome) (username receiver : FixedString usernameMaxLen)
    (path : FixedString 512) : List Packet × CString :=
  match outcome.size with
  | none => ([], CString.ofString "文件不存在")
  | some size =>
    if size > UInt64.ofNat fileTransferMaxBytes then ([], CString.ofString "文件超过 10 MiB 限制")
    else if outcome.opened = false then ([], CString.ofString "打开文件失败")
    else
      let payload := FileBeginPayload.bytes (baseFilename path.toCString) size
      match sendNumbered outcome 0 .msgFileBegin username.toCString receiver.toCString payload with
      | none => ([], CString.ofString "文件头发送失败")
      | some header =>
        match sendChunks outcome username.toCString receiver.toCString
          (outcome.content.length / packetDataMax + 1) 0 outcome.content with
        | (chunks, some failure) => (header :: chunks, failure)
        | (chunks, none) =>
          match sendNumbered outcome (chunks.length + 1) .msgFileEnd username.toCString
            receiver.toCString [] with
          | none => (header :: chunks, CString.ofString "文件结束包发送失败")
          | some last => (header :: (chunks ++ [last]), CString.ofString "文件发送请求已提交")

end MultiUserChat.Client
