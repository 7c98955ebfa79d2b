import MultiUserChat.Client.Client
/-!
# String operations of the C client on a received packet

The arrays of the packet that `recv_thread` and `wait_for_auth_response` hand to C-string operations,
in order. The name in a file header is terminated in a copy of the data and read there.
-/

namespace MultiUserChat.Client.Scanning

/-- `wait_for_auth_response` prints the data. -/
def waitForAuthResponse (_ : Packet) : List Field := [.data]

/-- `handle_file_begin`: `build_unique_download_path` reads the sender once there is a directory, and
`snprintf` when the file is open. -/
def handleFileBegin (outcome : Outcome) (packet : Packet) : List Field :=
  let payload := FileBeginPayload.ofData packet.data.toList
  if packet.length ≠ fileNameMaxLen + 8 ∨
      payload.filesize > UInt64.ofNat fileTransferMaxBytes then []
  else if ensureDirectory (CString.ofString "downloads") outcome.download.directory = false then []
  else
    match buildUniqueDownloadPath outcome.download (CString.ofString "downloads") packet.senderName
      payload.filename 512 with
    | none => [.sender]
    | some _ => if outcome.opened = false then [.sender] else [.sender, .sender]

/-- The `switch` of `recv_thread`. -/
def recvThread (outcome : Outcome) (packet : Packet) : List Field :=
  match MessageType.ofCode? packet.type with
  | some .msgOk | some .msgError | some .msgOnlineList => [.data]
  | some .msgPrivate | some .msgGroup => [.sender, .data]
  | some .msgFileBegin => handleFileBegin outcome packet
  | _ => []

end MultiUserChat.Client.Scanning
