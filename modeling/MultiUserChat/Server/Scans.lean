import MultiUserChat.Library.Notes
import MultiUserChat.Server.Handler
/-!
# String operations on a received packet

The handlers of `server/server.c` once more, with a note for each array of the packet that is handed
to a C-string operation. The operations of one called function on one array all
start at its front, so they share a note, and one note stands before the operation on the stores that
makes them. `group_payload_parse` and `packet_text_data` use the packet's length and make none.
-/

namespace MultiUserChat

/-- Code of a handler with notes. -/
abbrev ScanningHandler (α : Type) : Type :=
  Program (Noted Field Operation) (NotedAnswer Field Answer) Procedure α

/-- A string operation on an array of the packet. -/
abbrev scan (field : Field) : ScanningHandler Unit := Program.note field

namespace Scanning

open Handler

/-- `handle_register`: `valid_username` reads the sender, and `valid_password` the data when the
sender is a valid name. -/
def handleRegister (fd : Int) (packet : Packet) : ScanningHandler Unit := do
  scan .sender
  if validUsername packet.senderName = true then scan .data
  (MultiUserChat.handleRegister fd packet).unnoted

/-- `handle_login` -/
def handleLogin (fd : Int) (packet : Packet) : ScanningHandler Unit := do
  scan .sender
  if validUsername packet.senderName = true then scan .data
  (MultiUserChat.handleLogin fd packet).unnoted

/-- `handle_private` -/
def handlePrivate (fd : Int) (packet : Packet) : ScanningHandler Unit := do
  scan .receiver
  (MultiUserChat.handlePrivate fd packet).unnoted

/-- `handle_group_message` for the user logged in on the descriptor: `group_store_get_snapshot` reads
the receiver and `group_payload_build_message` the data. -/
def sendGroupMessageFor (fd : Int) (packet : Packet) (username : CString) : ScanningHandler Unit :=
  match packetTextData packet with
  | none => (sendTextResponse fd .msgError (CString.ofString "群聊消息数据不合法")).unnoted
  | some text =>
    if packet.receiverName.length = 0 ∨ text.length = 0 then
      (sendTextResponse fd .msgError (CString.ofString "群聊消息数据不合法")).unnoted
    else do
      scan .receiver
      match ← (groupGetSnapshot packet.receiverName).unnoted with
      | .error result => (sendTextResponse fd .msgError (groupResultMessage result)).unnoted
      | .ok snapshot =>
        if !groupSnapshotHasMember snapshot username then
          (sendTextResponse fd .msgError (groupResultMessage .errNotMember)).unnoted
        else do
          scan .data
          match groupPayloadBuildMessage snapshot text with
          | (.ok, payload) =>
            (sendToMembers .msgGroupMessage username snapshot.id.toCString payload
              snapshot.memberNames).unnoted
            (sendTextResponse fd .msgOk (CString.ofString "群聊消息已发送")).unnoted
          | (result, _) => (sendTextResponse fd .msgError (groupResultMessage result)).unnoted

/-- `handle_group_message` -/
def handleGroupMessage (fd : Int) (packet : Packet) : ScanningHandler Unit := do
  match ← (userUsernameByFd fd).unnoted with
  | none => (sendTextResponse fd .msgError (CString.ofString "请先登录")).unnoted
  | some username => sendGroupMessageFor fd packet username

/-- `handle_file_packet` -/
def handleFilePacket (fd : Int) (packet : Packet) : ScanningHandler Unit := do
  scan .receiver
  (MultiUserChat.handleFilePacket fd packet).unnoted

/-- `process_packet` -/
def processPacket (fd : Int) (packet : Packet) : ScanningHandler Unit :=
  match MessageType.ofCode? packet.type with
  | some .msgRegister => handleRegister fd packet
  | some .msgLogin => handleLogin fd packet
  | some .msgPrivate => handlePrivate fd packet
  | some .msgGroupMessage => handleGroupMessage fd packet
  | some .msgFileBegin => handleFilePacket fd packet
  | some .msgFileChunk => handleFilePacket fd packet
  | some .msgFileEnd => handleFilePacket fd packet
  -- The other handlers make no string operation on the packet.
  | _ => (MultiUserChat.processPacket fd packet).unnoted

end Scanning

end MultiUserChat
