import MultiUserChat.Web.Protocol
/-!
# A session of the gateway

`ClientSession` of `web/server.js`: what it keeps, the sockets it has created, and what it does with
the bytes of the chat server. A method takes the session and returns it; where an error is thrown and
not caught, there is no session to return. The UDP listener shares no state with the rest and is left
out. What `sendJson` hands to the browser is collected in `notices`, oldest first.
-/

namespace MultiUserChat.Web

/-- The host and port of a chat server, `tcpConfig`. -/
structure Config where
  /-- Host name or address. -/
  host : Text
  /-- Port number. -/
  port : Nat
deriving DecidableEq

/-- A socket that the session has created. -/
structure Socket where
  /-- `logicalConfig` -/
  config : Config := ⟨[], 0⟩
  /-- `settled`: its promise is resolved or rejected. -/
  settled : Bool := false
  /-- Its `connect` event has come. -/
  connected : Bool := false
  /-- `destroyed`, by the session or because the connection ended or failed. -/
  destroyed : Bool := false
  /-- Its `close` event has come. -/
  closed : Bool := false
  /-- What the session has written to it, oldest first. -/
  written : List (List UInt8) := []

/-- The `action` of an entry of kind `auth`. -/
inductive AuthAction
  | register | login
deriving DecidableEq

/-- The `action` of an entry of kind `status`. -/
inductive StatusAction
  | sendPrivate | sendGroup | createGroup | sendGroupMessage | sendFile | logout
deriving DecidableEq

/-- The action as the browser is told of it. -/
def StatusAction.name : StatusAction → String
  | sendPrivate => "send_private"
  | sendGroup => "send_group"
  | createGroup => "create_group"
  | sendGroupMessage => "send_group_message"
  | sendFile => "send_file"
  | logout => "logout"

/-- An entry of `pendingResponses`. -/
inductive Pending
  /-- Kind `auth`. -/
  | auth (action : AuthAction) (username : Text)
  /-- Kind `status`. -/
  | status (action : StatusAction)
deriving DecidableEq

/-- `incomingFile` -/
structure IncomingFile where
  /-- Name of the sender. -/
  sender : Text
  /-- Name of the file. -/
  filename : Text
  /-- Size announced. -/
  expectedSize : Nat
  /-- Number of bytes received. -/
  receivedSize : Nat
  /-- The chunks received, oldest first. -/
  chunks : List (List UInt8)

/-- A message to the browser. -/
inductive Notice
  | status (status : String) (ok : Option Bool) (reason : Option String) (message : Text)
  | error (status : Option String) (ok : Option Bool) (message : Text)
  | authResult (action : AuthAction) (ok : Bool) (message username : Text)
  | onlineList (users : List Text)
  | chatMessage (mode : String) (sender receiver text : Text)
  | groupChatMessage (groupId groupName sender text : Text)
  | groupList (groups : List Group)
  | groupEvent (event : Text) (group : Group)
  | fileProgress (sender filename : Text) (receivedSize expectedSize : Nat)
  | fileReceived (sender filename : Text) (data : List UInt8)
deriving DecidableEq

/-- `ClientSession` -/
structure ClientSession where
  /-- `tcpSocket`, by its number. -/
  tcpSocket : Option Nat := none
  /-- `tcpConfig` -/
  tcpConfig : Option Config := none
  /-- `tcpDecoder` -/
  tcpDecoder : PacketDecoder := {}
  /-- `username` -/
  username : Text := []
  /-- `loggedIn` -/
  loggedIn : Bool := false
  /-- `pendingResponses` -/
  pendingResponses : List Pending := []
  /-- `incomingFile` -/
  incomingFile : Option IncomingFile := none
  /-- `closing` -/
  closing : Bool := false
  /-- `groupsById`, with its keys. -/
  groupsById : List (Text × Group) := []
  /-- Number of sockets that have been created. -/
  created : Nat := 0
  /-- The sockets, numbered in the order of their creation. -/
  sockets : Nat → Socket := fun _ => {}
  /-- What has been handed to the browser. -/
  notices : List Notice := []

namespace ClientSession

/-- `send` -/
def send (session : ClientSession) (notice : Notice) : ClientSession :=
  { session with notices := session.notices ++ [notice] }

/-- Change one socket. -/
def updateSocket (session : ClientSession) (socket : Nat) (change : Socket → Socket) :
    ClientSession :=
  { session with sockets := Function.update session.sockets socket (change (session.sockets socket)) }

/-- `this.tcpSocket && !this.tcpSocket.destroyed`, with the socket. -/
def openSocket (session : ClientSession) : Option Nat :=
  session.tcpSocket.filter fun socket => !(session.sockets socket).destroyed

/-- `socket.write` -/
def write (session : ClientSession) (socket : Nat) (packet : List UInt8) : ClientSession :=
  session.updateSocket socket fun record => { record with written := record.written ++ [packet] }

/-- `socket.destroy` -/
def destroy (session : ClientSession) (socket : Nat) : ClientSession :=
  session.updateSocket socket fun record => { record with destroyed := true }

/-- `closeTcp` -/
def closeTcp (session : ClientSession) (sendLogout : Bool) : ClientSession :=
  let session :=
    match session.openSocket with
    | none => session
    | some socket =>
      let session :=
        if sendLogout && session.loggedIn then
          match encodePacket MessageType.msgLogout.code session.username [] [] with
          | .ok packet => session.write socket packet
          | .error _ => session
        else session
      session.destroy socket
  { session with tcpSocket := none, tcpConfig := none }

/-- `sendPacket` -/
def sendPacket (session : ClientSession) (packet : List UInt8) : Except Text ClientSession :=
  match session.openSocket with
  | none => .error (literal "尚未连接聊天服务")
  | some socket => .ok (session.write socket packet)

/-- `groupsById.set` -/
def setGroup (session : ClientSession) (group : Group) : ClientSession :=
  { session with
    groupsById :=
      if session.groupsById.any fun entry => entry.1 = group.id then
        session.groupsById.map fun entry => if entry.1 = group.id then (group.id, group) else entry
      else session.groupsById ++ [(group.id, group)] }

/-- `groupsById.get` -/
def getGroup (session : ClientSession) (groupId : Text) : Option Group :=
  (session.groupsById.find? fun entry => entry.1 = groupId).map Prod.snd

/-! ## Replies -/

/-- `handleCommandResponse` -/
def handleCommandResponse (session : ClientSession) (packet : ReceivedPacket) : ClientSession :=
  let pending := session.pendingResponses.head?
  let session := { session with pendingResponses := session.pendingResponses.tail }
  let ok := packet.type = MessageType.msgOk.code
  let message := packetText packet
  match pending with
  | some (.auth action username) =>
    let session :=
      if ok ∧ action = .login then { session with groupsById := [], loggedIn := true, username }
      else session
    session.send (.authResult action ok message username)
  | some (.status .logout) =>
    let session := { session with loggedIn := false, username := [], groupsById := [] }
    (session.send (.status "logged_out" (some ok) none message)).closeTcp false
  | some (.status action) =>
    session.send
      (if ok then .status action.name (some ok) none message
        else .error (some action.name) (some ok) message)
  | none =>
    session.send
      (if ok then .status "server_response" (some ok) none message
        else .error (some "server_response") (some ok) message)

/-! ## Files -/

/-- `handleIncomingFileBegin` -/
def handleIncomingFileBegin (session : ClientSession) (packet : ReceivedPacket) : ClientSession :=
  match decodeFileBeginPayload packet.data with
  | .error message => session.send (.error none none (literal "收到非法文件头：" ++ message))
  | .ok (filename, filesize) =>
    if filesize > fileTransferMaxBytes then
      session.send (.error none none (literal "收到的文件超过 10 MiB 限制，已拒绝"))
    else
      let session :=
        { session with
          incomingFile := some
            { sender := packet.sender, filename, expectedSize := filesize, receivedSize := 0,
              chunks := [] } }
      session.send (.fileProgress packet.sender filename 0 filesize)

/-- `handleIncomingFileChunk` -/
def handleIncomingFileChunk (session : ClientSession) (packet : ReceivedPacket) : ClientSession :=
  match session.incomingFile with
  | none => session
  | some file =>
    let file :=
      { file with
        chunks := file.chunks ++ [packet.data]
        receivedSize := file.receivedSize + packet.data.length }
    { session with incomingFile := some file }.send
      (.fileProgress file.sender file.filename file.receivedSize file.expectedSize)

/-- `handleIncomingFileEnd` -/
def handleIncomingFileEnd (session : ClientSession) : ClientSession :=
  match session.incomingFile with
  | none => session
  | some file =>
    let session := { session with incomingFile := none }
    let data := file.chunks.flatten
    if data.length ≠ file.expectedSize then
      session.send (.error none none
        (literal ("文件接收大小不匹配：已收 " ++ toString data.length ++ " / 期望 " ++
          toString file.expectedSize)))
    else session.send (.fileReceived file.sender file.filename data)

/-! ## Packets -/

/-- `handlePacket` -/
def handlePacket (session : ClientSession) (packet : ReceivedPacket) : Option ClientSession :=
  match MessageType.ofCode? packet.type with
  | some .msgOk | some .msgError => some (session.handleCommandResponse packet)
  | some .msgOnlineList =>
    some (session.send (.onlineList
      (if packet.text = literal "当前没有在线用户" then []
        else (packet.text.splitOn 10).filter (· ≠ []))))
  | some .msgPrivate =>
    some (session.send (.chatMessage "private" packet.sender packet.receiver packet.text))
  | some .msgGroup =>
    some (session.send (.chatMessage "group" packet.sender packet.receiver packet.text))
  | some .msgGroupList => do
    let groups ← decodeGroupListPayload packet.data
    let session := groups.foldl setGroup { session with groupsById := [] }
    return session.send (.groupList groups)
  | some .msgGroupEvent => do
    let (event, group) ← decodeGroupEventPayload packet.data
    return (session.setGroup group).send (.groupEvent event group)
  | some .msgGroupMessage => do
    let (groupId, groupName, text) ← decodeGroupMessagePayload packet.data
    let known := session.getGroup groupId
    let group :=
      { id := groupId, name := groupName, creator := known.bind Group.creator,
        members := known.bind Group.members }
    return (session.setGroup group).send (.groupChatMessage groupId groupName packet.sender text)
  | some .msgFileBegin => some (session.handleIncomingFileBegin packet)
  | some .msgFileChunk => some (session.handleIncomingFileChunk packet)
  | some .msgFileEnd => some session.handleIncomingFileEnd
  | _ =>
    some (session.send (.status "packet_received" none none
      (literal ("收到消息类型 " ++ toString packet.type.toInt))))

/-- The loop of `handleTcpData`: the packets passed to `handlePacket`, and the session unless an error
escapes. -/
def handlePackets (session : ClientSession) :
    List ReceivedPacket → List ReceivedPacket × Option ClientSession
  | [] => ([], some session)
  | packet :: packets =>
    match session.handlePacket packet with
    | none => ([packet], none)
    | some session =>
      let (passed, session) := handlePackets session packets
      (packet :: passed, session)

/-- `handleTcpData` -/
def handleTcpData (session : ClientSession) (chunk : List UInt8) :
    List ReceivedPacket × Option ClientSession :=
  match session.tcpDecoder.push chunk with
  | (none, decoder) =>
    let message :=
      "协议解析失败：packet data length exceeds " ++ toString packetDataMax ++ " bytes"
    ([], some (({ session with tcpDecoder := decoder }.send
      (.error none none (literal message))).closeTcp false))
  | (some packets, decoder) => { session with tcpDecoder := decoder }.handlePackets packets

/-- Chunks that arrive one after the other; an error that escapes ends the process. -/
def handleChunks (session : ClientSession) :
    List (List UInt8) → List ReceivedPacket × Option ClientSession
  | [] => ([], some session)
  | chunk :: chunks =>
    match session.handleTcpData chunk with
    | (passed, none) => (passed, none)
    | (passed, some session) =>
      let (later, session) := handleChunks session chunks
      (passed ++ later, session)

end ClientSession

end MultiUserChat.Web
