import MultiUserChat.Web.Session
/-!
# The gateway's browser actions and socket events

The rest of `ClientSession` of `web/server.js`: what the browser asks for, `ensureTcp` and
`connectTcp`, and the callbacks of the sockets. A call that waits for a connection is kept with the
stage it is in; its continuation is a step of its own, so that anything may come between. A field of a
browser message is taken as the handler converts it, by `String(value || '')` or `Number(value)`, and
the host and port of a connection with their defaults filled in.

An error that escapes from a socket's callback ends the process, so there is no state after it.
-/

namespace MultiUserChat.Web

/-! ## Validation -/

/-- `byteLength` -/
def byteLength (value : Text) : Nat := (Utf8.encode value).length

/-- `isLocalhost` -/
def isLocalhost (host : Text) : Bool :=
  host ∈ [literal "127.0.0.1", literal "localhost", literal "::1"]

/-- `validateAuth` -/
def validateAuth (username password : Text) : Option Text :=
  if username = [] ∨ byteLength username ≥ usernameMaxLen ∨ 0x3a ∈ username ∨ 0xa ∈ username then
    some (literal "用户名不能为空，长度需小于 32 字节，且不能包含冒号或换行")
  else if password = [] ∨ byteLength password ≥ passwordMaxLen ∨ 0xa ∈ password then
    some (literal "密码不能为空，长度需小于 64 字节，且不能包含换行")
  else none

/-- `validatePeerName` -/
def validatePeerName (receiver : Text) : Option Text :=
  if receiver = [] ∨ byteLength receiver ≥ usernameMaxLen ∨ 0x3a ∈ receiver ∨ 0xa ∈ receiver then
    some (literal "接收者不能为空，长度需小于 32 字节，且不能包含冒号或换行")
  else none

/-- `validateText` -/
def validateText (text : Text) : Option Text :=
  if text = [] ∨ byteLength text + 1 > packetDataMax then
    some (literal ("消息不能为空，且不能超过 " ++ toString (packetDataMax - 1) ++ " 字节"))
  else none

/-- `validateGroupName` -/
def validateGroupName (name : Text) : Option Text :=
  if name = [] ∨ byteLength name ≥ 64 ∨ 0 ∈ name ∨ 0xa ∈ name then
    some (literal "群名不能为空，长度需小于 64 字节，且不能包含换行")
  else none

namespace ClientSession

/-! ## Requests -/

/-- Tell the browser of an error. -/
def sendError (session : ClientSession) (message : Text) : ClientSession :=
  session.send (.error none none message)

/-- `pendingResponses.push` -/
def expect (session : ClientSession) (pending : Pending) : ClientSession :=
  { session with pendingResponses := session.pendingResponses ++ [pending] }

/-- `sendPacket` of an encoded packet; encoding it may have thrown an error. -/
def post (session : ClientSession) (packet : Except Text (List UInt8)) : Except Text ClientSession :=
  packet.bind session.sendPacket

/-- The `catch` clause of `handleMessage`. -/
def caught (session : ClientSession) (result : Except Text ClientSession) : ClientSession :=
  match result with
  | .ok session => session
  | .error message => session.sendError message

/-- `requireLogin`, and what is done when it returns true. -/
def requireLogin (session : ClientSession) (body : ClientSession → ClientSession) : ClientSession :=
  if !session.loggedIn ∨ session.username = [] then session.sendError (literal "请先登录")
  else body session

/-- `handleOnlineList` -/
def handleOnlineList (session : ClientSession) : ClientSession :=
  session.requireLogin fun session =>
    session.caught (session.post
      (encodePacket MessageType.msgOnlineList.code session.username [] []))

/-- `handlePrivate` -/
def handlePrivate (session : ClientSession) (receiver text : Text) : ClientSession :=
  session.requireLogin fun session =>
    let receiver := trim receiver
    match (validatePeerName receiver).or (validateText text) with
    | some error => session.sendError error
    | none =>
      let session := session.expect (.status .sendPrivate)
      session.caught (session.post
        (encodeTextPacket MessageType.msgPrivate.code session.username receiver text))

/-- `handleGroup` -/
def handleGroup (session : ClientSession) (text : Text) : ClientSession :=
  session.requireLogin fun session =>
    match validateText text with
    | some error => session.sendError error
    | none =>
      let session := session.expect (.status .sendGroup)
      session.caught (session.post
        (encodeTextPacket MessageType.msgGroup.code session.username [] text))

/-- `handleGroupList` -/
def handleGroupList (session : ClientSession) : ClientSession :=
  session.requireLogin fun session =>
    session.caught (session.post
      (encodePacket MessageType.msgGroupList.code session.username [] []))

/-- `handleCreateGroup` -/
def handleCreateGroup (session : ClientSession) (name : Text) (members : List Text) :
    ClientSession :=
  session.requireLogin fun session =>
    let name := trim name
    let members := ((members.map trim).filter (· ≠ [])).filter (· ≠ session.username)
    match validateGroupName name with
    | some error => session.sendError error
    | none =>
      match members.find? fun member => (validatePeerName member).isSome with
      | some member =>
        session.sendError (literal "群成员 " ++ member ++ literal " 不合法：" ++
          (validatePeerName member).getD [])
      | none =>
        match encodeGroupCreatePayload name members with
        | .error message => session.sendError message
        | .ok payload =>
          let session := session.expect (.status .createGroup)
          session.caught (session.post
            (encodePacket MessageType.msgGroupCreate.code session.username [] payload))

/-- `handleGroupMessage` -/
def handleGroupMessage (session : ClientSession) (groupId text : Text) : ClientSession :=
  session.requireLogin fun session =>
    let groupId := trim groupId
    if groupId = [] then session.sendError (literal "请选择群聊后再发送消息")
    else
      match validateText text with
      | some error => session.sendError error
      | none =>
        let session := session.expect (.status .sendGroupMessage)
        let packet := do
          let data ← encodeGroupMessagePayload groupId text
          encodePacket MessageType.msgGroupMessage.code session.username groupId data
        match session.post packet with
        | .ok session => session
        | .error message =>
          let session :=
            { session with
              pendingResponses :=
                session.pendingResponses.filter (· ≠ Pending.status .sendGroupMessage) }
          session.sendError message

/-- `handleSendFileBegin`; the file name is what `path.basename` returns. -/
def handleSendFileBegin (session : ClientSession) (receiver filename : Text) (filesize : Number) :
    ClientSession :=
  session.requireLogin fun session =>
    let receiver := trim receiver
    match validatePeerName receiver with
    | some error => session.sendError error
    | none =>
      if filename = [] ∨ byteLength filename ≥ fileNameMaxLen ∨ 0xa ∈ filename then
        session.sendError (literal "文件名不能为空，长度需小于 256 字节，且不能包含换行")
      else
        match filesize.natural.filter (· ≤ fileTransferMaxBytes) with
        | none => session.sendError (literal "文件大小必须在 10 MiB 以内")
        | some filesize =>
          session.caught (session.post do
            let data ← encodeFileBeginPayload filename filesize
            encodePacket MessageType.msgFileBegin.code session.username receiver data)

/-- `handleSendFileChunk`; the data are what the base64 text denotes. -/
def handleSendFileChunk (session : ClientSession) (receiver : Text) (data : List UInt8) :
    ClientSession :=
  session.requireLogin fun session =>
    let receiver := trim receiver
    match validatePeerName receiver with
    | some error => session.sendError error
    | none =>
      if data.length = 0 ∨ data.length > packetDataMax then
        session.sendError
          (literal ("文件分块必须为 1 到 " ++ toString packetDataMax ++ " 字节"))
      else
        session.caught (session.post
          (encodePacket MessageType.msgFileChunk.code session.username receiver data))

/-- `handleSendFileEnd` -/
def handleSendFileEnd (session : ClientSession) (receiver : Text) : ClientSession :=
  session.requireLogin fun session =>
    let receiver := trim receiver
    match validatePeerName receiver with
    | some error => session.sendError error
    | none =>
      let session := session.expect (.status .sendFile)
      session.caught (session.post
        (encodePacket MessageType.msgFileEnd.code session.username receiver []))

/-- The action `logout`. -/
def logout (session : ClientSession) : ClientSession :=
  if session.loggedIn ∧ session.openSocket.isSome then
    let session := session.expect (.status .logout)
    session.caught (session.post (encodePacket MessageType.msgLogout.code session.username [] []))
  else
    let session := { session with loggedIn := false, username := [], groupsById := [] }
    (session.closeTcp false).send (.status "logged_out" (some true) none (literal "已退出登录"))

/-- The action `disconnect_tcp`. -/
def disconnectTcp (session : ClientSession) : ClientSession :=
  (session.closeTcp true).send (.status "tcp_closed" none none (literal "TCP 连接已关闭"))

/-- `cleanup` -/
def cleanup (session : ClientSession) : ClientSession :=
  { session with closing := true }.closeTcp true

/-! ## Connections -/

/-- `net.createConnection`: the session with a new socket, and its number. -/
def createConnection (session : ClientSession) (config : Config) : ClientSession × Nat :=
  ({ session with
      created := session.created + 1
      sockets := Function.update session.sockets session.created { config } }, session.created)

/-- The callback of `connect`. -/
def onConnect (session : ClientSession) (socket : Nat) : ClientSession :=
  let session := session.updateSocket socket fun record =>
    { record with settled := true, connected := true }
  let config := (session.sockets socket).config
  let session :=
    { session with tcpSocket := some socket, tcpConfig := some config, tcpDecoder := {} }
  session.send (.status "tcp_connected" none none
    (literal "已连接聊天服务 " ++ config.host ++ literal (":" ++ toString config.port)))

/-- The callback of `error`, when the promise of the socket is settled. -/
def onError (session : ClientSession) (socket : Nat) (message : Text) : ClientSession :=
  if session.tcpSocket ≠ some socket then session
  else session.sendError (literal "TCP 连接异常：" ++ message)

/-- The callback of `close`. -/
def onClose (session : ClientSession) (socket : Nat) : ClientSession :=
  if session.tcpSocket ≠ some socket then session
  else
    let pendingAuth := session.pendingResponses.findSome? fun
      | .auth action username => some (action, username)
      | .status _ => none
    let wasLoggedIn := session.loggedIn ∧ session.username ≠ []
    let session := { session with tcpSocket := none, tcpConfig := none, pendingResponses := [] }
    if session.closing then session
    else
      let session := { session with loggedIn := false, username := [], groupsById := [] }
      match pendingAuth with
      | some (action, username) =>
        session.send (.authResult action false
          (literal "TCP 连接已关闭，请检查聊天服务后重试") username)
      | none =>
        if wasLoggedIn then
          session.send (.status "logged_out" (some false) (some "tcp_closed")
            (literal "TCP 连接已关闭，请重新登录"))
        else session.send (.status "tcp_closed" none none (literal "TCP 连接已关闭"))

end ClientSession

/-! ## Calls that wait -/

/-- What a call of `handleMessage` waits for a connection for. -/
inductive Purpose
  /-- `connect_tcp` -/
  | connect
  /-- `handleRegisterOrLogin` -/
  | auth (action : AuthAction) (username password : Text)

/-- How far `ensureTcp` has come in a call. -/
inductive Stage
  /-- It waits for a socket; this is the second attempt, or not. -/
  | connecting (socket : Nat) (retried : Bool)
  /-- The first attempt failed. -/
  | refused (message : Text)
  /-- It has returned. -/
  | returned
  /-- It has thrown an error. -/
  | threw (message : Text)

/-- A call that waits. -/
structure Call where
  /-- What it is for. -/
  purpose : Purpose
  /-- `nextConfig` -/
  config : Config
  /-- How far it has come. -/
  stage : Stage

/-- The call after its socket has connected. -/
def Call.connected (call : Call) (socket : Nat) : Call :=
  match call.stage with
  | .connecting own _ => if own = socket then { call with stage := .returned } else call
  | _ => call

/-- The call after its socket has failed to connect. -/
def Call.failed (call : Call) (socket : Nat) (message : Text) : Call :=
  match call.stage with
  | .connecting own retried =>
    if own = socket then
      { call with stage := if retried then .threw message else .refused message }
    else call
  | _ => call

/-- A session and its calls that wait. -/
structure Gateway where
  /-- The session. -/
  session : ClientSession := {}
  /-- The calls. -/
  calls : List Call := []

/-- What the browser asks for. -/
inductive Action
  | connectTcp (config : Config)
  | disconnectTcp
  | auth (action : AuthAction) (username password : Text) (config : Config)
  | logout
  | onlineList
  | sendPrivate (receiver text : Text)
  | sendGroup (text : Text)
  | groupList
  | createGroup (name : Text) (members : List Text)
  | sendGroupMessage (groupId text : Text)
  | sendFileBegin (receiver filename : Text) (filesize : Number)
  | sendFileChunk (receiver : Text) (data : List UInt8)
  | sendFileEnd (receiver : Text)

/-- What can happen to a session. -/
inductive Happening
  /-- The browser sends a message. -/
  | browser (action : Action)
  /-- The browser's connection closes. -/
  | leave
  /-- A socket's `connect` event. -/
  | connect (socket : Nat)
  /-- A socket's connection is refused, fails or ends; its events follow. -/
  | lost (socket : Nat)
  /-- A socket's `error` event. -/
  | error (socket : Nat) (message : Text)
  /-- A socket's `close` event. -/
  | close (socket : Nat)
  /-- A socket's `data` event. -/
  | data (socket : Nat) (chunk : List UInt8)
  /-- A call goes on; `detectWslHost` finds the host, if it is called. -/
  | resume (call : Nat) (wslHost : Text)

namespace Gateway

/-- `ensureTcp` up to where it waits. -/
def ensureTcp (gateway : Gateway) (purpose : Purpose) (nextConfig : Config) : Gateway :=
  if gateway.session.openSocket.isSome ∧ gateway.session.tcpConfig = some nextConfig then
    { gateway with calls := gateway.calls ++ [⟨purpose, nextConfig, .returned⟩] }
  else
    let (session, socket) := (gateway.session.closeTcp false).createConnection nextConfig
    { session, calls := gateway.calls ++ [⟨purpose, nextConfig, .connecting socket false⟩] }

/-- `handleRegisterOrLogin` up to where it waits. -/
def handleRegisterOrLogin (gateway : Gateway) (action : AuthAction) (username password : Text)
    (config : Config) : Gateway :=
  let username := trim username
  match validateAuth username password with
  | some validationError =>
    { gateway with
      session := gateway.session.send (.authResult action false validationError username) }
  | none => gateway.ensureTcp (.auth action username password) config

/-- `handleMessage` up to where it waits. -/
def handleMessage (gateway : Gateway) : Action → Gateway
  | .connectTcp config => gateway.ensureTcp .connect config
  | .disconnectTcp => { gateway with session := gateway.session.disconnectTcp }
  | .auth action username password config =>
    gateway.handleRegisterOrLogin action username password config
  | .logout => { gateway with session := gateway.session.logout }
  | .onlineList => { gateway with session := gateway.session.handleOnlineList }
  | .sendPrivate receiver text =>
    { gateway with session := gateway.session.handlePrivate receiver text }
  | .sendGroup text => { gateway with session := gateway.session.handleGroup text }
  | .groupList => { gateway with session := gateway.session.handleGroupList }
  | .createGroup name members =>
    { gateway with session := gateway.session.handleCreateGroup name members }
  | .sendGroupMessage groupId text =>
    { gateway with session := gateway.session.handleGroupMessage groupId text }
  | .sendFileBegin receiver filename filesize =>
    { gateway with session := gateway.session.handleSendFileBegin receiver filename filesize }
  | .sendFileChunk receiver data =>
    { gateway with session := gateway.session.handleSendFileChunk receiver data }
  | .sendFileEnd receiver => { gateway with session := gateway.session.handleSendFileEnd receiver }

/-- The rest of `handleRegisterOrLogin` after `ensureTcp` has thrown an error, or the `catch` clause
of `handleMessage`. -/
def threw (session : ClientSession) (purpose : Purpose) (message : Text) : ClientSession :=
  match purpose with
  | .connect => session.sendError message
  | .auth action username _ =>
    session.send (.authResult action false (literal "连接聊天服务失败：" ++ message) username)

/-- The rest of a call after `ensureTcp` has returned. -/
def returned (session : ClientSession) (purpose : Purpose) : ClientSession :=
  match purpose with
  | .connect => session
  | .auth action username password =>
    let session := session.expect (.auth action username)
    let type :=
      match action with
      | .register => MessageType.msgRegister
      | .login => MessageType.msgLogin
    match session.post (encodeTextPacket type.code username [] password) with
    | .ok session => session
    | .error message => threw session purpose message

/-- A call goes on. -/
def resume (gateway : Gateway) (number : Nat) (wslHost : Text) : Option Gateway :=
  match gateway.calls[number]? with
  | none => none
  | some call =>
    match call.stage with
    | .connecting _ _ => none
    | .returned =>
      some ⟨returned gateway.session call.purpose, gateway.calls.eraseIdx number⟩
    | .threw message =>
      some ⟨threw gateway.session call.purpose message, gateway.calls.eraseIdx number⟩
    | .refused message =>
      let wslHost := if isLocalhost call.config.host then wslHost else []
      if wslHost = [] ∨ wslHost = call.config.host then
        let calls := gateway.calls.set number { call with stage := .threw message }
        some { gateway with calls }
      else
        let (session, socket) := gateway.session.createConnection call.config
        let calls := gateway.calls.set number { call with stage := .connecting socket true }
        some { session, calls }

/-- One step, when it is possible. -/
def step (gateway : Gateway) : Happening → Option Gateway
  | .browser action =>
    if gateway.session.closing then none else some (gateway.handleMessage action)
  | .leave =>
    if gateway.session.closing then none
    else some { gateway with session := gateway.session.cleanup }
  | .connect socket =>
    let record := gateway.session.sockets socket
    if socket < gateway.session.created ∧ !record.settled ∧ !record.destroyed then
      some ⟨gateway.session.onConnect socket, gateway.calls.map (·.connected socket)⟩
    else none
  | .lost socket =>
    if socket < gateway.session.created then
      some { gateway with session := gateway.session.destroy socket }
    else none
  | .error socket message =>
    let record := gateway.session.sockets socket
    if socket < gateway.session.created ∧ record.destroyed ∧ !record.closed then
      if !record.settled then
        let session := gateway.session.updateSocket socket fun record =>
          { record with settled := true }
        some ⟨session, gateway.calls.map (·.failed socket message)⟩
      else some { gateway with session := gateway.session.onError socket message }
    else none
  | .close socket =>
    let record := gateway.session.sockets socket
    if socket < gateway.session.created ∧ record.destroyed ∧ !record.closed then
      let session := gateway.session.updateSocket socket fun record => { record with closed := true }
      some { gateway with session := session.onClose socket }
    else none
  | .data socket chunk =>
    let record := gateway.session.sockets socket
    if record.connected ∧ !record.destroyed then
      (gateway.session.handleTcpData chunk).2.map fun session => { gateway with session }
    else none
  | .resume call wslHost => gateway.resume call wslHost

end Gateway

end MultiUserChat.Web
