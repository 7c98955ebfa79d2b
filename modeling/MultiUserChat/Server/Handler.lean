import MultiUserChat.Server.Operation
/-!
# The packet handlers

`server/server.c`, from `send_text_response` to `client_handler`, as programs over the atomic
operations. `cleanup_offline_fd`, `push_group_event` and `send_group_payload_to_fd` call each other;
the one procedure called is `cleanup_offline_fd`, at the place where a failed send calls it.
-/

namespace MultiUserChat

/-- The procedure that handlers call recursively. -/
inductive Procedure
  /-- `cleanup_offline_fd` of a descriptor. -/
  | cleanup (fd : Int)
deriving DecidableEq

/-- Code of a handler thread. -/
abbrev Handler (α : Type) : Type := Program Operation Answer Procedure α

/-! ## The operations as calls -/

namespace Handler

/-- `user_store_register` -/
abbrev userRegister (username password : CString) : Handler UserResult :=
  Program.perform (.userRegister username password) Program.done

/-- `user_store_login` -/
abbrev userLogin (username password : CString) (fd : Int) : Handler UserResult :=
  Program.perform (.userLogin username password fd) Program.done

/-- `user_store_logout_fd` -/
abbrev userLogoutFd (fd : Int) : Handler UserResult :=
  Program.perform (.userLogoutFd fd) Program.done

/-- `user_store_get_fd` -/
abbrev userGetFd (username : CString) : Handler (Except UserResult Int) :=
  Program.perform (.userGetFd username) Program.done

/-- `user_store_online_list` -/
abbrev userOnlineList : Handler (Except UserResult CString) :=
  Program.perform .userOnlineList Program.done

/-- `user_store_snapshot_online_fds` -/
abbrev userSnapshotOnlineFds (exceptFd : Int) : Handler (List (CString × Int)) :=
  Program.perform (.userSnapshotOnlineFds exceptFd) Program.done

/-- `user_store_username_by_fd` -/
abbrev userUsernameByFd (fd : Int) : Handler (Option CString) :=
  Program.perform (.userUsernameByFd fd) Program.done

/-- `group_store_create` -/
abbrev groupCreate (creator name : CString) (members : List CString) :
    Handler (Except GroupResult GroupSnapshot) :=
  Program.perform (.groupCreate creator name members) Program.done

/-- `group_store_get_snapshot` -/
abbrev groupGetSnapshot (groupId : CString) : Handler (Except GroupResult GroupSnapshot) :=
  Program.perform (.groupGetSnapshot groupId) Program.done

/-- `group_store_build_list_payload` -/
abbrev groupBuildListPayload (username : CString) : Handler (Except GroupResult GroupPayload) :=
  Program.perform (.groupBuildListPayload username) Program.done

/-- `group_store_remove_member` -/
abbrev groupRemoveMember (username : CString) : Handler (List GroupChange) :=
  Program.perform (.groupRemoveMember username) Program.done

/-- `send_packet` -/
abbrev send (fd : Int) (packet : Packet) (target : Option CString) : Handler Bool :=
  Program.perform (.send fd packet target) Program.done

/-- `close` -/
abbrev close (fd : Int) : Handler Unit := Program.perform (.close fd) Program.done

/-- A call of `cleanup_offline_fd`. -/
abbrev cleanup (fd : Int) : Handler Unit := Program.call (.cleanup fd) (Program.done ())

end Handler

open Handler

/-! ## The handlers -/

/-- The sender name of packets the server originates. -/
def serverName : CString := CString.ofString "server"

/-- `send_text_response`; no caller uses its result. -/
def sendTextResponse (fd : Int) (type : MessageType) (message : CString) : Handler Unit :=
  match packetSetText type.code serverName CString.empty message with
  | none => pure ()
  | some packet => do
    let _ ← send fd packet none
    pure ()

/-- `handle_register` -/
def handleRegister (fd : Int) (packet : Packet) : Handler Unit := do
  let result ← userRegister packet.senderName packet.dataText
  if result = UserResult.ok then sendTextResponse fd .msgOk (CString.ofString "注册成功")
  else sendTextResponse fd .msgError (userResultMessage result)

/-- `handle_login` -/
def handleLogin (fd : Int) (packet : Packet) : Handler Unit := do
  let result ← userLogin packet.senderName packet.dataText fd
  if result = UserResult.ok then sendTextResponse fd .msgOk (CString.ofString "登录成功")
  else sendTextResponse fd .msgError (userResultMessage result)

/-- `handle_online_list` -/
def handleOnlineList (fd : Int) : Handler Unit := do
  match ← userOnlineList with
  | .ok list => sendTextResponse fd .msgOnlineList list
  | .error result => sendTextResponse fd .msgError (userResultMessage result)

/-- `packet_text_data` -/
def packetTextData (packet : Packet) : Option CString :=
  if packet.length = 0 ∨ packet.payload.getLast? ≠ some 0 then none else some packet.dataText

/-- `send_group_payload_to_fd` to the descriptor of a user. -/
def sendGroupPayloadToFd (target : CString) (fd : Int) (type : MessageType)
    (sender receiver : CString) (payload : GroupPayload) : Handler Unit :=
  match packetInit type.code sender receiver payload.data with
  | none => cleanup fd
  | some packet => do
    let delivered ← send fd packet (some target)
    if delivered = true then pure () else cleanup fd

/-- The loop that sends one payload to each listed member that is online. -/
def sendToMembers (type : MessageType) (sender receiver : CString) (payload : GroupPayload) :
    List CString → Handler Unit
  | [] => pure ()
  | member :: rest => do
    match ← userGetFd member with
    | .ok memberFd => sendGroupPayloadToFd member memberFd type sender receiver payload
    | .error _ => pure ()
    sendToMembers type sender receiver payload rest

/-- `push_group_event` -/
def pushGroupEvent (event : CString) (snapshot : GroupSnapshot) : Handler Unit :=
  match groupPayloadBuildEvent event snapshot with
  | (.ok, payload) =>
    sendToMembers .msgGroupEvent serverName snapshot.id.toCString payload snapshot.memberNames
  | _ => pure ()

/-- The loop of `cleanup_offline_fd` over the changes. -/
def pushChanges : List GroupChange → Handler Unit
  | [] => pure ()
  | change :: rest => do
    pushGroupEvent change.event.toCString change.group
    pushChanges rest

/-- `cleanup_offline_fd` -/
def cleanupOfflineFd (fd : Int) : Handler Unit := do
  match ← userUsernameByFd fd with
  | none =>
    let _ ← userLogoutFd fd
    pure ()
  | some username =>
    let changes ← groupRemoveMember username
    let _ ← userLogoutFd fd
    pushChanges changes

/-- `handle_private` -/
def handlePrivate (fd : Int) (packet : Packet) : Handler Unit := do
  match ← userGetFd packet.receiverName with
  | .error result => sendTextResponse fd .msgError (userResultMessage result)
  | .ok targetFd =>
    let delivered ← send targetFd packet (some packet.receiverName)
    if delivered = true then
      sendTextResponse fd .msgOk (CString.ofString "私聊消息已发送")
    else
      cleanup targetFd
      sendTextResponse fd .msgError (CString.ofString "目标用户连接已断开")

/-- The loop of `handle_group` over the snapshot of descriptors. -/
def broadcast (packet : Packet) : List (CString × Int) → Handler Unit
  | [] => pure ()
  | (owner, targetFd) :: rest => do
    let delivered ← send targetFd packet (some owner)
    if delivered = true then pure () else cleanup targetFd
    broadcast packet rest

/-- `handle_group` -/
def handleGroup (fd : Int) (packet : Packet) : Handler Unit := do
  let fds ← userSnapshotOnlineFds fd
  if fds.length = 0 then
    sendTextResponse fd .msgError (CString.ofString "当前没有其他在线用户")
  else
    broadcast packet fds
    sendTextResponse fd .msgOk (CString.ofString "群聊消息已发送")

/-- The member loop of `handle_group_create`. It returns whether a member other than the user was
named, or nothing when a member is not online and the request was refused. -/
def checkMembers (fd : Int) (username : CString) : List CString → Bool → Handler (Option Bool)
  | [], hasOtherMember => pure (some hasOtherMember)
  | member :: rest, hasOtherMember => do
    match ← userGetFd member with
    | .ok _ => checkMembers fd username rest (hasOtherMember || member ≠ username)
    | .error _ =>
      sendTextResponse fd .msgError (CString.ofString "群成员必须是当前在线用户")
      pure none

/-- `handle_group_create` for the user logged in on the descriptor. -/
def createGroupFor (fd : Int) (packet : Packet) (username : CString) : Handler Unit :=
  match groupPayloadParse packet.payload with
  | .ok (name :: member :: others) =>
    if (member :: others).length > groupMaxMembers then
      sendTextResponse fd .msgError (CString.ofString "群聊创建数据不合法")
    else do
      match ← checkMembers fd username (member :: others) false with
      | none => pure ()
      | some false =>
        sendTextResponse fd .msgError (CString.ofString "请至少选择一名在线成员")
      | some true =>
        match ← groupCreate username name (member :: others) with
        | .error result => sendTextResponse fd .msgError (groupResultMessage result)
        | .ok snapshot =>
          pushGroupEvent groupEventCreated snapshot
          sendTextResponse fd .msgOk (CString.ofString "群聊已创建")
  | _ => sendTextResponse fd .msgError (CString.ofString "群聊创建数据不合法")

/-- `handle_group_create` -/
def handleGroupCreate (fd : Int) (packet : Packet) : Handler Unit := do
  match ← userUsernameByFd fd with
  | none => sendTextResponse fd .msgError (CString.ofString "请先登录")
  | some username => createGroupFor fd packet username

/-- `handle_group_list` -/
def handleGroupList (fd : Int) : Handler Unit := do
  match ← userUsernameByFd fd with
  | none => sendTextResponse fd .msgError (CString.ofString "请先登录")
  | some username =>
    match ← groupBuildListPayload username with
    | .error result => sendTextResponse fd .msgError (groupResultMessage result)
    | .ok payload =>
      match packetInit MessageType.msgGroupList.code serverName username payload.data with
      | none => cleanup fd
      | some packet =>
        let delivered ← send fd packet none
        if delivered = true then pure () else cleanup fd

/-- `handle_group_message` for the user logged in on the descriptor. -/
def sendGroupMessageFor (fd : Int) (packet : Packet) (username : CString) : Handler Unit :=
  match packetTextData packet with
  | none => sendTextResponse fd .msgError (CString.ofString "群聊消息数据不合法")
  | some text =>
    if packet.receiverName.length = 0 ∨ text.length = 0 then
      sendTextResponse fd .msgError (CString.ofString "群聊消息数据不合法")
    else do
      match ← groupGetSnapshot packet.receiverName with
      | .error result => sendTextResponse fd .msgError (groupResultMessage result)
      | .ok snapshot =>
        if !groupSnapshotHasMember snapshot username then
          sendTextResponse fd .msgError (groupResultMessage .errNotMember)
        else
          match groupPayloadBuildMessage snapshot text with
          | (.ok, payload) =>
            sendToMembers .msgGroupMessage username snapshot.id.toCString payload
              snapshot.memberNames
            sendTextResponse fd .msgOk (CString.ofString "群聊消息已发送")
          | (result, _) => sendTextResponse fd .msgError (groupResultMessage result)

/-- `handle_group_message` -/
def handleGroupMessage (fd : Int) (packet : Packet) : Handler Unit := do
  match ← userUsernameByFd fd with
  | none => sendTextResponse fd .msgError (CString.ofString "请先登录")
  | some username => sendGroupMessageFor fd packet username

/-- `handle_file_packet` -/
def handleFilePacket (fd : Int) (packet : Packet) : Handler Unit := do
  match ← userGetFd packet.receiverName with
  | .error result => sendTextResponse fd .msgError (userResultMessage result)
  | .ok targetFd =>
    let delivered ← send targetFd packet (some packet.receiverName)
    if delivered = true then
      if packet.type = MessageType.msgFileEnd.code then
        sendTextResponse fd .msgOk (CString.ofString "文件发送完成")
      else pure ()
    else
      cleanup targetFd
      sendTextResponse fd .msgError (CString.ofString "目标用户连接已断开")

/-- `process_packet` -/
def processPacket (fd : Int) (packet : Packet) : Handler Unit :=
  match MessageType.ofCode? packet.type with
  | some .msgRegister => handleRegister fd packet
  | some .msgLogin => handleLogin fd packet
  | some .msgOnlineList => handleOnlineList fd
  | some .msgPrivate => handlePrivate fd packet
  | some .msgGroup => handleGroup fd packet
  | some .msgGroupCreate => handleGroupCreate fd packet
  | some .msgGroupList => handleGroupList fd
  | some .msgGroupMessage => handleGroupMessage fd packet
  | some .msgFileBegin => handleFilePacket fd packet
  | some .msgFileChunk => handleFilePacket fd packet
  | some .msgFileEnd => handleFilePacket fd packet
  | some .msgLogout => do
    cleanup fd
    sendTextResponse fd .msgOk (CString.ofString "退出登录成功")
  | some .msgHeartbeat => sendTextResponse fd .msgOk (CString.ofString "心跳正常")
  | _ => sendTextResponse fd .msgError (CString.ofString "非法消息类型")

/-- The end of `client_handler`, after `recv_packet` failed. -/
def clientExit (fd : Int) : Handler Unit := do
  cleanup fd
  close fd

end MultiUserChat
