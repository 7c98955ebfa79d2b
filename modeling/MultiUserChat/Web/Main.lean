import MultiUserChat.Web.View
/-!
# The page

`web/public/main.js` as a state machine: its variables and what it shows, the messages that it sends,
and one step for each event that its listeners handle. A listener that throws an error ends there, and
what it has done before stays. The document has an element for the message of the login form or not:
without it `authMessage` is `null` and setting its text throws (`setAuthMessage`).

The reading of a file is waited for, so what follows it is an event of its own. The markup of the
dialogs, the focus and the keys are left out, and the clock is part of the state.
-/

namespace MultiUserChat.Web

attribute [local instance] text_lawful

/-- `DEFAULT_CHAT_HOST` of the page. -/
def pageChatHost : Text := literal "127.0.0.1"

/-- `DEFAULT_TCP_PORT` -/
def pageTcpPort : Nat := 9000

/-- `DEFAULT_UDP_PORT` of the page. -/
def pageUdpPort : Nat := 9001

/-! ## Messages to the gateway -/

/-- What the page sends, by its action. -/
inductive PageRequest
  | auth (action : AuthAction) (username password : Text)
  | logout
  | onlineList
  | groupList
  | listenUdp
  | createGroup (name : Text) (members : List Text)
  | sendPrivate (receiver text : Text)
  | sendGroupMessage (groupId text : Text)
  | sendFileBegin (receiver filename : Text) (filesize : Nat)
  | sendFileChunk (receiver : Text) (bytes : List UInt8)
  | sendFileEnd (receiver : Text)
deriving DecidableEq

/-- A member of an object that is a string. -/
def stringMember (name : String) (value : Text) : List Nat × Json := (literal name, .string value)

/-- A member of an object that is a natural number. -/
def numberMember (name : String) (value : Nat) : List Nat × Json :=
  (literal name, .number (digitsText value))

/-- The name of an action of the login form. -/
def AuthAction.name : AuthAction → String
  | register => "register"
  | login => "login"

/-- `authPayload` -/
def authPayload (username password : Text) : List (List Nat × Json) :=
  [stringMember "host" pageChatHost, numberMember "port" pageTcpPort,
    numberMember "udpPort" pageUdpPort, stringMember "username" (trim username),
    stringMember "password" password]

/-- The object that `send` turns into a text. -/
def PageRequest.json : PageRequest → Json
  | auth action username password =>
    .object (stringMember "action" (literal action.name) :: authPayload username password)
  | logout => .object [stringMember "action" (literal "logout")]
  | onlineList => .object [stringMember "action" (literal "online_list")]
  | groupList => .object [stringMember "action" (literal "group_list")]
  | listenUdp =>
    .object [stringMember "action" (literal "listen_udp"), numberMember "port" pageUdpPort]
  | createGroup name members =>
    .object [stringMember "action" (literal "create_group"), stringMember "name" name,
      (literal "members", .array (members.map .string))]
  | sendPrivate receiver text =>
    .object [stringMember "action" (literal "send_private"), stringMember "receiver" receiver,
      stringMember "text" text]
  | sendGroupMessage groupId text =>
    .object [stringMember "action" (literal "send_group_message"), stringMember "groupId" groupId,
      stringMember "text" text]
  | sendFileBegin receiver filename filesize =>
    .object [stringMember "action" (literal "send_file_begin"), stringMember "receiver" receiver,
      stringMember "filename" filename, numberMember "filesize" filesize]
  | sendFileChunk receiver bytes =>
    .object [stringMember "action" (literal "send_file_chunk"), stringMember "receiver" receiver,
      stringMember "dataBase64" (base64Encode bytes)]
  | sendFileEnd receiver =>
    .object [stringMember "action" (literal "send_file_end"), stringMember "receiver" receiver]

/-! ## The state -/

/-- `readyState` -/
inductive ReadyState
  | connecting | opened | closing | closed
deriving DecidableEq

/-- A WebSocket of the page. -/
structure PageSocket where
  /-- `readyState` -/
  readyState : ReadyState := .connecting
  /-- What `send` puts off until the socket is open, oldest first. -/
  waiting : List PageRequest := []
  /-- What has been sent, oldest first. -/
  sent : List PageRequest := []

/-- Send a request, or put it off. -/
def PageSocket.submit (request : PageRequest) (record : PageSocket) : PageSocket :=
  if record.readyState = .opened then { record with sent := record.sent ++ [request] }
  else { record with waiting := record.waiting ++ [request] }

/-- A toast. -/
structure Toast where
  /-- Its number. -/
  number : Nat
  /-- `level` -/
  level : String
  /-- Its text behind the time. -/
  text : Text

/-- The dialog for a new group. -/
structure GroupDialog where
  /-- `open` -/
  opened : Bool := false
  /-- The value of `groupNameInput`. -/
  name : Text := []
  /-- The users of `groupMemberList` with their check marks. -/
  options : List (Text × Bool) := []
  /-- `disabled` of `createGroupBtn`. -/
  createDisabled : Bool := false
  /-- The text of `groupFormMessage` and its level. -/
  message : Text × String := ([], "")

/-- The variables of the page, and the elements that they are shown in. -/
structure Page where
  /-- `authMessage`: its text and level, if the document has the element. -/
  authMessage : Option (Text × String)
  /-- `authView.hidden` -/
  authHidden : Bool := false
  /-- `chatView.hidden` -/
  chatHidden : Bool := true
  /-- The value of `username`. -/
  usernameInput : Text := []
  /-- The value of `password`. -/
  passwordInput : Text := []
  /-- The text of `currentUserEl`. -/
  currentUser : Text := literal "未登录"
  /-- The text of `connectionStatusEl`. -/
  connectionStatus : Text := literal "未连接"
  /-- The text of `targetNameEl`. -/
  targetName : Text := literal "群聊"
  /-- `targetDotEl` is shown as online. -/
  targetOnline : Bool := true
  /-- The buttons of `rosterListEl`; one may be active. -/
  roster : List (RosterItem × Bool) := []
  /-- The rows of `messageFeed`. -/
  feed : List Row := [.divider (literal "今天")]
  /-- The toasts of `systemFeed`, oldest first. -/
  toasts : List Toast := []
  /-- Number of toasts so far. -/
  toasted : Nat := 0
  /-- The value of `contactSearchEl`. -/
  search : Text := []
  /-- The value of `messageInputEl`. -/
  messageInput : Text := []
  /-- The icon and the markup in `filePreviewEl`. -/
  preview : Option (Text × Text) := none
  /-- The dialog for a new group. -/
  dialog : GroupDialog := {}
  /-- `newGroupBtnEl.hidden` -/
  newGroupHidden : Bool := true
  /-- The tab whose button is active. -/
  activeTab : Tab := .friends
  /-- `ws`, by its number. -/
  ws : Option Nat := none
  /-- Number of sockets that have been created. -/
  created : Nat := 0
  /-- The sockets, numbered in the order of their creation. -/
  sockets : Nat → PageSocket := fun _ => {}
  /-- `currentUsername` -/
  currentUsername : Text := []
  /-- `currentTab` -/
  currentTab : Tab := .friends
  /-- `onlineUsers` -/
  onlineUsers : List Text := []
  /-- `groups` -/
  groups : List Group := []
  /-- `knownContacts` -/
  knownContacts : List Text
  /-- The item of `localStorage` for the contacts. -/
  stored : Option Text
  /-- `selectedFile` -/
  selectedFile : Option SelectedFile := none
  /-- Files that are being read, with their receivers. -/
  uploads : List (Text × SelectedFile) := []
  /-- The objects that have addresses. -/
  objects : List (List UInt8) := []
  /-- `onlineRefreshTimer` is set. -/
  refreshing : Bool := false
  /-- `selectedConversation` -/
  selectedConversation : Conversation := emptyConversation
  /-- `conversations`; there is nothing in a conversation that has not been touched. -/
  conversations : Text → List ChatMessage := fun _ => []
  /-- `nowText()` -/
  now : Text := []
  /-- `todayText()` -/
  today : Text := []

/-! ## Contacts -/

/-- A contact that was stored, if it is a name. -/
def contactOf : Json → Option Text
  | .string name => if trim name = [] then none else some name
  | _ => none

/-- The contacts in what was stored, in `loadKnownContacts`; what is no array is as good as nothing. -/
def contactsOf : Option Json → List Text
  | some (.array items) => (items.filterMap contactOf).take 80
  | _ => [literal "user1", literal "user2", literal "user3"]

/-- `loadKnownContacts` -/
def loadKnownContacts (stored : Option Text) : List Text :=
  -- `localStorage.getItem(key) || '[]'`
  let text := stored.getD []
  contactsOf (Json.parse (if text = [] then literal "[]" else text))

/-- The names without repetitions and empty ones, in `saveKnownContacts`. -/
def uniqueNames (names : List Text) : List Text := (names.filter (· ≠ [])).eraseDups

namespace Page

/-- `saveKnownContacts` -/
def saveKnownContacts (page : Page) : Page :=
  let unique := uniqueNames page.knownContacts
  { page with
    knownContacts := unique
    stored := some (Json.array ((unique.take 80).map .string)).stringify }

/-- Add a name that is not known. -/
def addContact (page : Page) (name : Text) : Page :=
  if name ∈ page.knownContacts then page
  else { page with knownContacts := page.knownContacts ++ [name] }

/-! ## Showing the state -/

/-- `setAuthMessage`, unless it throws an error. -/
def setAuthMessage (page : Page) (text : Text) (level : String) : Option Page :=
  page.authMessage.map fun _ => { page with authMessage := some (text, level) }

/-- A listener that ends with `setAuthMessage`. -/
def endWithAuthMessage (page : Page) (text : Text) (level : String) : Page :=
  (page.setAuthMessage text level).getD page

/-- `setConnectionStatus` -/
def setConnectionStatus (page : Page) (text : Text) (online : Bool) : Page :=
  { page with
    connectionStatus := text
    targetOnline :=
      if page.selectedConversation.mode = .friend then online else page.targetOnline }

/-- `addToast` -/
def addToast (page : Page) (text : Text) (level : String) : Page :=
  let toasts := page.toasts ++ [⟨page.toasted, level, page.now ++ literal "  " ++ text⟩]
  { page with
    toasts := toasts.drop (toasts.length - 4)
    toasted := page.toasted + 1 }

/-- `updateHeader` -/
def updateHeader (page : Page) : Page :=
  let selected := page.selectedConversation
  match selected.mode with
  | .none =>
    { page with
      targetName := selected.name
      targetOnline := false
      connectionStatus := literal "请选择好友或群聊" }
  | .group =>
    { page with
      targetName := selected.name
      targetOnline := true
      connectionStatus := literal "群组会话" }
  | .friend =>
    let isOnline := decide (selected.id ∈ page.onlineUsers)
    { page with
      targetName := selected.name
      targetOnline := isOnline
      connectionStatus := if isOnline then literal "在线" else literal "离线" }

/-- `getConversationMessages` -/
def getConversationMessages (page : Page) (conversation : Conversation) : List ChatMessage :=
  page.conversations (conversationKey conversation)

/-- `renderMessages` -/
def renderMessages (page : Page) : Page :=
  let selected := page.selectedConversation
  { page with
    feed := feedOf page.today page.currentUsername selected.name
      (page.getConversationMessages selected) }

/-- `pushMessage` -/
def pushMessage (page : Page) (direction : Direction) (sender : Text) (content : Content)
    (conversation : Conversation) : Page :=
  let key := conversationKey conversation
  let message : ChatMessage := ⟨page.now, direction, sender, content⟩
  let page :=
    { page with
      conversations := Function.update page.conversations key (page.conversations key ++ [message]) }
  if key = conversationKey page.selectedConversation then page.renderMessages else page

/-- `renderGroupMemberOptions` -/
def renderGroupMemberOptions (page : Page) : Page :=
  let candidates := page.onlineUsers.filter fun user => user ≠ [] ∧ user ≠ page.currentUsername
  { page with
    dialog := { page.dialog with
      options := candidates.map (·, false)
      createDisabled := decide (candidates = []) } }

/-- `setGroupFormMessage` -/
def setGroupFormMessage (page : Page) (text : Text) (level : String) : Page :=
  { page with dialog := { page.dialog with message := (text, level) } }

/-- `closeGroupDialog` -/
def closeGroupDialog (page : Page) : Page :=
  { page with dialog := { page.dialog with opened := false } }

section

variable [Browser]

/-- `rosterItems` -/
def rosterItems (page : Page) : List RosterItem :=
  match page.currentTab with
  | .groups => groupItems (queryOf page.search) page.groups
  | .friends =>
    friendItems (queryOf page.search) page.currentUsername page.onlineUsers page.knownContacts

/-- The button of an item is active. -/
def isActive (page : Page) (item : RosterItem) : Bool :=
  decide (page.selectedConversation.mode = item.mode ∧ page.selectedConversation.id = item.id)

/-- `renderRoster` -/
def renderRoster (page : Page) : Page :=
  { page with
    activeTab := page.currentTab
    roster := page.rosterItems.map fun item => (item, page.isActive item) }

/-- `setTab` -/
def setTab (page : Page) (tab : Tab) : Page :=
  { page with currentTab := tab, newGroupHidden := decide (tab ≠ Tab.groups) }.renderRoster

end

/-! ## Sending -/

/-- Change one socket. -/
def updateSocket (page : Page) (socket : Nat) (change : PageSocket → PageSocket) : Page :=
  { page with sockets := Function.update page.sockets socket (change (page.sockets socket)) }

/-- The socket `ws` that is open or will be. -/
def liveSocket (page : Page) : Option Nat :=
  page.ws.filter fun socket =>
    (page.sockets socket).readyState = .opened ∨ (page.sockets socket).readyState = .connecting

/-- `connectWs` -/
def connectWs (page : Page) : Page × Nat :=
  match page.liveSocket with
  | some socket => (page, socket)
  | none =>
    ({ page with
        ws := some page.created
        created := page.created + 1
        sockets := Function.update page.sockets page.created {} }, page.created)

/-- `send` -/
def send (page : Page) (request : PageRequest) : Page :=
  page.connectWs.1.updateSocket page.connectWs.2 (PageSocket.submit request)

/-- Send some requests, one after the other. -/
def sendAll (page : Page) (requests : List PageRequest) : Page := requests.foldl send page

/-! ## Views -/

section

variable [Browser]

/-- `showChat` -/
def showChat (page : Page) (username : Text) : Page :=
  let page := { page with currentUsername := username }
  let page :=
    if username ∈ page.knownContacts then page
    else { page with knownContacts := username :: page.knownContacts }
  let page := page.saveKnownContacts
  let page :=
    { page with
      currentUser := literal "当前用户：" ++ username
      authHidden := true
      chatHidden := false }
  let page := page.setConnectionStatus (literal "已登录") true
  let page := { page with groups := [], selectedConversation := emptyConversation }
  { page.updateHeader.renderRoster.renderMessages with refreshing := true }

/-- `showAuth` -/
def showAuth (page : Page) (message : Text) : Page :=
  let page :=
    { page with
      refreshing := false
      currentUsername := []
      groups := []
      selectedConversation := emptyConversation
      currentUser := literal "未登录"
      authHidden := false
      chatHidden := true }
  page.endWithAuthMessage message "info"

/-- `renderOnlineUsers` -/
def renderOnlineUsers (page : Page) (users : List Text) : Page :=
  let onlineUsers := uniqueNames users
  let page := onlineUsers.foldl addContact { page with onlineUsers }
  let page := page.saveKnownContacts
  let selected := page.selectedConversation
  let page :=
    if selected.mode = .friend then
      { page with
        selectedConversation := { selected with online := decide (selected.id ∈ onlineUsers) } }
    else page
  let page := if page.dialog.opened then page.renderGroupMemberOptions else page
  page.updateHeader.renderRoster

/-! ## Messages of the gateway -/

/-- `upsertGroup`; the first group of the id is replaced. -/
def upsertGroup (page : Page) (group : Group) : Page :=
  if group.id = [] then page
  else
    match page.groups.findIdx? (·.id = group.id) with
    | some index => { page with groups := page.groups.set index group }
    | none => { page with groups := page.groups ++ [group] }

/-- A `group_list` message. -/
def receiveGroupList (page : Page) (groups : List Group) : Page :=
  let previous := page.selectedConversation
  let page := { page with groups }
  let page :=
    if previous.mode = .group ∧ ¬ groups.any (·.id = previous.id) then
      { page.pushMessage .system [] (.text (literal "当前群聊已结束")) previous with
        selectedConversation := emptyConversation }
    else page
  page.updateHeader.renderRoster.renderMessages

/-- A `group_event` message. -/
def receiveGroupEvent (page : Page) (event : Text) (group : Group) : Page :=
  let page := page.upsertGroup group
  let selected := page.selectedConversation
  let page :=
    if selected.mode = .group ∧ selected.id = group.id then
      { page with selectedConversation := ⟨.group, group.id, group.name, true⟩ }
    else page
  let page :=
    if event = literal "created" then
      (page.addToast (literal "群聊已创建：" ++ group.name) "info").closeGroupDialog
    else page
  let page :=
    if event = literal "member_left" then
      page.addToast (literal "群成员变化：" ++ group.name) "info"
    else page
  page.renderRoster.updateHeader

/-- A `chat_message` message, for its conversation. -/
def receiveChat (page : Page) (conversation : Conversation) (sender text : Text) : Page :=
  let page :=
    if conversation.mode = .group ∧ ¬ page.groups.any (·.id = conversation.id) then
      (page.upsertGroup ⟨conversation.id, conversation.name, none, some []⟩).renderRoster
    else page
  let page :=
    if sender ∈ page.knownContacts then page
    else
      { page with knownContacts := page.knownContacts ++ [sender] }.saveKnownContacts.renderRoster
  page.pushMessage (if sender = page.currentUsername then .outgoing else .incoming) sender
    (.text text) conversation

/-- The conversation of a group; what a message does not say has a default. -/
def groupConversation (groupId groupName : Text) : Conversation :=
  ⟨.group, if groupId = [] then literal "legacy-broadcast" else groupId,
    if groupName = [] then literal "群聊" else groupName, true⟩

/-- The conversation with a friend. -/
def friendConversation (page : Page) (name : Text) : Conversation :=
  ⟨.friend, name, name, decide (name ∈ page.onlineUsers)⟩

/-- A `file_received` message; `base64ToBlobUrl` throws an error for a text that is not in order. -/
def receiveFile (page : Page) (sender filename dataBase64 : Text) (size : Nat) : Page :=
  match forgivingDecode dataBase64 with
  | none => page
  | some bytes =>
    let url := Browser.objectUrl page.objects.length
    let page := { page with objects := page.objects ++ [bytes] }
    page.pushMessage .incoming sender (.file filename size (some url))
      (page.friendConversation sender)

/-- The end of a session, a `status` message with `logged_out`. -/
def receiveLoggedOut (page : Page) (message : Text) : Page :=
  let page :=
    { page with
      groups := []
      selectedConversation := emptyConversation
      conversations := fun _ => []
      feed := []
      toasts := []
      roster := [] }
  page.showAuth (if message = [] then literal "已退出登录" else message)

/-- The requests after a login. -/
def loginRequests : List PageRequest := [.onlineList, .groupList, .listenUdp]

/-- `handleGatewayMessage` -/
def handleGatewayMessage (page : Page) : Notice → Page
  | .authResult action ok message username =>
    if action = .login ∧ ok = true then
      ((page.showChat username).addToast message "info").sendAll loginRequests
    else page.endWithAuthMessage message (if ok = true then "success" else "error")
  | .onlineList users => page.renderOnlineUsers users
  | .groupList groups => page.receiveGroupList groups
  | .groupEvent event group => page.receiveGroupEvent event group
  | .chatMessage mode sender _ text =>
    let conversation :=
      if mode = "group" then groupConversation [] [] else page.friendConversation sender
    page.receiveChat conversation sender text
  | .groupChatMessage groupId groupName sender text =>
    page.receiveChat (groupConversation groupId groupName) sender text
  | .fileProgress _ filename receivedSize expectedSize =>
    page.addToast (literal "文件接收 " ++ filename ++ literal ": " ++ digitsText receivedSize ++
      literal " / " ++ digitsText expectedSize ++ literal " bytes") "info"
  | .fileReceived sender filename data =>
    page.receiveFile sender filename (base64Encode data) data.length
  | .status status ok _ message =>
    if status = "logged_out" then page.receiveLoggedOut message
    else
      let page :=
        if status = "tcp_connected" then page.setConnectionStatus message true else page
      page.addToast (if message = [] then literal status else message)
        (if ok = some false then "error" else "info")
  | .error _ _ message =>
    if page.chatHidden then page.endWithAuthMessage message "error"
    else page.addToast message "error"

end

/-! ## The user -/

/-- The listeners of the login form: the text is shown in front of the sending. -/
def submitAuth (page : Page) (action : AuthAction) : Page :=
  let text := match action with
    | .login => literal "正在登录..."
    | .register => literal "正在注册..."
  match page.setAuthMessage text "info" with
  | none => page
  | some page => page.send (.auth action page.usernameInput page.passwordInput)

/-- The listener of the timer and of `focus`. -/
def refresh (page : Page) : Page :=
  if page.chatHidden then page else page.sendAll [.onlineList, .groupList]

/-- The listener of a button of the roster. -/
def pick [Browser] (page : Page) (index : Nat) : Option Page :=
  (page.roster[index]?).map fun button =>
    let item := button.1
    let page :=
      { page with
        selectedConversation := ⟨item.mode, item.id, item.name, item.online⟩
        currentTab := if item.mode = Mode.group then Tab.groups else Tab.friends }
    page.updateHeader.renderRoster.renderMessages

/-- `openGroupDialog` -/
def openGroupDialog (page : Page) : Page :=
  let page := page.send .onlineList
  let page := { page with dialog := { page.dialog with name := [] } }
  let page := (page.setGroupFormMessage [] "info").renderGroupMemberOptions
  { page with dialog := { page.dialog with opened := true } }

/-- The listener of the form for a new group. -/
def submitGroup (page : Page) : Page :=
  let members := (page.dialog.options.filter Prod.snd).map Prod.fst
  let name := trim page.dialog.name
  if name = [] then page.setGroupFormMessage (literal "请输入群名") "error"
  else if members = [] then page.setGroupFormMessage (literal "请至少选择一名在线成员") "error"
  else
    (page.setGroupFormMessage (literal "正在创建...") "info").send (.createGroup name members)

/-- `updateFilePreview` -/
def updateFilePreview [Browser] (page : Page) : Page :=
  { page with
    preview := page.selectedFile.map fun file =>
      let extension := (file.name.splitOn 0x2e).getLastD []
      let icon := Browser.toUpperCase (Utf16.points ((extension.flatMap Utf16.units).take 3))
      (if icon = [] then literal "FILE" else icon,
        literal "<span class=\"file-name\">" ++ escapeText file.name ++
          literal "</span><span class=\"file-size\">" ++ formatBytes file.content.length ++
          literal "</span>") }

/-- `submitSelectedFile` up to where it waits for the content of the file. -/
def submitSelectedFile (page : Page) (receiver : Text) (file : SelectedFile) : Page :=
  if receiver = [] ∨ receiver = page.currentUsername then
    page.addToast (literal "文件传输需要先选择一个在线好友，不能发送给自己或群组") "warn"
  else if file.content.length > fileTransferMaxBytes then
    page.addToast (literal "文件超过 10 MiB 限制") "error"
  else { page with uploads := page.uploads ++ [(receiver, file)] }

/-- The requests for a file. -/
def fileRequests (receiver : Text) (file : SelectedFile) : List PageRequest :=
  .sendFileBegin receiver file.name file.content.length ::
    ((fileChunks file.content).map (.sendFileChunk receiver) ++ [.sendFileEnd receiver])

/-- The rest of `submitSelectedFile`. The file is listed in the conversation that is selected by then,
and a file that has been selected meanwhile is dropped. -/
def finishUpload [Browser] (page : Page) (receiver : Text) (file : SelectedFile) : Page :=
  let page := page.sendAll (fileRequests receiver file)
  let page :=
    page.pushMessage .outgoing [] (.file file.name file.content.length none)
      page.selectedConversation
  let page := page.addToast (literal "文件发送请求已提交：" ++ file.name) "info"
  { page with selectedFile := none }.updateFilePreview

/-- The listener of the composer when no file is selected. -/
def submitText (page : Page) : Page :=
  let text := trim page.messageInput
  let selected := page.selectedConversation
  if text = [] then page.addToast (literal "请输入消息内容或选择文件") "warn"
  else
    match selected.mode with
    | .group =>
      if selected.id = [] then page.addToast (literal "请选择群聊后再发送消息") "warn"
      else { page.send (.sendGroupMessage selected.id text) with messageInput := [] }
    | .none => page.addToast (literal "请选择一个好友或群聊后再发送消息") "warn"
    | .friend =>
      if selected.id = [] ∨ selected.id = page.currentUsername then
        page.addToast (literal "请选择一个好友后再发送私聊消息") "warn"
      else
        let page := page.send (.sendPrivate selected.id text)
        let page := page.pushMessage .outgoing [] (.text text) selected
        { page with messageInput := [] }

/-- The listener of the composer. -/
def submitComposer (page : Page) : Page :=
  match page.selectedFile with
  | some file =>
    let selected := page.selectedConversation
    page.submitSelectedFile (if selected.mode = .friend then selected.id else []) file
  | none => page.submitText

/-! ## The sockets -/

/-- The listeners of `open`: the one of `connectWs`, then those that `send` has added. -/
def onOpen (page : Page) (socket : Nat) : Page :=
  let page := page.updateSocket socket fun record => { record with readyState := .opened }
  let page := page.endWithAuthMessage (literal "网关已连接") "info"
  page.updateSocket socket fun record =>
    { record with waiting := [], sent := record.sent ++ record.waiting }

/-- The listener of `close`. -/
def onClose (page : Page) (socket : Nat) : Page :=
  let page := page.updateSocket socket fun record => { record with readyState := .closed }
  if page.chatHidden then page.endWithAuthMessage (literal "网关连接已关闭") "warn"
  else
    (page.addToast (literal "WebSocket 已关闭") "warn").setConnectionStatus (literal "连接已关闭") false

/-- The listener of `error`. -/
def onError (page : Page) : Page :=
  if page.chatHidden then page.endWithAuthMessage (literal "网关连接异常") "error"
  else page.addToast (literal "WebSocket 连接异常") "error"

end Page

/-! ## Events -/

/-- What can happen to the page. -/
inductive PageEvent
  /-- The clock goes on. -/
  | clock (now today : Text)
  /-- Eight seconds after a toast. -/
  | expire (toast : Nat)
  /-- The timer of `startOnlineRefresh`. -/
  | tick
  /-- The window gets the focus. -/
  | focus
  /-- A socket is open. -/
  | opened (socket : Nat)
  /-- The other side closes a socket. -/
  | closing (socket : Nat)
  /-- A socket's `close` event. -/
  | closed (socket : Nat)
  /-- A socket's `error` event. -/
  | failed (socket : Nat)
  /-- A message of the gateway. -/
  | message (socket : Nat) (notice : Notice)
  /-- A datagram that the gateway passes on. -/
  | broadcast (socket : Nat) (message : Text)
  /-- The fields of the login form. -/
  | typeAuth (username password : Text)
  /-- The buttons of the login form. -/
  | auth (action : AuthAction)
  /-- The button `logoutBtn`. -/
  | logout
  /-- One of the buttons for a tab. -/
  | tab (tab : Tab)
  /-- The search field. -/
  | search (text : Text)
  /-- A button of the roster. -/
  | pick (index : Nat)
  /-- The button `newGroupBtn`. -/
  | newGroup
  /-- The buttons that close the dialog. -/
  | closeDialog
  /-- The field of the dialog. -/
  | typeGroupName (name : Text)
  /-- A check mark of the dialog. -/
  | check (index : Nat)
  /-- The form of the dialog. -/
  | submitGroup
  /-- A file is chosen, or none. -/
  | chooseFile (file : Option SelectedFile)
  /-- The button in the preview of the file. -/
  | removeFile
  /-- A file has been read. -/
  | fileRead (upload : Nat)
  /-- The field of the composer. -/
  | typeMessage (text : Text)
  /-- The composer is submitted. -/
  | submit

namespace Page

/-- The check mark of a user is changed. -/
def toggle (page : Page) (index : Nat) : Page :=
  { page with
    dialog := { page.dialog with
      options := page.dialog.options.modify index fun option => (option.1, !option.2) } }

/-- One event, when it is possible. -/
def step [Browser] (page : Page) : PageEvent → Option Page
  | .clock now today => some { page with now, today }
  | .expire toast =>
    some { page with toasts := page.toasts.filter fun shown => shown.number ≠ toast }
  | .tick => if page.refreshing then some page.refresh else none
  | .focus => some page.refresh
  | .opened socket =>
    if socket < page.created ∧ (page.sockets socket).readyState = .connecting then
      some (page.onOpen socket)
    else none
  | .closing socket =>
    if socket < page.created ∧ (page.sockets socket).readyState = .opened then
      some (page.updateSocket socket fun record => { record with readyState := .closing })
    else none
  | .closed socket =>
    if socket < page.created ∧ (page.sockets socket).readyState ≠ .closed then
      some (page.onClose socket)
    else none
  | .failed socket => if socket < page.created then some page.onError else none
  | .message socket notice =>
    if socket < page.created ∧ (page.sockets socket).readyState = .opened then
      some (page.handleGatewayMessage notice)
    else none
  | .broadcast socket message =>
    if socket < page.created ∧ (page.sockets socket).readyState = .opened then
      some (page.addToast (literal "[UDP广播] " ++ message) "broadcast")
    else none
  | .typeAuth username password =>
    some { page with usernameInput := username, passwordInput := password }
  | .auth action => some (page.submitAuth action)
  | .logout => some (page.send .logout)
  | .tab tab => some (page.setTab tab)
  | .search text => some { page with search := text }.renderRoster
  | .pick index => page.pick index
  | .newGroup => some page.openGroupDialog
  | .closeDialog => some page.closeGroupDialog
  | .typeGroupName name => some { page with dialog := { page.dialog with name } }
  | .check index => some (page.toggle index)
  | .submitGroup => some page.submitGroup
  | .chooseFile file => some { page with selectedFile := file }.updateFilePreview
  | .removeFile => some { page with selectedFile := none }.updateFilePreview
  | .fileRead upload =>
    (page.uploads[upload]?).map fun pending =>
      { page with uploads := page.uploads.eraseIdx upload }.finishUpload pending.1 pending.2
  | .typeMessage text => some { page with messageInput := text }
  | .submit => some page.submitComposer

/-- The page after its script has run; the document has the element for messages or not. -/
def load [Browser] (stored : Option Text) (authMessage : Option (Text × String)) : Page :=
  let page : Page := { authMessage, stored, knownContacts := loadKnownContacts stored }
  (page.setTab .friends).connectWs.1

end Page

end MultiUserChat.Web
