import MultiUserChat.Verif.PageAccount
import MultiUserChat.Verif.PageRequests
/-!
# The conversations of a page

What a page lists in its conversations and what it asks the gateway for is put down in a diary, event
by event (`Page.entry`, `Page.asks`). Every conversation holds the entries of the diary for it since
the last logout, in their order, and what goes over the sockets is what has been asked; so no message
is lost, repeated or listed under another name, and a private text is listed exactly when it is sent.
-/

namespace MultiUserChat.Web

open Page

/-! ## What belongs to the correspondence -/

/-- The conversations of a page, its sockets and its objects. -/
structure Correspondence where
  /-- `conversations` -/
  conversations : Text → List ChatMessage
  /-- `ws`, by its number. -/
  ws : Option Nat
  /-- Number of sockets that have been created. -/
  created : Nat
  /-- The sockets. -/
  sockets : Nat → PageSocket
  /-- The objects that have addresses. -/
  objects : List (List UInt8)

/-- A message, and the key of the conversation that it is listed in. -/
structure Entry where
  /-- `conversationKey` -/
  key : Text
  /-- The user of the page has sent it. -/
  own : Bool
  /-- The message. -/
  message : ChatMessage
deriving DecidableEq

namespace Correspondence

/-- A message more. -/
def note (correspondence : Correspondence) (entry : Entry) : Correspondence :=
  { correspondence with
    conversations := Function.update correspondence.conversations entry.key
      (correspondence.conversations entry.key ++ [entry.message]) }

/-- All that has been sent or put off, socket by socket. -/
def requests (correspondence : Correspondence) : List PageRequest :=
  (List.range correspondence.created).flatMap fun socket => (correspondence.sockets socket).stream

/-- Requests go over the last socket, behind the others. -/
structure Linked (correspondence : Correspondence) : Prop where
  /-- `ws` is the last socket. -/
  last : ∀ socket ∈ correspondence.ws, socket + 1 = correspondence.created
  /-- Nothing is put off when a socket is open. -/
  flushed : ∀ socket, (correspondence.sockets socket).readyState = .opened →
    (correspondence.sockets socket).waiting = []

/-- Some requests have been added. -/
structure Asks (before after : Correspondence) (requests : List PageRequest) : Prop where
  /-- The conversations are as they were. -/
  conversations : after.conversations = before.conversations
  /-- The objects are as they were. -/
  objects : after.objects = before.objects
  /-- The next requests go behind these ones. -/
  linked : after.Linked
  /-- They are behind the others. -/
  requests : after.requests = before.requests ++ requests

variable {correspondence : Correspondence}

/-- Nothing has been asked. -/
theorem Linked.nothing (linked : correspondence.Linked) : correspondence.Asks correspondence [] :=
  ⟨rfl, rfl, linked, (List.append_nil _).symm⟩

/-- More has been asked. -/
theorem Asks.trans {before between after : Correspondence} {requests later : List PageRequest}
    (first : before.Asks between requests) (second : between.Asks after later) :
    before.Asks after (requests ++ later) :=
  ⟨second.conversations.trans first.conversations, second.objects.trans first.objects,
    second.linked, by
      rw [second.requests, first.requests, List.append_assoc]⟩

/-- Nothing has been asked where nothing has changed. -/
theorem Linked.quiet (linked : correspondence.Linked) {after : Correspondence}
    (same : after = correspondence) : correspondence.Asks after [] := same ▸ linked.nothing

/-- A message more changes nothing for the requests. -/
theorem Linked.note (linked : correspondence.Linked) (entry : Entry) :
    (correspondence.note entry).Linked := ⟨linked.last, linked.flushed⟩

/-- The same message may be listed before and after. -/
theorem Asks.note {before after : Correspondence} {requests : List PageRequest}
    (asks : before.Asks after requests) (entry : Entry) :
    (before.note entry).Asks (after.note entry) requests := by
  refine ⟨?_, asks.objects, asks.linked.note entry, asks.requests⟩
  unfold Correspondence.note
  rw [asks.conversations]

/-- A socket goes on. -/
theorem Linked.update (linked : correspondence.Linked) (socket : Nat) (record : PageSocket)
    (flushed : record.readyState = .opened → record.waiting = []) {requests : List PageRequest}
    (stream : record.stream = (correspondence.sockets socket).stream ++ requests)
    (last : requests ≠ [] → socket + 1 = correspondence.created) :
    correspondence.Asks
      { correspondence with sockets := Function.update correspondence.sockets socket record }
      requests := by
  refine ⟨rfl, rfl, ⟨linked.last, fun other => ?_⟩, ?_⟩
  · dsimp only
    by_cases same : other = socket
    · rw [same, Function.update_self]
      exact flushed
    · rw [Function.update_of_ne same]
      exact linked.flushed other
  · have others (count : Nat) (few : count ≤ socket ∨ requests = []) :
        (List.range count).flatMap
            (fun other => (Function.update correspondence.sockets socket record other).stream) =
          (List.range count).flatMap fun other => (correspondence.sockets other).stream := by
      apply List.flatMap_congr
      intro other inside
      have below := List.mem_range.mp inside
      by_cases same : other = socket
      · have none : requests = [] := few.resolve_left (by omega)
        rw [same, Function.update_self, stream, none, List.append_nil]
      · rw [Function.update_of_ne same]
    unfold Correspondence.requests
    dsimp only
    by_cases none : requests = []
    · rw [others _ (.inr none), none, List.append_nil]
    · rw [← last none, List.range_succ, List.flatMap_append, List.flatMap_append,
        others _ (.inl le_rfl)]
      simp only [List.flatMap_singleton, Function.update_self, stream, List.append_assoc]

/-- A socket is created. -/
theorem Linked.create (linked : correspondence.Linked) : correspondence.Asks
    { correspondence with
      ws := some correspondence.created
      created := correspondence.created + 1
      sockets := Function.update correspondence.sockets correspondence.created {} } [] := by
  refine ⟨rfl, rfl, ⟨fun socket current => ?_, fun other => ?_⟩, ?_⟩
  · cases current
    rfl
  · dsimp only
    by_cases same : other = correspondence.created
    · rw [same, Function.update_self]
      exact fun _ => rfl
    · rw [Function.update_of_ne same]
      exact linked.flushed other
  · have others : (List.range correspondence.created).flatMap
        (fun other =>
          (Function.update correspondence.sockets correspondence.created {} other).stream) =
          (List.range correspondence.created).flatMap fun other =>
            (correspondence.sockets other).stream := by
      apply List.flatMap_congr
      intro other inside
      have below := List.mem_range.mp inside
      rw [Function.update_of_ne (by omega)]
    unfold Correspondence.requests
    dsimp only
    rw [List.range_succ, List.flatMap_append, others, List.flatMap_singleton, Function.update_self]
    rfl

end Correspondence

namespace Page

/-- The correspondence of a page. -/
def correspondence (page : Page) : Correspondence where
  conversations := page.conversations
  ws := page.ws
  created := page.created
  sockets := page.sockets
  objects := page.objects

/-! ## What does not belong to it -/

/-- The header. -/
@[simp] theorem updateHeader_correspondence (page : Page) :
    page.updateHeader.correspondence = page.correspondence := by
  obtain ⟨online, status, header⟩ := page.updateHeader_eq
  rw [header]
  rfl

/-- The message of the login form. -/
@[simp] theorem endWithAuthMessage_correspondence (page : Page) (text : Text) (level : String) :
    (page.endWithAuthMessage text level).correspondence = page.correspondence := by
  obtain ⟨authMessage, set⟩ := page.endWithAuthMessage_eq text level
  rw [set]
  rfl

/-- A group. -/
@[simp] theorem upsertGroup_correspondence (page : Page) (group : Group) :
    (page.upsertGroup group).correspondence = page.correspondence := by
  obtain ⟨groups, added⟩ := page.upsertGroup_eq group
  rw [added]
  rfl

/-- The announcement of a group event. -/
theorem announce_correspondence (event name : Text) (page : Page) :
    (announce event name page).correspondence = page.correspondence := by
  unfold announce
  dsimp only
  split
  · split
    · rfl
    · rfl
  · split
    · rfl
    · rfl

/-- A message in a conversation. -/
theorem pushMessage_correspondence (page : Page) (direction : Direction) (sender : Text)
    (content : Content) (conversation : Conversation) (own : Bool) :
    (page.pushMessage direction sender content conversation).correspondence =
      page.correspondence.note
        ⟨conversationKey conversation, own, page.now, direction, sender, content⟩ := by
  unfold Page.pushMessage
  dsimp only
  split
  · rfl
  · rfl

/-! ## Requests -/

/-- A request is sent, or put off. -/
theorem send_asks (page : Page) (linked : page.correspondence.Linked) (request : PageRequest) :
    page.correspondence.Asks (page.send request).correspondence [request] := by
  have connected : page.correspondence.Asks page.connectWs.1.correspondence [] ∧
      page.connectWs.2 + 1 = page.connectWs.1.created := by
    unfold Page.connectWs
    cases live : page.liveSocket with
    | some socket =>
      have current := (Option.filter_eq_some_iff.mp live).1
      exact ⟨linked.nothing, linked.last socket current⟩
    | none => exact ⟨linked.create, rfl⟩
  obtain ⟨first, last⟩ := connected
  refine first.trans (first.linked.update page.connectWs.2
    ((page.connectWs.1.sockets page.connectWs.2).submit request) ?_ ?_ fun _ => last)
  · intro opened
    rw [PageSocket.submit_readyState] at opened
    have flushed := first.linked.flushed _ opened
    change (page.connectWs.1.sockets page.connectWs.2).readyState = .opened at opened
    unfold PageSocket.submit
    rw [if_pos opened]
    exact flushed
  · change ((page.connectWs.1.sockets page.connectWs.2).submit request).stream =
      (page.connectWs.1.sockets page.connectWs.2).stream ++ [request]
    have flushed := first.linked.flushed page.connectWs.2
    change (page.connectWs.1.sockets page.connectWs.2).readyState = .opened →
      (page.connectWs.1.sockets page.connectWs.2).waiting = [] at flushed
    unfold PageSocket.submit PageSocket.stream
    split
    · rename_i opened
      simp [flushed opened]
    · simp

/-- Some requests are sent. -/
theorem sendAll_asks (page : Page) (linked : page.correspondence.Linked)
    (requests : List PageRequest) :
    page.correspondence.Asks (page.sendAll requests).correspondence requests := by
  induction requests generalizing page with
  | nil => exact linked.nothing
  | cons request requests ih =>
    have first := page.send_asks linked request
    exact first.trans (ih (page.send request) first.linked)

/-! ## Messages of the gateway -/

/-- A message of a conversation as it is listed. -/
def chatEntry (page : Page) (conversation : Conversation) (sender text : Text) : Entry :=
  ⟨conversationKey conversation, false, page.now,
    if sender = page.currentUsername then .outgoing else .incoming, sender, .text text⟩

/-- What a message of the gateway adds to a conversation. -/
def heard [Browser] (page : Page) : Notice → Option Entry
  | .chatMessage mode sender _ text =>
    some (page.chatEntry
      (if mode = "group" then groupConversation [] [] else ⟨.friend, sender, sender, false⟩) sender
      text)
  | .groupChatMessage groupId groupName sender text =>
    some (page.chatEntry (groupConversation groupId groupName) sender text)
  | .fileReceived sender filename data =>
    some ⟨conversationKey ⟨.friend, sender, sender, false⟩, false, page.now, .incoming, sender,
      .file filename data.length (some (Browser.objectUrl page.objects.length))⟩
  | .groupList groups =>
    if page.selectedConversation.mode = .group ∧
        ¬ groups.any (·.id = page.selectedConversation.id) then
      some ⟨conversationKey page.selectedConversation, false, page.now, .system, [],
        .text (literal "当前群聊已结束")⟩
    else none
  | _ => none

/-- The conversations of a group. -/
theorem receiveChat_correspondence [Browser] (page : Page) (conversation : Conversation)
    (sender text : Text) : (page.receiveChat conversation sender text).correspondence =
      page.correspondence.note (page.chatEntry conversation sender text) := by
  have known : ∃ groups roster activeTab, (if conversation.mode = .group ∧
        ¬ page.groups.any (·.id = conversation.id) then
      (page.upsertGroup ⟨conversation.id, conversation.name, none, some []⟩).renderRoster
    else page) = { page with groups, roster, activeTab } := by
    split
    · obtain ⟨groups, added⟩ := page.upsertGroup_eq ⟨conversation.id, conversation.name, none, some []⟩
      rw [added]
      exact ⟨_, _, _, rfl⟩
    · exact ⟨page.groups, page.roster, page.activeTab, rfl⟩
  obtain ⟨groups, roster, activeTab, known⟩ := known
  unfold Page.receiveChat
  dsimp only
  rw [known, pushMessage_correspondence _ _ _ _ _ false]
  split
  · rfl
  · rfl

/-- The key of a conversation depends on its mode and its id. -/
theorem chatEntry_friend (page : Page) {conversation conversation' : Conversation}
    (mode : conversation.mode = conversation'.mode) (id : conversation.id = conversation'.id)
    (sender text : Text) :
    page.chatEntry conversation sender text = page.chatEntry conversation' sender text := by
  unfold chatEntry conversationKey
  rw [mode, id]

variable [Browser]

/-- The chat view. -/
theorem showChat_correspondence (page : Page) (username : Text) :
    (page.showChat username).correspondence = page.correspondence := by
  have rendered (page : Page) :
      page.updateHeader.renderRoster.renderMessages.correspondence = page.correspondence :=
    page.updateHeader_correspondence
  unfold Page.showChat
  dsimp only
  split
  · exact rendered _
  · exact rendered _

/-- A list of online users. -/
theorem renderOnlineUsers_correspondence (page : Page) (users : List Text) :
    (page.renderOnlineUsers users).correspondence = page.correspondence := by
  obtain ⟨knownContacts, added⟩ :=
    foldl_addContact_eq (uniqueNames users) { page with onlineUsers := uniqueNames users }
  have rendered (page : Page) : page.updateHeader.renderRoster.correspondence = page.correspondence :=
    page.updateHeader_correspondence
  unfold Page.renderOnlineUsers
  dsimp only
  rw [added, rendered]
  split
  · split
    · rfl
    · rfl
  · split
    · rfl
    · rfl

/-- A group event. -/
theorem receiveGroupEvent_correspondence (page : Page) (event : Text) (group : Group) :
    (page.receiveGroupEvent event group).correspondence = page.correspondence := by
  have parts : page.receiveGroupEvent event group =
      (announce event group.name
        (if (page.upsertGroup group).selectedConversation.mode = .group ∧
            (page.upsertGroup group).selectedConversation.id = group.id then
          { page.upsertGroup group with
            selectedConversation := ⟨.group, group.id, group.name, true⟩ }
        else page.upsertGroup group)).renderRoster.updateHeader := rfl
  rw [parts, updateHeader_correspondence]
  refine (announce_correspondence event group.name _).trans ?_
  split
  · exact page.upsertGroup_correspondence group
  · exact page.upsertGroup_correspondence group

/-- A list of groups. -/
theorem receiveGroupList_correspondence (page : Page) (groups : List Group) :
    (page.receiveGroupList groups).correspondence =
      (page.heard (.groupList groups)).elim page.correspondence page.correspondence.note := by
  have rendered (page : Page) :
      page.updateHeader.renderRoster.renderMessages.correspondence = page.correspondence :=
    page.updateHeader_correspondence
  unfold Page.receiveGroupList Page.heard
  dsimp only
  rw [rendered]
  split
  · exact pushMessage_correspondence _ _ _ _ _ false
  · rfl

/-- A file that was received. -/
theorem receiveFile_correspondence (page : Page) (sender filename : Text) (data : List UInt8) :
    (page.receiveFile sender filename (base64Encode data) data.length).correspondence =
      { (page.heard (.fileReceived sender filename data)).elim page.correspondence
          page.correspondence.note with objects := page.objects ++ [data] } := by
  unfold Page.receiveFile
  rw [forgivingDecode_encode]
  exact pushMessage_correspondence _ _ _ _ _ false

omit [Browser] in
/-- The end of a session. -/
theorem receiveLoggedOut_correspondence (page : Page) (message : Text) :
    (page.receiveLoggedOut message).correspondence =
      { page.correspondence with conversations := fun _ => [] } := by
  unfold Page.receiveLoggedOut Page.showAuth
  dsimp only
  rw [endWithAuthMessage_correspondence]
  rfl

/-! ## Events -/

/-- The request of the composer when no file is selected. -/
def composed (page : Page) : Option PageRequest :=
  let text := trim page.messageInput
  let selected := page.selectedConversation
  if page.selectedFile.isSome ∨ text = [] ∨ selected.id = [] then none
  else
    match selected.mode with
    | .none => none
    | .friend =>
      if selected.id = page.currentUsername then none else some (.sendPrivate selected.id text)
    | .group => some (.sendGroupMessage selected.id text)

end Page

/-- The text of a private message. -/
def PageRequest.privateText : PageRequest → Option (Text × Text)
  | sendPrivate receiver text => some (receiver, text)
  | _ => none

/-- The key of the conversation with a friend. -/
def friendKey (name : Text) : Text := conversationKey ⟨.friend, name, name, false⟩

namespace Page

/-- A private text of the user as it is listed. -/
def privateEntry (page : Page) (message : Text × Text) : Entry :=
  ⟨friendKey message.1, true, page.now, .outgoing, [], .text message.2⟩

/-- What an event adds to a conversation. -/
def entry [Browser] (page : Page) : PageEvent → Option Entry
  | .message _ notice => page.heard notice
  | .fileRead upload => (page.uploads[upload]?).map fun pending =>
    ⟨conversationKey page.selectedConversation, true, page.now, .outgoing, [],
      .file pending.2.name pending.2.content.length none⟩
  | .submit => (page.composed.bind PageRequest.privateText).map page.privateEntry
  | _ => none

/-- What an event asks the gateway for. -/
def asks (page : Page) : PageEvent → List PageRequest
  | .tick | .focus => if page.chatHidden then [] else [.onlineList, .groupList]
  | .message _ (.authResult action ok _ _) =>
    if action = .login ∧ ok = true then loginRequests else []
  | .auth action =>
    if page.authMessage.isSome then [.auth action page.usernameInput page.passwordInput] else []
  | .logout => [.logout]
  | .newGroup => [.onlineList]
  | .submitGroup =>
    let members := (page.dialog.options.filter Prod.snd).map Prod.fst
    let name := trim page.dialog.name
    if name = [] ∨ members = [] then [] else [.createGroup name members]
  | .fileRead upload =>
    (page.uploads[upload]?).elim [] fun pending => fileRequests pending.1 pending.2
  | .submit => page.composed.toList
  | _ => []

end Page

/-- The conversations are emptied. -/
def PageEvent.forgets : PageEvent → Bool
  | message _ (.status status _ _ _) => decide (status = "logged_out")
  | _ => false

namespace Page

/-- The objects after an event: a file that was received becomes one. -/
def objectsAfter (page : Page) : PageEvent → List (List UInt8)
  | .message _ (.fileReceived _ _ data) => page.objects ++ [data]
  | _ => page.objects

/-- An event creates objects, and takes none away. -/
theorem objectsAfter_length (page : Page) (event : PageEvent) :
    page.objects.length ≤ (page.objectsAfter event).length := by
  unfold objectsAfter
  split
  · rw [List.length_append]
    exact Nat.le_add_right _ _
  · exact le_rfl

/-- The correspondence with what an event lists. -/
def noted [Browser] (page : Page) (event : PageEvent) : Correspondence :=
  if event.forgets then { page.correspondence with conversations := fun _ => [] }
  else
    { (page.entry event).elim page.correspondence page.correspondence.note with
      objects := page.objectsAfter event }

/-- What an event lists changes nothing for the requests. -/
theorem noted_linked [Browser] {page : Page} (linked : page.correspondence.Linked)
    (event : PageEvent) : (page.noted event).Linked := by
  unfold noted
  split
  · exact ⟨linked.last, linked.flushed⟩
  · cases page.entry event with
    | none => exact ⟨linked.last, linked.flushed⟩
    | some entry => exact ⟨linked.last, linked.flushed⟩

/-- The objects after an event. -/
theorem noted_objects [Browser] (page : Page) (event : PageEvent) :
    (page.noted event).objects = page.objectsAfter event := by
  unfold noted
  split
  · rename_i forgets
    cases event with
    | message socket notice =>
      cases notice with
      | fileReceived => exact absurd forgets Bool.false_ne_true
      | _ => rfl
    | _ => rfl
  · rfl

variable {page : Page}

section

variable [Browser]

/-- Messages of the gateway. -/
theorem handleGatewayMessage_asks (linked : page.correspondence.Linked) (socket : Nat)
    (notice : Notice) : (page.noted (.message socket notice)).Asks
      (page.handleGatewayMessage notice).correspondence (page.asks (.message socket notice)) := by
  have same := noted_linked linked (.message socket notice)
  cases notice with
  | authResult action ok message username =>
    rw [Page.handleGatewayMessage, Page.asks]
    split
    · have shown : ((page.showChat username).addToast message "info").correspondence =
          page.correspondence := page.showChat_correspondence username
      have asked := sendAll_asks _ (shown ▸ linked) loginRequests
      rw [shown] at asked
      exact asked
    · exact same.quiet (page.endWithAuthMessage_correspondence _ _)
  | onlineList users => exact same.quiet (page.renderOnlineUsers_correspondence users)
  | groupList groups =>
    refine same.quiet ((page.receiveGroupList_correspondence groups).trans ?_)
    change _ = { (page.heard (.groupList groups)).elim page.correspondence page.correspondence.note with
      objects := page.objects }
    cases page.heard (.groupList groups) with
    | none => rfl
    | some entry => rfl
  | groupEvent event group => exact same.quiet (page.receiveGroupEvent_correspondence event group)
  | chatMessage mode sender receiver text =>
    refine same.quiet ((page.receiveChat_correspondence _ sender text).trans ?_)
    refine congrArg page.correspondence.note ?_
    split
    · rfl
    · exact page.chatEntry_friend rfl rfl sender text
  | groupChatMessage groupId groupName sender text =>
    exact same.quiet (page.receiveChat_correspondence _ sender text)
  | fileProgress sender filename receivedSize expectedSize => exact same.quiet rfl
  | fileReceived sender filename data =>
    exact same.quiet (page.receiveFile_correspondence sender filename data)
  | status status ok reason message =>
    refine same.quiet ?_
    rw [Page.handleGatewayMessage, noted, PageEvent.forgets]
    simp only [decide_eq_true_eq]
    split
    · exact page.receiveLoggedOut_correspondence message
    · split
      · rfl
      · rfl
  | error status ok message =>
    refine same.quiet ?_
    rw [Page.handleGatewayMessage]
    split
    · exact page.endWithAuthMessage_correspondence message "error"
    · rfl

/-! ## Events of the user and of the sockets -/

omit [Browser] in
/-- A socket that is opened. -/
theorem onOpen_asks (linked : page.correspondence.Linked) (socket : Nat) :
    page.correspondence.Asks (page.onOpen socket).correspondence [] := by
  have opened : (page.onOpen socket).correspondence =
      { page.correspondence with
        sockets := Function.update page.sockets socket
          { readyState := .opened, sent := (page.sockets socket).stream } } := by
    unfold Page.onOpen
    dsimp only
    obtain ⟨authMessage, set⟩ := (page.updateSocket socket fun record =>
      { record with readyState := .opened }).endWithAuthMessage_eq (literal "网关已连接") "info"
    rw [set]
    simp [Page.updateSocket, Page.correspondence, PageSocket.stream]
  rw [opened]
  refine linked.update socket _ (fun _ => rfl) ?_ (absurd rfl)
  rw [PageSocket.stream, List.append_nil, List.append_nil]
  rfl

omit [Browser] in
/-- A socket that is not open any more. -/
theorem shut_asks (linked : page.correspondence.Linked) (socket : Nat) {readyState : ReadyState}
    (shut : readyState ≠ .opened) : page.correspondence.Asks
      (page.updateSocket socket fun record => { record with readyState }).correspondence [] :=
  linked.update socket { page.sockets socket with readyState } (fun opened => absurd opened shut)
    (List.append_nil _).symm (absurd rfl)

omit [Browser] in
/-- A socket's end. -/
theorem onClose_asks (linked : page.correspondence.Linked) (socket : Nat) :
    page.correspondence.Asks (page.onClose socket).correspondence [] := by
  have shut := @shut_asks page linked socket .closed (by decide)
  unfold Page.onClose
  dsimp only
  split
  · rw [endWithAuthMessage_correspondence]
    exact shut
  · exact shut

omit [Browser] in
/-- The listeners of the login form. -/
theorem submitAuth_asks (linked : page.correspondence.Linked) (action : AuthAction) :
    page.correspondence.Asks (page.submitAuth action).correspondence (page.asks (.auth action)) := by
  unfold Page.submitAuth setAuthMessage Page.asks
  cases page.authMessage with
  | none => exact linked.nothing
  | some message => exact send_asks { page with authMessage := some (_, "info") } linked _

omit [Browser] in
/-- The listener of the timer. -/
theorem refresh_asks (linked : page.correspondence.Linked) :
    page.correspondence.Asks page.refresh.correspondence (page.asks .tick) := by
  unfold Page.refresh Page.asks
  split
  · exact linked.nothing
  · exact page.sendAll_asks linked _

omit [Browser] in
/-- The dialog for a new group. -/
theorem openGroupDialog_asks (linked : page.correspondence.Linked) :
    page.correspondence.Asks page.openGroupDialog.correspondence [.onlineList] := by
  have asked := page.send_asks linked .onlineList
  obtain ⟨ws, created, sockets, sent⟩ := page.send_eq .onlineList
  unfold Page.openGroupDialog
  rw [sent] at asked ⊢
  exact asked

omit [Browser] in
/-- The form of the dialog. -/
theorem submitGroup_asks (linked : page.correspondence.Linked) :
    page.correspondence.Asks page.submitGroup.correspondence (page.asks .submitGroup) := by
  unfold Page.submitGroup Page.asks
  dsimp only
  by_cases unnamed : trim page.dialog.name = []
  · rw [if_pos unnamed, if_pos (.inl unnamed)]
    exact linked.nothing
  by_cases alone : (page.dialog.options.filter Prod.snd).map Prod.fst = []
  · rw [if_neg unnamed, if_pos alone, if_pos (.inr alone)]
    exact linked.nothing
  · rw [if_neg unnamed, if_neg alone, if_neg (by simp [unnamed, alone])]
    exact send_asks (page.setGroupFormMessage (literal "正在创建...") "info") linked _

/-- The rest of the sending of a file. -/
theorem finishUpload_asks (linked : page.correspondence.Linked) (receiver : Text)
    (file : SelectedFile) :
    (page.correspondence.note ⟨conversationKey page.selectedConversation, true, page.now, .outgoing, [],
        .file file.name file.content.length none⟩).Asks
      (page.finishUpload receiver file).correspondence (fileRequests receiver file) := by
  obtain ⟨ws, created, sockets, sent⟩ := page.sendAll_eq (fileRequests receiver file)
  have asked := page.sendAll_asks linked (fileRequests receiver file)
  have dropped (page : Page) :
      (Page.updateFilePreview { page with selectedFile := none }).correspondence =
        page.correspondence := rfl
  have toasted (page : Page) (text : Text) (level : String) :
      (page.addToast text level).correspondence = page.correspondence := rfl
  have finished : (page.finishUpload receiver file).correspondence =
      (page.sendAll (fileRequests receiver file)).correspondence.note
        ⟨conversationKey page.selectedConversation, true, page.now, .outgoing, [],
          .file file.name file.content.length none⟩ := by
    unfold Page.finishUpload
    dsimp only
    rw [dropped, toasted, pushMessage_correspondence _ _ _ _ _ true, sent]
  rw [finished]
  exact asked.note _

/-- A composer that asks for nothing lists nothing. -/
theorem composed_none (linked : page.correspondence.Linked) (none : page.composed = none)
    {after : Page} (same : after.correspondence = page.correspondence) :
    (page.noted .submit).Asks after.correspondence (page.asks .submit) := by
  have noted : page.noted .submit = page.correspondence := by
    rw [Page.noted, Page.entry, none]
    rfl
  rw [noted, Page.asks, none]
  exact linked.quiet same

omit [Browser] in
/-- A private text is sent and listed. -/
theorem submitText_private (given : trim page.messageInput ≠ [])
    (friend : page.selectedConversation.mode = .friend) (named : page.selectedConversation.id ≠ [])
    (other : page.selectedConversation.id ≠ page.currentUsername) :
    page.submitText.correspondence =
      (page.send (.sendPrivate page.selectedConversation.id
        (trim page.messageInput))).correspondence.note
          (page.privateEntry (page.selectedConversation.id, trim page.messageInput)) := by
  have key : conversationKey page.selectedConversation =
      friendKey page.selectedConversation.id := by
    unfold friendKey conversationKey
    rw [friend]
  have listed := pushMessage_correspondence (page.send (.sendPrivate page.selectedConversation.id
    (trim page.messageInput))) .outgoing [] (.text (trim page.messageInput))
    page.selectedConversation true
  obtain ⟨ws, created, sockets, sent⟩ := page.send_eq
    (.sendPrivate page.selectedConversation.id (trim page.messageInput))
  have now : (page.send (.sendPrivate page.selectedConversation.id
      (trim page.messageInput))).now = page.now := by rw [sent]
  rw [key, now] at listed
  unfold Page.submitText
  dsimp only
  rw [if_neg given, friend]
  dsimp only
  rw [if_neg (not_or.mpr ⟨named, other⟩)]
  exact listed

omit [Browser] in
/-- The composer asks for a private text to be sent. -/
theorem submitComposer_private {receiver text : Text}
    (asked : page.composed = some (.sendPrivate receiver text)) :
    page.submitComposer.correspondence =
      (page.send (.sendPrivate receiver text)).correspondence.note
        (page.privateEntry (receiver, text)) := by
  unfold composed at asked
  dsimp only at asked
  split at asked
  · contradiction
  rename_i given
  simp only [not_or, Option.not_isSome_iff_eq_none] at given
  obtain ⟨plain, given, named⟩ := given
  split at asked
  · contradiction
  · rename_i friend
    split at asked
    · contradiction
    · rename_i other
      cases asked
      unfold Page.submitComposer
      rw [plain]
      exact submitText_private given friend named other
  · cases asked

omit [Browser] in
/-- The composer asks for a group's text to be sent. -/
theorem submitComposer_group {groupId text : Text}
    (asked : page.composed = some (.sendGroupMessage groupId text)) :
    page.submitComposer.correspondence = (page.send (.sendGroupMessage groupId text)).correspondence := by
  unfold composed at asked
  dsimp only at asked
  split at asked
  · contradiction
  rename_i given
  simp only [not_or, Option.not_isSome_iff_eq_none] at given
  obtain ⟨plain, given, named⟩ := given
  split at asked
  · contradiction
  · split at asked
    · contradiction
    · cases asked
  · rename_i group
    cases asked
    unfold Page.submitComposer
    rw [plain]
    unfold Page.submitText
    dsimp only
    rw [if_neg given, group]
    dsimp only
    rw [if_neg named]
    rfl

/-- The composer without a file. -/
theorem submitText_asks (linked : page.correspondence.Linked) (plain : page.selectedFile = none) :
    (page.noted .submit).Asks page.submitText.correspondence (page.asks .submit) := by
  by_cases empty : trim page.messageInput = []
  · refine composed_none linked (by simp [composed, empty]) ?_
    unfold Page.submitText
    dsimp only
    rw [if_pos empty]
    rfl
  cases mode : page.selectedConversation.mode with
  | none =>
    refine composed_none linked (by simp [composed, mode]) ?_
    unfold Page.submitText
    dsimp only
    rw [if_neg empty, mode]
    rfl
  | group =>
    by_cases nameless : page.selectedConversation.id = []
    · refine composed_none linked (by simp [composed, nameless]) ?_
      unfold Page.submitText
      dsimp only
      rw [if_neg empty, mode]
      dsimp only
      rw [if_pos nameless]
      rfl
    · have asked : page.composed =
          some (.sendGroupMessage page.selectedConversation.id (trim page.messageInput)) := by
        simp [composed, plain, empty, nameless, mode]
      have noted : page.noted .submit = page.correspondence := by
        rw [Page.noted, Page.entry, asked]
        rfl
      rw [noted, Page.asks, asked]
      unfold Page.submitText
      dsimp only
      rw [if_neg empty, mode]
      dsimp only
      rw [if_neg nameless]
      exact page.send_asks linked _
  | friend =>
    by_cases nobody : page.selectedConversation.id = [] ∨
        page.selectedConversation.id = page.currentUsername
    · refine composed_none linked ?_ ?_
      · rcases nobody with nameless | self
        · simp [composed, nameless]
        · simp [composed, mode, self]
      · unfold Page.submitText
        dsimp only
        rw [if_neg empty, mode]
        dsimp only
        rw [if_pos nobody]
        rfl
    · obtain ⟨named, other⟩ := not_or.mp nobody
      have asked : page.composed =
          some (.sendPrivate page.selectedConversation.id (trim page.messageInput)) := by
        simp [composed, plain, empty, named, mode, other]
      have noted : page.noted .submit = page.correspondence.note
          (page.privateEntry (page.selectedConversation.id, trim page.messageInput)) := by
        rw [Page.noted, Page.entry, asked]
        rfl
      rw [noted, Page.asks, asked, submitText_private empty mode named other]
      exact (page.send_asks linked _).note _

/-- The composer. -/
theorem submitComposer_asks (linked : page.correspondence.Linked) :
    (page.noted .submit).Asks page.submitComposer.correspondence (page.asks .submit) := by
  unfold Page.submitComposer
  cases chosen : page.selectedFile with
  | none => exact submitText_asks linked chosen
  | some file =>
    have kept (receiver : Text) :
        (page.submitSelectedFile receiver file).correspondence = page.correspondence := by
      unfold Page.submitSelectedFile
      split
      · rfl
      split
      · rfl
      · rfl
    exact composed_none linked (by simp [composed, chosen]) (kept _)

/-- Every event lists and asks for what it says. -/
theorem step_correspondence {page' : Page} {event : PageEvent} (linked : page.correspondence.Linked)
    (taken : page.step event = some page') :
    (page.noted event).Asks page'.correspondence (page.asks event) := by
  cases event with
  | clock now today =>
    cases taken
    exact linked.nothing
  | expire toast =>
    cases taken
    exact linked.nothing
  | tick =>
    obtain ⟨_, rfl⟩ := taken_of_guard taken
    exact refresh_asks linked
  | focus =>
    cases taken
    exact refresh_asks linked
  | opened socket =>
    obtain ⟨_, rfl⟩ := taken_of_guard taken
    exact onOpen_asks linked socket
  | closing socket =>
    obtain ⟨_, rfl⟩ := taken_of_guard taken
    exact shut_asks linked socket (by decide)
  | closed socket =>
    obtain ⟨_, rfl⟩ := taken_of_guard taken
    exact onClose_asks linked socket
  | failed socket =>
    obtain ⟨_, rfl⟩ := taken_of_guard taken
    refine linked.quiet ?_
    unfold Page.onError
    split
    · exact endWithAuthMessage_correspondence _ _ _
    · rfl
  | message socket notice =>
    obtain ⟨_, rfl⟩ := taken_of_guard taken
    exact handleGatewayMessage_asks linked socket notice
  | broadcast socket message =>
    obtain ⟨_, rfl⟩ := taken_of_guard taken
    exact linked.nothing
  | typeAuth username password =>
    cases taken
    exact linked.nothing
  | auth action =>
    cases taken
    exact submitAuth_asks linked action
  | logout =>
    cases taken
    exact page.send_asks linked .logout
  | tab tab =>
    cases taken
    exact linked.nothing
  | search text =>
    cases taken
    exact linked.nothing
  | pick index =>
    obtain ⟨button, _, rfl⟩ := Option.map_eq_some_iff.mp taken
    exact linked.quiet (updateHeader_correspondence _)
  | newGroup =>
    cases taken
    exact openGroupDialog_asks linked
  | closeDialog =>
    cases taken
    exact linked.nothing
  | typeGroupName name =>
    cases taken
    exact linked.nothing
  | check index =>
    cases taken
    exact linked.nothing
  | submitGroup =>
    cases taken
    exact submitGroup_asks linked
  | chooseFile file =>
    cases taken
    exact linked.nothing
  | removeFile =>
    cases taken
    exact linked.nothing
  | fileRead upload =>
    obtain ⟨pending, listed, rfl⟩ := Option.map_eq_some_iff.mp taken
    have finished := @finishUpload_asks { page with uploads := page.uploads.eraseIdx upload } _
      linked pending.1 pending.2
    rw [Page.noted, Page.entry, Page.asks, listed]
    exact finished
  | typeMessage text =>
    cases taken
    exact linked.nothing
  | submit =>
    cases taken
    exact submitComposer_asks linked

end

end Page

/-! ## The diary -/

/-- A page, and what has been put down of it. -/
structure Diary where
  /-- The page. -/
  page : Page
  /-- All that has been listed in a conversation, oldest first. -/
  listed : List Entry := []
  /-- Number of entries that a logout has removed. -/
  forgotten : Nat := 0
  /-- All that the gateway has been asked for, oldest first. -/
  asked : List PageRequest := []

namespace Diary

/-- One event. -/
def step [Browser] (diary : Diary) (event : PageEvent) : Option Diary :=
  (diary.page.step event).map fun page =>
    let listed := diary.listed ++ (diary.page.entry event).toList
    { page
      listed
      forgotten := if event.forgets then listed.length else diary.forgotten
      asked := diary.asked ++ diary.page.asks event }

/-- What is left of the entries. -/
def current (diary : Diary) : List Entry := diary.listed.drop diary.forgotten

/-- The private texts that the user has written. -/
def written (diary : Diary) : List (Text × Text) := diary.asked.filterMap PageRequest.privateText

end Diary

/-- A text that the user has sent, with the key of its conversation. -/
def Entry.ownText (entry : Entry) : Option (Text × Text) :=
  match entry.own, entry.message.content with
  | true, .text text => some (entry.key, text)
  | _, _ => none

/-- A message that the user has not sent is the one of the friend in whose conversation it is. -/
def Entry.Placed (entry : Entry) : Prop :=
  entry.own = false → entry.message.direction ≠ .system → ∀ name, entry.key = friendKey name →
    entry.message.sender = name

/-- Two friends have two conversations. -/
theorem friendKey_injective {name name' : Text} (same : friendKey name = friendKey name') :
    name = name' := by
  have same : literal "friend" ++ 0x3a :: name = literal "friend" ++ 0x3a :: name' := same
  exact (List.cons.inj (List.append_cancel_left same)).2

/-- The conversation of a group is with no friend. -/
theorem groupKey_ne_friendKey {conversation : Conversation} (group : conversation.mode = .group)
    (name : Text) : conversationKey conversation ≠ friendKey name := by
  intro same
  have ours : literal Mode.group.name = [0x67, 0x72, 0x6f, 0x75, 0x70] := by decide
  have theirs : literal Mode.friend.name = [0x66, 0x72, 0x69, 0x65, 0x6e, 0x64] := by decide
  unfold friendKey conversationKey at same
  rw [group, ours, theirs] at same
  have first := (List.cons.inj same).1
  contradiction

/-- What is listed in a conversation is in its place. -/
theorem Page.entry_placed [Browser] (page : Page) (event : PageEvent) :
    ∀ entry ∈ page.entry event, entry.Placed := by
  intro entry listed own visible name key
  cases event with
  | message socket notice =>
    cases notice with
    | chatMessage mode sender receiver text =>
      cases listed
      dsimp only [Page.chatEntry] at key ⊢
      split at key
      · exact absurd key (groupKey_ne_friendKey rfl name)
      · exact friendKey_injective key
    | groupChatMessage groupId groupName sender text =>
      cases listed
      exact absurd key (groupKey_ne_friendKey rfl name)
    | fileReceived sender filename data =>
      cases listed
      exact friendKey_injective key
    | groupList groups =>
      have listed : page.heard (.groupList groups) = some entry := listed
      unfold Page.heard at listed
      dsimp only at listed
      split at listed
      · cases listed
        exact absurd rfl visible
      · contradiction
    | _ => contradiction
  | fileRead upload =>
    obtain ⟨pending, _, rfl⟩ := Option.map_eq_some_iff.mp listed
    contradiction
  | submit =>
    obtain ⟨message, _, rfl⟩ := Option.map_eq_some_iff.mp listed
    contradiction
  | _ => contradiction

/-- The requests for a file are no texts. -/
theorem fileRequests_privateText (receiver : Text) (file : SelectedFile) :
    (fileRequests receiver file).filterMap PageRequest.privateText = [] := by
  apply List.filterMap_eq_nil_iff.mpr
  intro request inside
  rcases List.mem_cons.mp inside with rfl | inside
  · rfl
  rcases List.mem_append.mp inside with inside | inside
  · obtain ⟨chunk, _, rfl⟩ := List.mem_map.mp inside
    rfl
  · cases List.mem_singleton.mp inside
    rfl

/-- The texts of the user that are listed are the private ones that are asked for. -/
theorem Page.entry_ownText [Browser] (page : Page) (event : PageEvent) :
    (page.entry event).toList.filterMap Entry.ownText =
      ((page.asks event).filterMap PageRequest.privateText).map fun message =>
        (friendKey message.1, message.2) := by
  cases event with
  | tick =>
    rw [Page.asks]
    split
    · rfl
    · rfl
  | focus =>
    rw [Page.asks]
    split
    · rfl
    · rfl
  | message socket notice =>
    cases notice with
    | authResult action ok message username =>
      rw [Page.asks]
      split
      · rfl
      · rfl
    | groupList groups =>
      rw [Page.entry, Page.heard]
      split
      · rfl
      · rfl
    | _ => rfl
  | auth action =>
    rw [Page.asks]
    split
    · rfl
    · rfl
  | submitGroup =>
    rw [Page.asks]
    split
    · rfl
    · rfl
  | fileRead upload =>
    rw [Page.entry, Page.asks]
    cases page.uploads[upload]? with
    | none => rfl
    | some pending =>
      have nothing := fileRequests_privateText pending.1 pending.2
      rw [Option.elim_some, nothing]
      rfl
  | submit =>
    rw [Page.entry, Page.asks]
    cases page.composed with
    | none => rfl
    | some request => cases request <;> rfl
  | _ => rfl

namespace Diary

variable [Browser]

/-- The diary tells of the page. -/
structure Kept (diary : Diary) : Prop where
  /-- The next requests go behind the others. -/
  linked : diary.page.correspondence.Linked
  /-- What has been forgotten has been listed. -/
  bound : diary.forgotten ≤ diary.listed.length
  /-- The conversations. -/
  conversations : ∀ key, diary.page.conversations key =
    (diary.current.filter fun entry => entry.key = key).map Entry.message
  /-- The requests. -/
  requests : diary.page.correspondence.requests = diary.asked
  /-- The texts of the user. -/
  texts : diary.listed.filterMap Entry.ownText =
    diary.written.map fun message => (friendKey message.1, message.2)
  /-- The texts of the others. -/
  placed : ∀ entry ∈ diary.listed, entry.Placed

/-- Every event is put down. -/
theorem Kept.step {diary diary' : Diary} (kept : diary.Kept) {event : PageEvent}
    (taken : diary.step event = some diary') : diary'.Kept := by
  obtain ⟨page, stepped, rfl⟩ := Option.map_eq_some_iff.mp taken
  have asked := Page.step_correspondence kept.linked stepped
  have same : (diary.page.noted event).requests = diary.page.correspondence.requests := by
    unfold Page.noted
    split
    · rfl
    · cases diary.page.entry event with
      | none => rfl
      | some entry => rfl
  refine ⟨asked.linked, ?_, fun key => ?_, ?_, ?_, ?_⟩
  · dsimp only
    split
    · exact le_rfl
    · have bound := kept.bound
      rw [List.length_append]
      omega
  · have before := kept.conversations key
    have conversations := congrFun asked.conversations key
    change page.conversations key = (diary.page.noted event).conversations key at conversations
    rw [conversations]
    unfold Page.noted current
    dsimp only
    split
    · rw [List.drop_length]
      rfl
    · rw [List.drop_append_of_le_length kept.bound, List.filter_append, List.map_append]
      change _ = (diary.current.filter fun entry => entry.key = key).map Entry.message ++ _
      rw [← before]
      cases diary.page.entry event with
      | none => exact (List.append_nil _).symm
      | some entry =>
        change Function.update diary.page.conversations entry.key
          (diary.page.conversations entry.key ++ [entry.message]) key = _
        by_cases own : entry.key = key
        · subst own
          simp
        · rw [Function.update_of_ne (Ne.symm own)]
          simp [own]
  · exact asked.requests.trans (by rw [same, kept.requests])
  · change (diary.listed ++ (diary.page.entry event).toList).filterMap Entry.ownText =
      ((diary.asked ++ diary.page.asks event).filterMap PageRequest.privateText).map _
    rw [List.filterMap_append, List.filterMap_append, List.map_append, kept.texts,
      Page.entry_ownText]
    rfl
  · intro entry inside
    rcases List.mem_append.mp inside with old | new
    · exact kept.placed entry old
    · exact diary.page.entry_placed event entry (Option.mem_toList.mp new)

/-- A page that has just been loaded. -/
def Begun (diary : Diary) : Prop :=
  ∃ stored authMessage, diary = { page := Page.load stored authMessage }

/-- There is nothing to tell of it. -/
theorem Begun.kept {diary : Diary} (begun : diary.Begun) : diary.Kept := by
  obtain ⟨stored, authMessage, rfl⟩ := begun
  have first : (Page.load stored authMessage).correspondence =
      { conversations := fun _ => [], ws := some 0, created := 1, sockets := fun _ => {},
        objects := [] } := by
    have blank : Function.update (fun _ => ({} : PageSocket)) 0 {} = fun _ => {} :=
      Function.update_eq_self _ _
    exact congrArg (Correspondence.mk (fun _ => []) (some 0) 1 · []) blank
  have linked : (Page.load stored authMessage).correspondence.Linked := by
    rw [first]
    refine ⟨fun socket current => ?_, fun _ _ => rfl⟩
    cases current
    rfl
  refine ⟨linked, le_rfl, fun _ => rfl, ?_, rfl, fun entry listed => ?_⟩
  · dsimp only
    rw [first]
    rfl
  · exact absurd listed List.not_mem_nil

/-- Whatever happens to a page, each of its conversations consists of what has been listed for it since
the last logout, in that order, and what goes over its sockets is what it has been told to ask for; the
private texts of the user are listed as they are asked for, and a message of somebody else is in no
conversation with another friend. -/
theorem reachable_kept {diary : Diary}
    (reached : Reachable Begun (fun diary event diary' => diary.step event = some diary') diary) :
    (∀ key, diary.page.conversations key =
        (diary.current.filter fun entry => entry.key = key).map Entry.message) ∧
      diary.page.correspondence.requests = diary.asked ∧
      diary.listed.filterMap Entry.ownText =
        (diary.written.map fun message => (friendKey message.1, message.2)) ∧
      ∀ entry ∈ diary.listed, entry.Placed := by
  have kept : diary.Kept :=
    Reachable.invariant Kept (fun _ begun => begun.kept) (fun _ _ _ _ kept => kept.step) reached
  exact ⟨kept.conversations, kept.requests, kept.texts, kept.placed⟩

end Diary

/-! ## A run -/

/-- A login, a private message, an answer to it, and the logout. -/
def friendChat : List PageEvent :=
  [.opened 0, .message 0 (.authResult .login true [] (literal "u")),
    .message 0 (.chatMessage "private" (literal "v") (literal "u") (literal "hi")), .pick 0,
    .typeMessage (literal " hello "), .submit, .logout,
    .message 0 (.chatMessage "private" (literal "v") (literal "u") (literal "bye"))]

/-- The diary of them. -/
theorem friendChat_returns : (friendChat.foldlM (@Diary.step asciiBrowser)
    { page := @Page.load asciiBrowser (some (literal "[]")) none }).isSome := by
  decide +kernel

/-- The page after them. -/
def friendDiary : Diary := (friendChat.foldlM (@Diary.step asciiBrowser)
  { page := @Page.load asciiBrowser (some (literal "[]")) none }).get friendChat_returns

/-- The diary tells of this page. -/
theorem reachable_kept_friendChat :
    friendDiary.written = [(literal "v", literal "hello")] ∧ friendDiary.listed.length = 3 ∧
    (∀ key, friendDiary.page.conversations key =
        (friendDiary.current.filter fun entry => entry.key = key).map Entry.message) ∧
      friendDiary.page.correspondence.requests = friendDiary.asked ∧
      friendDiary.listed.filterMap Entry.ownText =
        (friendDiary.written.map fun message => (friendKey message.1, message.2)) ∧
      ∀ entry ∈ friendDiary.listed, entry.Placed :=
  ⟨by decide +kernel, by decide +kernel, @Diary.reachable_kept asciiBrowser friendDiary
    (Reachable.of_foldlM (.start ⟨_, _, rfl⟩) (Option.some_get friendChat_returns).symm)⟩

end MultiUserChat.Web
