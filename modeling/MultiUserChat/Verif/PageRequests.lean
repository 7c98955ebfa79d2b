import MultiUserChat.Verif.FileDelivery
import MultiUserChat.Verif.GatewayNotices
import MultiUserChat.Verif.PageView
/-!
# What the page sends

What goes over a socket of the page is a sequence of batches: a request that is in order, or a whole
file from its beginning to its end with nothing in between. Their texts come from what the user, the
gateway and the storage of the browser gave the page, so they have every property that all of these
have and that trimming keeps. Where the document has no element for the message of the login form,
nobody can register or log in.
-/

namespace MultiUserChat.Web

open Page

/-! ## Batches -/

/-- The texts of a request. -/
def PageRequest.texts : PageRequest → List Text
  | auth _ username password => [username, password]
  | logout => []
  | onlineList => []
  | groupList => []
  | listenUdp => []
  | createGroup name members => name :: members
  | sendPrivate receiver text => [receiver, text]
  | sendGroupMessage groupId text => [groupId, text]
  | sendFileBegin receiver filename _ => [receiver, filename]
  | sendFileChunk receiver _ => [receiver]
  | sendFileEnd receiver => [receiver]

/-- A request that goes alone is in order: what has to be given is given, and there is no white space
around what the user wrote. The login form needs its message. -/
def PageRequest.Proper (form : Bool) : PageRequest → Prop
  | auth _ _ _ => form = true
  | logout => True
  | onlineList => True
  | groupList => True
  | listenUdp => True
  | createGroup name members => name ≠ [] ∧ trim name = name ∧ members ≠ [] ∧ [] ∉ members
  | sendPrivate receiver text => receiver ≠ [] ∧ text ≠ [] ∧ trim text = text
  | sendGroupMessage groupId text => groupId ≠ [] ∧ text ≠ [] ∧ trim text = text
  | sendFileBegin _ _ _ => False
  | sendFileChunk _ _ => False
  | sendFileEnd _ => False

/-- What is sent at once, with or without the login form. -/
inductive Batch (holds : Text → Prop) (form : Bool) : List PageRequest → Prop
  /-- A request. -/
  | one {request : PageRequest} (proper : request.Proper form)
      (texts : ∀ text ∈ request.texts, holds text) : Batch holds form [request]
  /-- A file. -/
  | file {receiver : Text} {file : SelectedFile} (named : receiver ≠ [])
      (small : file.content.length ≤ fileTransferMaxBytes) (target : holds receiver)
      (name : holds file.name) : Batch holds form (fileRequests receiver file)

/-- Batches that follow each other. -/
def Batched (holds : Text → Prop) (form : Bool) (requests : List PageRequest) : Prop :=
  ∃ batches : List (List PageRequest), requests = batches.flatten ∧
    ∀ batch ∈ batches, Batch holds form batch

section

variable {holds : Text → Prop} {form : Bool}

/-- One batch. -/
theorem Batch.batched {requests : List PageRequest} (batch : Batch holds form requests) :
    Batched holds form requests :=
  ⟨[requests], by simp, by simpa using batch⟩

/-- No batch. -/
theorem batched_nil : Batched holds form [] := ⟨[], rfl, by simp⟩

/-- Batches behind batches. -/
theorem Batched.append {requests requests' : List PageRequest} (first : Batched holds form requests)
    (second : Batched holds form requests') : Batched holds form (requests ++ requests') := by
  obtain ⟨batches, rfl, each⟩ := first
  obtain ⟨batches', rfl, each'⟩ := second
  refine ⟨batches ++ batches', List.flatten_append.symm, ?_⟩
  intro batch inside
  exact (List.mem_append.mp inside).elim (each batch) (each' batch)

/-- A request in order in front of batches. -/
theorem Batched.cons {request : PageRequest} {requests : List PageRequest}
    (proper : request.Proper form) (texts : ∀ text ∈ request.texts, holds text)
    (later : Batched holds form requests) : Batched holds form (request :: requests) :=
  (Batch.one proper texts).batched.append later

/-- The requests after a login. -/
theorem batched_loginRequests : Batched holds form loginRequests :=
  .cons trivial (by simp [PageRequest.texts]) (.cons trivial (by simp [PageRequest.texts])
    (.cons trivial (by simp [PageRequest.texts]) batched_nil))

/-! ## Sockets -/

/-- What goes over a socket: what has been sent and what is put off. -/
def PageSocket.stream (record : PageSocket) : List PageRequest := record.sent ++ record.waiting

/-- Send some requests at once, or put them off. -/
def PageSocket.submitAll (requests : List PageRequest) (record : PageSocket) : PageSocket :=
  if record.readyState = .opened then { record with sent := record.sent ++ requests }
  else { record with waiting := record.waiting ++ requests }

/-- One request behind the others. -/
theorem PageSocket.submitAll_cons (request : PageRequest) (requests : List PageRequest)
    (record : PageSocket) :
    (record.submit request).submitAll requests = record.submitAll (request :: requests) := by
  unfold PageSocket.submitAll PageSocket.submit
  by_cases opened : record.readyState = .opened
  · rw [if_pos opened, if_pos opened]
    simp [opened]
  · rw [if_neg opened, if_neg opened]
    simp [opened]

/-- Nothing more. -/
theorem PageSocket.submitAll_nil (record : PageSocket) : record.submitAll [] = record := by
  unfold PageSocket.submitAll
  split
  · rw [List.append_nil]
  · rw [List.append_nil]

/-- The state of a socket stays when something is sent. -/
theorem PageSocket.submit_readyState (request : PageRequest) (record : PageSocket) :
    (record.submit request).readyState = record.readyState := by
  unfold PageSocket.submit
  split
  · rfl
  · rfl

/-- Requests that are sent one after the other go over one socket. -/
theorem Page.sendAll_live {page : Page} {socket : Nat} (live : page.liveSocket = some socket)
    (requests : List PageRequest) :
    page.sendAll requests = page.updateSocket socket (PageSocket.submitAll requests) := by
  induction requests generalizing page with
  | nil =>
    have same : page.updateSocket socket (PageSocket.submitAll []) = page := by
      unfold Page.updateSocket
      rw [PageSocket.submitAll_nil, Function.update_eq_self]
    exact same.symm
  | cons request requests ih =>
    have connected : page.connectWs = (page, socket) := by rw [Page.connectWs, live]
    have sent : page.send request = page.updateSocket socket (PageSocket.submit request) := by
      rw [Page.send, connected]
    have live' : (page.send request).liveSocket = some socket := by
      rw [sent]
      obtain ⟨current, usable⟩ := Option.filter_eq_some_iff.mp live
      apply Option.filter_eq_some_iff.mpr
      refine ⟨current, ?_⟩
      have kept := PageSocket.submit_readyState request (page.sockets socket)
      simpa [Page.updateSocket, kept] using usable
    have later := ih live'
    rw [Page.sendAll, List.foldl_cons]
    refine later.trans ?_
    rw [sent, Page.updateSocket, Page.updateSocket, Page.updateSocket]
    simp only [Function.update_self, Function.update_idem, PageSocket.submitAll_cons]

/-! ## Texts -/

/-- What holds of every text that the page gets, holds of what it makes of them. -/
structure Kept (holds : Text → Prop) : Prop where
  /-- The empty text. -/
  empty : holds []
  /-- Trimming. -/
  trimmed : ∀ text, holds text → holds (trim text)
  /-- The id of a conversation with everybody. -/
  legacy : holds (literal "legacy-broadcast")

/-- The texts of the page that it may send hold. -/
structure Page.Texts (holds : Text → Prop) (page : Page) : Prop where
  /-- The login form. -/
  credentials : holds page.usernameInput ∧ holds page.passwordInput
  /-- The composer. -/
  message : holds page.messageInput
  /-- The file that is selected. -/
  file : ∀ file ∈ page.selectedFile, holds file.name
  /-- The files that are being read, which are small and have receivers. -/
  uploads : ∀ upload ∈ page.uploads, upload.1 ≠ [] ∧ holds upload.1 ∧ holds upload.2.name ∧
    upload.2.content.length ≤ fileTransferMaxBytes
  /-- The name of a new group. -/
  group : holds page.dialog.name
  /-- Those who may be its members. -/
  options : ∀ option ∈ page.dialog.options, option.1 ≠ [] ∧ holds option.1
  /-- The conversation that is selected. -/
  selected : holds page.selectedConversation.id
  /-- The conversations that can be selected. -/
  roster : ∀ button ∈ page.roster, holds button.1.id
  /-- The groups. -/
  groups : ∀ group ∈ page.groups, holds group.id
  /-- Who is online. -/
  online : ∀ name ∈ page.onlineUsers, holds name
  /-- The contacts. -/
  contacts : ∀ name ∈ page.knownContacts, holds name
  /-- The user. -/
  user : holds page.currentUsername

/-- The texts that an event gives the page. -/
def PageEvent.given : PageEvent → List Text
  | message _ notice => notice.names
  | typeAuth username password => [username, password]
  | typeGroupName name => [name]
  | chooseFile file => file.toList.map (·.name)
  | typeMessage text => [text]
  | _ => []

/-! ## The invariant -/

/-- What goes over the sockets is in order, and its texts hold. -/
structure Page.Orderly (holds : Text → Prop) (form : Bool) (page : Page) : Prop where
  /-- The texts of the page hold. -/
  texts : page.Texts holds
  /-- What goes over a socket is a sequence of batches. -/
  batched : ∀ socket, Batched holds form (page.sockets socket).stream
  /-- Nothing is put off when a socket is open. -/
  flushed : ∀ socket, (page.sockets socket).readyState = .opened → (page.sockets socket).waiting = []
  /-- The login form has its message or not. -/
  message : page.authMessage.isSome = form

namespace Page.Orderly

variable {page : Page}

/-- Nothing is sent, and the login form stays what it is. -/
theorem quiet (orderly : page.Orderly holds form) {page' : Page} (texts : page'.Texts holds)
    (sockets : page'.sockets = page.sockets)
    (message : page'.authMessage.isSome = page.authMessage.isSome) : page'.Orderly holds form where
  texts
  batched := sockets ▸ orderly.batched
  flushed := sockets ▸ orderly.flushed
  message := message.trans orderly.message

/-- One socket changes. -/
theorem updateSocket (orderly : page.Orderly holds form) (socket : Nat)
    {change : PageSocket → PageSocket}
    (batched : Batched holds form (change (page.sockets socket)).stream)
    (flushed : (change (page.sockets socket)).readyState = .opened →
      (change (page.sockets socket)).waiting = []) :
    (page.updateSocket socket change).Orderly holds form where
  texts := { orderly.texts with }
  batched other := by
    change Batched holds form (Function.update page.sockets socket _ other).stream
    by_cases same : other = socket
    · subst same
      rwa [Function.update_self]
    · rw [Function.update_of_ne same]
      exact orderly.batched other
  flushed other := by
    change (Function.update page.sockets socket _ other).readyState = .opened →
      (Function.update page.sockets socket _ other).waiting = []
    by_cases same : other = socket
    · subst same
      rwa [Function.update_self]
    · rw [Function.update_of_ne same]
      exact orderly.flushed other
  message := orderly.message

/-- Batches are sent, or put off. -/
theorem submitAll (orderly : page.Orderly holds form) (socket : Nat) {requests : List PageRequest}
    (batched : Batched holds form requests) :
    (page.updateSocket socket (PageSocket.submitAll requests)).Orderly holds form := by
  have before := orderly.batched socket
  have flushed := orderly.flushed socket
  apply orderly.updateSocket socket
  · unfold PageSocket.submitAll
    split
    · rename_i opened
      rw [PageSocket.stream, flushed opened, List.append_nil] at before
      rw [PageSocket.stream]
      dsimp only
      rw [flushed opened, List.append_nil]
      exact before.append batched
    · have behind := before.append batched
      rwa [PageSocket.stream, List.append_assoc] at behind
  · unfold PageSocket.submitAll
    split
    · exact flushed
    · exact fun opened => by contradiction

/-- Batches are sent. -/
theorem sendAll (orderly : page.Orderly holds form) {requests : List PageRequest}
    (batched : Batched holds form requests) : (page.sendAll requests).Orderly holds form := by
  cases live : page.liveSocket with
  | some socket =>
    rw [Page.sendAll_live live]
    exact orderly.submitAll socket batched
  | none =>
    cases requests with
    | nil => exact orderly
    | cons request requests =>
      -- The first of them creates a socket, which the others find.
      have connected : page.connectWs.1.Orderly holds form := by
        rw [Page.connectWs, live]
        have created : (page.updateSocket page.created fun _ => {}).Orderly holds form :=
          orderly.updateSocket page.created batched_nil fun _ => rfl
        exact created.quiet { created.texts with } rfl rfl
      have live' : page.connectWs.1.liveSocket = some page.created := by
        rw [Page.connectWs, live]
        apply Option.filter_eq_some_iff.mpr
        refine ⟨rfl, ?_⟩
        simp
      have same : page.sendAll (request :: requests) = page.connectWs.1.sendAll (request :: requests) := by
        have first : page.send request = page.connectWs.1.send request := by
          have again : page.connectWs.1.connectWs = page.connectWs := by
            rw [Page.connectWs, live']
            rw [Page.connectWs, live]
          rw [Page.send, Page.send, again]
        rw [Page.sendAll, Page.sendAll, List.foldl_cons, List.foldl_cons, first]
      rw [same, Page.sendAll_live live']
      exact connected.submitAll page.created batched

/-- One request in order. -/
theorem send (orderly : page.Orderly holds form) {request : PageRequest}
    (proper : request.Proper form) (texts : ∀ text ∈ request.texts, holds text) :
    (page.send request).Orderly holds form := orderly.sendAll (Batch.one proper texts).batched

/-- One page or the other. -/
theorem ite {condition : Prop} [Decidable condition] {page' : Page} (yes : page.Orderly holds form)
    (no : page'.Orderly holds form) :
    Page.Orderly holds form (if condition then page else page') := by
  split
  · exact yes
  · exact no

/-! ## Quiet functions -/

/-- The message of the login form. -/
theorem endWithAuthMessage (orderly : page.Orderly holds form) (text : Text) (level : String) :
    (page.endWithAuthMessage text level).Orderly holds form := by
  unfold Page.endWithAuthMessage setAuthMessage
  cases set : page.authMessage with
  | none => exact orderly
  | some message =>
    exact orderly.quiet { orderly.texts with } rfl (congrArg Option.isSome set).symm

/-- A toast. -/
theorem addToast (orderly : page.Orderly holds form) (text : Text) (level : String) :
    (page.addToast text level).Orderly holds form := orderly.quiet { orderly.texts with } rfl rfl

/-- The line below the name of the conversation. -/
theorem setConnectionStatus (orderly : page.Orderly holds form) (text : Text) (online : Bool) :
    (page.setConnectionStatus text online).Orderly holds form :=
  orderly.quiet { orderly.texts with } rfl rfl

/-- The dialog is closed. -/
theorem closeGroupDialog (orderly : page.Orderly holds form) :
    page.closeGroupDialog.Orderly holds form := orderly.quiet { orderly.texts with } rfl rfl

/-- The header. -/
theorem updateHeader (orderly : page.Orderly holds form) : page.updateHeader.Orderly holds form := by
  obtain ⟨online, status, header⟩ := page.updateHeader_eq
  rw [header]
  exact orderly.quiet { orderly.texts with } rfl rfl

/-- The message feed. -/
theorem renderMessages (orderly : page.Orderly holds form) :
    page.renderMessages.Orderly holds form := orderly.quiet { orderly.texts with } rfl rfl

/-- A message in a conversation. -/
theorem pushMessage (orderly : page.Orderly holds form) (direction : Direction) (sender : Text)
    (content : Content) (conversation : Conversation) :
    (page.pushMessage direction sender content conversation).Orderly holds form := by
  unfold Page.pushMessage
  dsimp only
  apply ite
  · exact orderly.quiet { orderly.texts with } rfl rfl
  · exact orderly.quiet { orderly.texts with } rfl rfl

/-- The selected friend is online or not. -/
theorem withOnline (orderly : page.Orderly holds form) (online : Bool) :
    Page.Orderly holds form
      { page with selectedConversation := { page.selectedConversation with online } } :=
  orderly.quiet { orderly.texts with selected := orderly.texts.selected } rfl rfl

/-- Another conversation is selected. -/
theorem withConversation (orderly : page.Orderly holds form) {conversation : Conversation}
    (id : holds conversation.id) :
    Page.Orderly holds form { page with selectedConversation := conversation } :=
  orderly.quiet { orderly.texts with selected := id } rfl rfl

/-- There are no groups, and no conversation is selected. -/
theorem withoutGroups (orderly : page.Orderly holds form) (kept : Kept holds) :
    Page.Orderly holds form { page with groups := [], selectedConversation := emptyConversation } :=
  orderly.quiet { orderly.texts with groups := by simp, selected := kept.empty } rfl rfl

/-- One of the views. -/
theorem withViews (orderly : page.Orderly holds form) (currentUser : Text)
    (authHidden chatHidden : Bool) :
    Page.Orderly holds form { page with currentUser, authHidden, chatHidden } :=
  orderly.quiet { orderly.texts with } rfl rfl

/-- The timer. -/
theorem withTimer (orderly : page.Orderly holds form) (refreshing : Bool) :
    Page.Orderly holds form { page with refreshing } := orderly.quiet { orderly.texts with } rfl rfl

/-- The contacts without repetitions. -/
theorem saveKnownContacts (orderly : page.Orderly holds form) :
    page.saveKnownContacts.Orderly holds form := by
  refine orderly.quiet { orderly.texts with contacts := fun name inside => ?_ } rfl rfl
  have known := List.mem_eraseDups.mp inside
  exact orderly.texts.contacts name (List.mem_filter.mp known).1

/-- One more contact. -/
theorem withContact (orderly : page.Orderly holds form) {name : Text} (named : holds name) :
    Page.Orderly holds form { page with knownContacts := page.knownContacts ++ [name] } := by
  refine orderly.quiet { orderly.texts with contacts := fun other inside => ?_ } rfl rfl
  rcases List.mem_append.mp inside with inside | inside
  · exact orderly.texts.contacts other inside
  · rwa [List.mem_singleton.mp inside]

/-- More contacts. -/
theorem addContacts (orderly : page.Orderly holds form) {names : List Text}
    (each : ∀ name ∈ names, holds name) : (names.foldl addContact page).Orderly holds form := by
  induction names generalizing page with
  | nil => exact orderly
  | cons name names ih =>
    obtain ⟨here, later⟩ := List.forall_mem_cons.mp each
    apply ih ?_ later
    unfold addContact
    exact ite orderly (orderly.withContact here)

/-- A group. -/
theorem upsertGroup (orderly : page.Orderly holds form) {group : Group} (id : holds group.id) :
    (page.upsertGroup group).Orderly holds form := by
  unfold Page.upsertGroup
  split
  · exact orderly
  split
  · refine orderly.quiet { orderly.texts with groups := fun other inside => ?_ } rfl rfl
    rcases List.mem_or_eq_of_mem_set inside with inside | rfl
    · exact orderly.texts.groups other inside
    · exact id
  · refine orderly.quiet { orderly.texts with groups := fun other inside => ?_ } rfl rfl
    rcases List.mem_append.mp inside with inside | inside
    · exact orderly.texts.groups other inside
    · rwa [List.mem_singleton.mp inside]

/-- Those who may be members of a new group. -/
theorem renderGroupMemberOptions (orderly : page.Orderly holds form) :
    page.renderGroupMemberOptions.Orderly holds form := by
  refine orderly.quiet { orderly.texts with options := fun option inside => ?_ } rfl rfl
  obtain ⟨name, candidate, rfl⟩ := List.mem_map.mp inside
  obtain ⟨online, given⟩ := List.mem_filter.mp candidate
  exact ⟨(of_decide_eq_true given).1, orderly.texts.online name online⟩

variable [Browser]

/-- The roster. -/
theorem renderRoster (orderly : page.Orderly holds form) : page.renderRoster.Orderly holds form := by
  refine orderly.quiet { orderly.texts with roster := fun button inside => ?_ } rfl rfl
  obtain ⟨item, listed, rfl⟩ := List.mem_map.mp inside
  unfold rosterItems at listed
  split at listed
  · obtain ⟨index, group, found, rfl⟩ := mem_mapIdx_of listed
    exact orderly.texts.groups group (List.mem_filter.mp found).1
  · obtain ⟨index, name, found, rfl⟩ := mem_mapIdx_of listed
    have friend := (List.mem_filter.mp found).1
    simp only [friendNames] at friend
    split at friend
    · rw [List.mem_singleton.mp friend]
      exact orderly.texts.user
    · rw [List.mem_mergeSort] at friend
      have known := List.mem_eraseDups.mp (List.mem_filter.mp friend).1
      exact (List.mem_append.mp known).elim (orderly.texts.online name)
        (orderly.texts.contacts name)

/-- What renders everything. -/
theorem rendered (orderly : page.Orderly holds form) :
    page.updateHeader.renderRoster.renderMessages.Orderly holds form :=
  orderly.updateHeader.renderRoster.renderMessages

/-! ## Messages of the gateway -/

/-- The chat view. -/
theorem showChat (orderly : page.Orderly holds form) (kept : Kept holds) {username : Text}
    (named : holds username) : (page.showChat username).Orderly holds form := by
  have entered : Page.Orderly holds form { page with currentUsername := username } :=
    orderly.quiet { orderly.texts with user := named } rfl rfl
  have known : Page.Orderly holds form
      (if username ∈ page.knownContacts then { page with currentUsername := username }
      else
        { page with currentUsername := username, knownContacts := username :: page.knownContacts }) := by
    apply ite entered
    exact entered.quiet
      { entered.texts with contacts := List.forall_mem_cons.mpr ⟨named, entered.texts.contacts⟩ }
      rfl rfl
  have shown := (known.saveKnownContacts.withViews (literal "当前用户：" ++ username) true
    false).setConnectionStatus (literal "已登录") true
  exact (shown.withoutGroups kept).rendered.withTimer true

/-- A list of online users. -/
theorem renderOnlineUsers (orderly : page.Orderly holds form) {users : List Text}
    (each : ∀ name ∈ users, holds name) : (page.renderOnlineUsers users).Orderly holds form := by
  have unique : ∀ name ∈ uniqueNames users, holds name := fun name inside =>
    each name (List.mem_filter.mp (List.mem_eraseDups.mp inside)).1
  have informed : Page.Orderly holds form { page with onlineUsers := uniqueNames users } :=
    orderly.quiet { orderly.texts with online := unique } rfl rfl
  have saved := (informed.addContacts unique).saveKnownContacts
  unfold Page.renderOnlineUsers
  dsimp only
  apply renderRoster
  apply updateHeader
  apply ite
  · apply renderGroupMemberOptions
    exact ite (saved.withOnline _) saved
  · exact ite (saved.withOnline _) saved

/-- A list of groups. -/
theorem receiveGroupList (orderly : page.Orderly holds form) (kept : Kept holds)
    {groups : List Group} (each : ∀ group ∈ groups, holds group.id) :
    (page.receiveGroupList groups).Orderly holds form := by
  have listed : Page.Orderly holds form { page with groups } :=
    orderly.quiet { orderly.texts with groups := each } rfl rfl
  unfold Page.receiveGroupList
  dsimp only
  apply rendered
  apply ite _ listed
  exact (listed.pushMessage .system [] (.text (literal "当前群聊已结束"))
    page.selectedConversation).withConversation kept.empty

/-- A group event. -/
theorem receiveGroupEvent (orderly : page.Orderly holds form) (event : Text) {group : Group}
    (id : holds group.id) : (page.receiveGroupEvent event group).Orderly holds form := by
  have listed := orderly.upsertGroup id
  have selected : Page.Orderly holds form
      (if (page.upsertGroup group).selectedConversation.mode = .group ∧
          (page.upsertGroup group).selectedConversation.id = group.id then
        { page.upsertGroup group with
          selectedConversation := ⟨.group, group.id, group.name, true⟩ }
      else page.upsertGroup group) := ite (listed.withConversation id) listed
  have parts : page.receiveGroupEvent event group =
      (announce event group.name
        (if (page.upsertGroup group).selectedConversation.mode = .group ∧
            (page.upsertGroup group).selectedConversation.id = group.id then
          { page.upsertGroup group with
            selectedConversation := ⟨.group, group.id, group.name, true⟩ }
        else page.upsertGroup group)).renderRoster.updateHeader := rfl
  rw [parts]
  apply updateHeader
  apply renderRoster
  unfold announce
  dsimp only
  apply ite
  · apply addToast
    exact ite (selected.addToast _ _).closeGroupDialog selected
  · exact ite (selected.addToast _ _).closeGroupDialog selected

/-- A message of a conversation. -/
theorem receiveChat (orderly : page.Orderly holds form) {conversation : Conversation}
    (id : holds conversation.id) {sender : Text} (from_ : holds sender) (text : Text) :
    (page.receiveChat conversation sender text).Orderly holds form := by
  have first : Page.Orderly holds form
      (if conversation.mode = .group ∧ ¬ page.groups.any (·.id = conversation.id) then
        (page.upsertGroup ⟨conversation.id, conversation.name, none, some []⟩).renderRoster
      else page) := ite (orderly.upsertGroup id).renderRoster orderly
  unfold Page.receiveChat
  dsimp only
  apply pushMessage
  apply ite first
  apply renderRoster
  apply saveKnownContacts
  exact first.withContact from_

/-- A file that was received. -/
theorem receiveFile (orderly : page.Orderly holds form) (sender filename dataBase64 : Text)
    (size : Nat) : (page.receiveFile sender filename dataBase64 size).Orderly holds form := by
  unfold Page.receiveFile
  split
  · exact orderly
  · apply pushMessage
    exact orderly.quiet { orderly.texts with } rfl rfl

omit [Browser] in
/-- The end of a session. -/
theorem receiveLoggedOut (orderly : page.Orderly holds form) (kept : Kept holds) (message : Text) :
    (page.receiveLoggedOut message).Orderly holds form := by
  unfold Page.receiveLoggedOut Page.showAuth
  dsimp only
  apply endWithAuthMessage
  exact orderly.quiet
    { orderly.texts with
      user := kept.empty
      groups := by simp
      selected := kept.empty
      roster := by simp } rfl rfl

/-- A message of the gateway. -/
theorem handleGatewayMessage (orderly : page.Orderly holds form) (kept : Kept holds) {notice : Notice}
    (names : ∀ name ∈ notice.names, holds name) :
    (page.handleGatewayMessage notice).Orderly holds form := by
  cases notice with
  | authResult action ok message username =>
    rw [Page.handleGatewayMessage]
    apply ite
    · have named := names username (by simp [Notice.names])
      exact ((orderly.showChat kept named).addToast _ _).sendAll batched_loginRequests
    · exact orderly.endWithAuthMessage _ _
  | onlineList users => exact orderly.renderOnlineUsers names
  | groupList groups =>
    apply orderly.receiveGroupList kept
    intro group inside
    exact names group.id (List.mem_map_of_mem inside)
  | groupEvent event group =>
    exact orderly.receiveGroupEvent event (names group.id (by simp [Notice.names]))
  | chatMessage mode sender receiver text =>
    have from_ := names sender (by simp [Notice.names])
    apply orderly.receiveChat _ from_
    split
    · exact kept.legacy
    · exact from_
  | groupChatMessage groupId groupName sender text =>
    have from_ := names sender (by simp [Notice.names])
    apply orderly.receiveChat _ from_
    unfold groupConversation
    dsimp only
    split
    · exact kept.legacy
    · exact names groupId (by simp [Notice.names])
  | fileProgress sender filename receivedSize expectedSize => exact orderly.addToast _ _
  | fileReceived sender filename data => exact orderly.receiveFile _ _ _ _
  | status status ok reason message =>
    rw [Page.handleGatewayMessage]
    apply ite (orderly.receiveLoggedOut kept message)
    apply addToast
    exact ite (orderly.setConnectionStatus _ _) orderly
  | error status ok message =>
    rw [Page.handleGatewayMessage]
    exact ite (orderly.endWithAuthMessage _ _) (orderly.addToast _ _)

/-! ## The user -/

omit [Browser] in
/-- The listeners of the login form. -/
theorem submitAuth (orderly : page.Orderly holds form) (action : AuthAction) :
    (page.submitAuth action).Orderly holds form := by
  have message := orderly.message
  unfold Page.submitAuth setAuthMessage
  cases set : page.authMessage with
  | none => exact orderly
  | some earlier =>
    rw [set] at message
    have told (text : Text) :
        Page.Orderly holds form { page with authMessage := some (text, "info") } :=
      orderly.quiet { orderly.texts with } rfl (congrArg Option.isSome set).symm
    have proper : (PageRequest.auth action page.usernameInput page.passwordInput).Proper form :=
      message.symm
    have credentials := orderly.texts.credentials
    exact (told _).send proper (by simpa [PageRequest.texts] using credentials)

omit [Browser] in
/-- The listener of the timer. -/
theorem refresh (orderly : page.Orderly holds form) : page.refresh.Orderly holds form := by
  unfold Page.refresh
  apply ite orderly
  exact orderly.sendAll (.cons trivial (by simp [PageRequest.texts])
    (.cons trivial (by simp [PageRequest.texts]) batched_nil))

/-- The listener of a button of the roster. -/
theorem pick {page' : Page} (orderly : page.Orderly holds form) {index : Nat}
    (picked : page.pick index = some page') : page'.Orderly holds form := by
  obtain ⟨button, found, rfl⟩ := Option.map_eq_some_iff.mp picked
  have id := orderly.texts.roster button (List.mem_of_getElem? found)
  apply rendered
  exact orderly.quiet { orderly.texts with selected := id } rfl rfl

omit [Browser] in
/-- The dialog for a new group. -/
theorem openGroupDialog (orderly : page.Orderly holds form) (kept : Kept holds) :
    page.openGroupDialog.Orderly holds form := by
  have asked : (page.send .onlineList).Orderly holds form :=
    orderly.send trivial (by simp [PageRequest.texts])
  have emptied : Page.Orderly holds form
      (Page.setGroupFormMessage { page.send .onlineList with
        dialog := { (page.send .onlineList).dialog with name := [] } } [] "info") :=
    asked.quiet { asked.texts with group := kept.empty, options := asked.texts.options } rfl rfl
  have filled := emptied.renderGroupMemberOptions
  exact filled.quiet { filled.texts with } rfl rfl

omit [Browser] in
/-- The form of the dialog. -/
theorem submitGroup (orderly : page.Orderly holds form) (kept : Kept holds) :
    page.submitGroup.Orderly holds form := by
  have told (text : Text) (level : String) :
      (page.setGroupFormMessage text level).Orderly holds form :=
    orderly.quiet { orderly.texts with } rfl rfl
  unfold Page.submitGroup
  dsimp only
  split
  · exact told _ _
  rename_i named
  split
  · exact told _ _
  rename_i chosen
  have options : ∀ member ∈ (page.dialog.options.filter Prod.snd).map Prod.fst,
      member ≠ [] ∧ holds member := by
    intro member inside
    obtain ⟨option, listed, rfl⟩ := List.mem_map.mp inside
    exact orderly.texts.options option (List.mem_filter.mp listed).1
  apply (told _ _).send
  · refine ⟨named, trim_trim _, chosen, fun inside => ?_⟩
    exact (options [] inside).1 rfl
  · intro text inside
    rcases List.mem_cons.mp inside with rfl | inside
    · exact kept.trimmed _ orderly.texts.group
    · exact (options text inside).2

/-- The preview of the file. -/
theorem updateFilePreview (orderly : page.Orderly holds form) :
    page.updateFilePreview.Orderly holds form := orderly.quiet { orderly.texts with } rfl rfl

omit [Browser] in
/-- No file is selected. -/
theorem withoutFile (orderly : page.Orderly holds form) :
    Page.Orderly holds form { page with selectedFile := none } :=
  orderly.quiet { orderly.texts with file := by simp } rfl rfl

/-- The rest of the sending of a file. -/
theorem finishUpload (orderly : page.Orderly holds form) {receiver : Text} {file : SelectedFile}
    (named : receiver ≠ []) (small : file.content.length ≤ fileTransferMaxBytes)
    (target : holds receiver) (name : holds file.name) :
    (page.finishUpload receiver file).Orderly holds form := by
  have sent := orderly.sendAll (Batch.file named small target name).batched
  have told := (sent.pushMessage .outgoing [] (.file file.name file.content.length none)
    (page.sendAll (fileRequests receiver file)).selectedConversation).addToast
      (literal "文件发送请求已提交：" ++ file.name) "info"
  exact told.withoutFile.updateFilePreview

omit [Browser] in
/-- The composer with a text. -/
theorem submitText (orderly : page.Orderly holds form) (kept : Kept holds) :
    page.submitText.Orderly holds form := by
  have selected := orderly.texts.selected
  have message := kept.trimmed _ orderly.texts.message
  unfold Page.submitText
  dsimp only
  split
  · exact orderly.addToast _ _
  rename_i given
  split
  · split
    · exact orderly.addToast _ _
    · rename_i named
      have sent : (page.send (.sendGroupMessage page.selectedConversation.id
          (trim page.messageInput))).Orderly holds form :=
        orderly.send ⟨named, given, trim_trim _⟩ (by simp [PageRequest.texts, selected, message])
      exact sent.quiet { sent.texts with message := kept.empty } rfl rfl
  · exact orderly.addToast _ _
  · split
    · exact orderly.addToast _ _
    · rename_i other
      have sent : (page.send (.sendPrivate page.selectedConversation.id
          (trim page.messageInput))).Orderly holds form :=
        orderly.send ⟨fun none => other (.inl none), given, trim_trim _⟩
          (by simp [PageRequest.texts, selected, message])
      have told := sent.pushMessage .outgoing [] (.text (trim page.messageInput))
        page.selectedConversation
      exact told.quiet { told.texts with message := kept.empty } rfl rfl

omit [Browser] in
/-- The composer with a file. -/
theorem submitSelectedFile (orderly : page.Orderly holds form) {receiver : Text}
    (target : holds receiver) {file : SelectedFile} (name : holds file.name) :
    (page.submitSelectedFile receiver file).Orderly holds form := by
  unfold Page.submitSelectedFile
  split
  · exact orderly.addToast _ _
  rename_i other
  split
  · exact orderly.addToast _ _
  rename_i small
  refine orderly.quiet { orderly.texts with uploads := fun upload inside => ?_ } rfl rfl
  rcases List.mem_append.mp inside with inside | inside
  · exact orderly.texts.uploads upload inside
  · rw [List.mem_singleton.mp inside]
    exact ⟨fun none => other (.inl none), target, name, not_lt.mp small⟩

omit [Browser] in
/-- The composer. -/
theorem submitComposer (orderly : page.Orderly holds form) (kept : Kept holds) :
    page.submitComposer.Orderly holds form := by
  unfold Page.submitComposer
  split
  · rename_i file chosen
    apply orderly.submitSelectedFile _ (orderly.texts.file file chosen)
    split
    · exact orderly.texts.selected
    · exact kept.empty
  · exact orderly.submitText kept

/-! ## The sockets -/

omit [Browser] in
/-- The listeners of `open`. -/
theorem onOpen (orderly : page.Orderly holds form) (socket : Nat) :
    (page.onOpen socket).Orderly holds form := by
  have told := orderly.endWithAuthMessage (literal "网关已连接") "info"
  have parts : page.onOpen socket =
      (page.endWithAuthMessage (literal "网关已连接") "info").updateSocket socket fun record =>
        { readyState := .opened, waiting := [], sent := record.sent ++ record.waiting } := by
    unfold Page.onOpen Page.endWithAuthMessage setAuthMessage Page.updateSocket
    cases set : page.authMessage with
    | none => simp [set]
    | some message => simp
  rw [parts]
  apply told.updateSocket socket
  · have before := told.batched socket
    rwa [PageSocket.stream, List.append_nil]
  · exact fun _ => rfl

omit [Browser] in
/-- A socket that is not open any more. -/
theorem closeSocket (orderly : page.Orderly holds form) (socket : Nat) {readyState : ReadyState}
    (other : readyState ≠ .opened) :
    (page.updateSocket socket fun record => { record with readyState }).Orderly holds form :=
  orderly.updateSocket socket (orderly.batched socket) fun opened => absurd opened other

omit [Browser] in
/-- The listener of `close`. -/
theorem onClose (orderly : page.Orderly holds form) (socket : Nat) :
    (page.onClose socket).Orderly holds form := by
  have closed :
      (page.updateSocket socket fun record => { record with readyState := .closed }).Orderly holds form :=
    orderly.closeSocket socket (by decide)
  unfold Page.onClose
  dsimp only
  apply ite
  · exact closed.endWithAuthMessage _ _
  · exact (closed.addToast _ _).setConnectionStatus _ _

/-! ## What the user does -/

omit [Browser] in
/-- The listener of the socket's `error`. -/
theorem onError (orderly : page.Orderly holds form) : page.onError.Orderly holds form :=
  ite (orderly.endWithAuthMessage _ _) (orderly.addToast _ _)

/-- Another tab. -/
theorem setTab (orderly : page.Orderly holds form) (tab : Tab) : (page.setTab tab).Orderly holds form := by
  apply renderRoster
  exact orderly.quiet { orderly.texts with } rfl rfl

/-- A search. -/
theorem withSearch (orderly : page.Orderly holds form) (search : Text) :
    (Page.renderRoster { page with search }).Orderly holds form := by
  apply renderRoster
  exact orderly.quiet { orderly.texts with } rfl rfl

omit [Browser] in
/-- The input of the login form. -/
theorem withCredentials (orderly : page.Orderly holds form) {username password : Text}
    (credentials : holds username ∧ holds password) :
    Page.Orderly holds form { page with usernameInput := username, passwordInput := password } :=
  orderly.quiet { orderly.texts with credentials } rfl rfl

omit [Browser] in
/-- The input of the composer. -/
theorem withMessage (orderly : page.Orderly holds form) {text : Text} (message : holds text) :
    Page.Orderly holds form { page with messageInput := text } :=
  orderly.quiet { orderly.texts with message } rfl rfl

omit [Browser] in
/-- The name of a new group. -/
theorem withGroupName (orderly : page.Orderly holds form) {name : Text} (group : holds name) :
    Page.Orderly holds form { page with dialog := { page.dialog with name } } :=
  orderly.quiet { orderly.texts with group, options := orderly.texts.options } rfl rfl

omit [Browser] in
/-- The box of a member. -/
theorem toggle (orderly : page.Orderly holds form) (index : Nat) :
    (page.toggle index).Orderly holds form := by
  refine orderly.quiet
    { orderly.texts with group := orderly.texts.group, options := fun option inside => ?_ } rfl rfl
  obtain ⟨position, found⟩ := List.mem_iff_getElem?.mp inside
  rw [Page.toggle, List.getElem?_modify] at found
  obtain ⟨earlier, listed, rfl⟩ := Option.map_eq_some_iff.mp found
  have listed := orderly.texts.options earlier (List.mem_of_getElem? listed)
  split
  · exact listed
  · exact listed

/-- A file is selected, or none is. -/
theorem chooseFile (orderly : page.Orderly holds form) {selectedFile : Option SelectedFile}
    (names : ∀ file ∈ selectedFile, holds file.name) :
    (Page.updateFilePreview { page with selectedFile }).Orderly holds form := by
  have chosen : Page.Orderly holds form { page with selectedFile } :=
    orderly.quiet { orderly.texts with file := names } rfl rfl
  exact chosen.updateFilePreview

/-- A file has been read. -/
theorem fileRead (orderly : page.Orderly holds form) {upload : Nat} {pending : Text × SelectedFile}
    (found : page.uploads[upload]? = some pending) :
    (Page.finishUpload { page with uploads := page.uploads.eraseIdx upload } pending.1
      pending.2).Orderly holds form := by
  obtain ⟨named, target, name, small⟩ := orderly.texts.uploads pending (List.mem_of_getElem? found)
  have rest : Page.Orderly holds form { page with uploads := page.uploads.eraseIdx upload } := by
    refine orderly.quiet { orderly.texts with uploads := fun other inside => ?_ } rfl rfl
    exact orderly.texts.uploads other (List.mem_of_mem_eraseIdx inside)
  exact rest.finishUpload named small target name

/-! ## Runs -/

/-- An event that gives the page texts that hold keeps everything in order. -/
theorem step {page' : Page} (orderly : page.Orderly holds form) (kept : Kept holds)
    {event : PageEvent} (given : ∀ text ∈ event.given, holds text)
    (taken : page.step event = some page') : page'.Orderly holds form := by
  cases event with
  | clock now today =>
    cases taken
    exact orderly.quiet { orderly.texts with } rfl rfl
  | expire toast =>
    cases taken
    exact orderly.quiet { orderly.texts with } rfl rfl
  | tick =>
    obtain ⟨_, rfl⟩ := taken_of_guard taken
    exact orderly.refresh
  | focus =>
    cases taken
    exact orderly.refresh
  | opened socket =>
    obtain ⟨_, rfl⟩ := taken_of_guard taken
    exact orderly.onOpen socket
  | closing socket =>
    obtain ⟨_, rfl⟩ := taken_of_guard taken
    exact orderly.closeSocket socket (by decide)
  | closed socket =>
    obtain ⟨_, rfl⟩ := taken_of_guard taken
    exact orderly.onClose socket
  | failed socket =>
    obtain ⟨_, rfl⟩ := taken_of_guard taken
    exact orderly.onError
  | message socket notice =>
    obtain ⟨_, rfl⟩ := taken_of_guard taken
    exact orderly.handleGatewayMessage kept given
  | broadcast socket message =>
    obtain ⟨_, rfl⟩ := taken_of_guard taken
    exact orderly.addToast _ _
  | typeAuth username password =>
    cases taken
    exact orderly.withCredentials (by simpa [PageEvent.given] using given)
  | auth action =>
    cases taken
    exact orderly.submitAuth action
  | logout =>
    cases taken
    exact orderly.send trivial (by simp [PageRequest.texts])
  | tab tab =>
    cases taken
    exact orderly.setTab tab
  | search text =>
    cases taken
    exact orderly.withSearch text
  | pick index => exact orderly.pick taken
  | newGroup =>
    cases taken
    exact orderly.openGroupDialog kept
  | closeDialog =>
    cases taken
    exact orderly.closeGroupDialog
  | typeGroupName name =>
    cases taken
    exact orderly.withGroupName (by simpa [PageEvent.given] using given)
  | check index =>
    cases taken
    exact orderly.toggle index
  | submitGroup =>
    cases taken
    exact orderly.submitGroup kept
  | chooseFile file =>
    cases taken
    exact orderly.chooseFile fun chosen inside =>
      given chosen.name (List.mem_map_of_mem (by simpa using inside))
  | removeFile =>
    cases taken
    exact orderly.chooseFile (by simp)
  | fileRead upload =>
    obtain ⟨pending, found, rfl⟩ := Option.map_eq_some_iff.mp taken
    exact orderly.fileRead found
  | typeMessage text =>
    cases taken
    exact orderly.withMessage (given text (by simp [PageEvent.given]))
  | submit =>
    cases taken
    exact orderly.submitComposer kept

end Page.Orderly

/-- The page after its script has run. -/
theorem Page.load_orderly [Browser] (kept : Kept holds) {stored : Option Text}
    (known : ∀ name ∈ loadKnownContacts stored, holds name) (authMessage : Option (Text × String)) :
    (Page.load stored authMessage).Orderly holds authMessage.isSome := by
  have empty : Page.Orderly holds authMessage.isSome
      { authMessage, stored, knownContacts := loadKnownContacts stored } :=
    { texts :=
        { credentials := ⟨kept.empty, kept.empty⟩
          message := kept.empty
          file := by simp
          uploads := by simp
          group := kept.empty
          options := by simp
          selected := kept.empty
          roster := by simp
          groups := by simp
          online := by simp
          contacts := known
          user := kept.empty }
      batched := fun _ => batched_nil
      flushed := fun _ _ => rfl
      message := rfl }
  have tab : (Page.setTab { authMessage, stored, knownContacts := loadKnownContacts stored }
      .friends).Orderly holds authMessage.isSome := by
    apply Page.Orderly.renderRoster
    exact empty.quiet { empty.texts with } rfl rfl
  exact tab.quiet { tab.texts with } (Function.update_eq_self _ _) rfl

end

end MultiUserChat.Web
