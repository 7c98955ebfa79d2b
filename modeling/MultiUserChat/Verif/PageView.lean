import MultiUserChat.Library.Transition
import MultiUserChat.Web.Main
/-!
# The page shows its state

A page is in sync when the roster, the header and the message feed of the chat view are those of its
variables, a selected group is one of its groups, and nothing can be picked from the roster that is
not there (`InSync`). What renders everything makes a settled page in sync, and every other function
changes only what is not shown, or renders what it has changed; so every reachable page is in sync.
-/

namespace MultiUserChat.Web

open Page

/-- The variables of the page agree with each other. -/
structure Page.Settled (page : Page) : Prop where
  /-- One of the two views is shown. -/
  views : page.authHidden = !page.chatHidden
  /-- The timer runs while the chat view is shown. -/
  timer : page.refreshing = !page.chatHidden
  /-- The login view is shown to nobody in particular. -/
  user : page.chatHidden = true → page.currentUsername = []
  /-- A selected group is one of the groups. -/
  listed : page.selectedConversation.mode = .group →
    page.groups.any (·.id = page.selectedConversation.id) = true
  /-- A selected friend has a name. -/
  named : page.selectedConversation.mode = .friend → page.selectedConversation.id ≠ []
  /-- No more than four toasts are shown. -/
  few : page.toasts.length ≤ 4

/-- What can be picked from the roster is there. -/
def Page.Legit (page : Page) (item : RosterItem) : Prop :=
  item.mode = .group ∧ page.groups.any (·.id = item.id) = true ∨ item.mode = .friend ∧ item.id ≠ []

section

variable [Browser]

/-- The buttons that the roster should have. -/
def Page.buttons (page : Page) : List (RosterItem × Bool) :=
  page.rosterItems.map fun item => (item, page.isActive item)

/-- The chat view shows the variables. -/
structure Page.Shown (page : Page) : Prop where
  /-- The active tab is the current one. -/
  tab : page.activeTab = page.currentTab
  /-- The roster. -/
  roster : page.roster = page.buttons
  /-- The name in the header. -/
  header : page.targetName = page.selectedConversation.name
  /-- The messages of the selected conversation; their rows stay when the date or the name that stands
  for a missing sender changes. -/
  feed : ∃ today name, page.feed =
    feedOf today page.currentUsername name (page.getConversationMessages page.selectedConversation)

/-- The page shows its state. -/
structure Page.InSync (page : Page) : Prop where
  /-- The variables agree. -/
  settled : page.Settled
  /-- What can be picked is there. -/
  legit : ∀ button ∈ page.roster, page.Legit button.1
  /-- The chat view, when it is shown, shows the variables. -/
  shown : page.chatHidden = false → page.Shown

/-! ## The roster -/

omit [Browser] in
/-- A member of a list that was mapped with its positions. -/
theorem mem_mapIdx_of {α β : Type} {build : Nat → α → β} {items : List α} {item : β}
    (inside : item ∈ items.mapIdx build) : ∃ index, ∃ original ∈ items, item = build index original := by
  obtain ⟨index, bound, same⟩ := List.mem_mapIdx.mp inside
  exact ⟨index, items[index], List.getElem_mem bound, same.symm⟩

/-- The names of the friends tab are not empty. -/
theorem friendNames_named {currentUsername : Text} {onlineUsers knownContacts : List Text} :
    ∀ name ∈ friendNames currentUsername onlineUsers knownContacts, name ≠ [] := by
  intro name inside
  simp only [friendNames] at inside
  split at inside
  · rename_i alone
    rw [List.mem_singleton.mp inside]
    exact alone.1
  · rw [List.mem_mergeSort, List.mem_filter, decide_eq_true_eq] at inside
    exact inside.2.1

/-- Every item of the roster is there. -/
theorem Page.rosterItems_legit (page : Page) : ∀ item ∈ page.rosterItems, page.Legit item := by
  intro item inside
  unfold Page.rosterItems at inside
  split at inside
  · obtain ⟨index, group, listed, rfl⟩ := mem_mapIdx_of inside
    have known : group ∈ page.groups := (List.mem_filter.mp listed).1
    exact .inl ⟨rfl, List.any_eq_true.mpr ⟨group, known, by simp⟩⟩
  · obtain ⟨index, name, listed, rfl⟩ := mem_mapIdx_of inside
    exact .inr ⟨rfl, friendNames_named name (List.mem_filter.mp listed).1⟩

/-- Every button that is rendered is there. -/
theorem Page.buttons_legit (page : Page) : ∀ button ∈ page.buttons, page.Legit button.1 := by
  intro button inside
  obtain ⟨item, listed, rfl⟩ := List.mem_map.mp inside
  exact page.rosterItems_legit item listed

/-! ## Rendering -/

omit [Browser] in
/-- The header changes nothing else. -/
theorem Page.updateHeader_eq (page : Page) : ∃ targetOnline connectionStatus, page.updateHeader =
    { page with targetName := page.selectedConversation.name, targetOnline, connectionStatus } := by
  unfold Page.updateHeader
  dsimp only
  split
  · exact ⟨_, _, rfl⟩
  · exact ⟨_, _, rfl⟩
  · exact ⟨_, _, rfl⟩

/-- What renders everything puts a settled page in sync. -/
theorem Page.Settled.rendered {page : Page} (settled : page.Settled) :
    page.updateHeader.renderRoster.renderMessages.InSync := by
  obtain ⟨online, status, header⟩ := page.updateHeader_eq
  rw [header]
  exact
    { settled :=
        { views := settled.views
          timer := settled.timer
          user := settled.user
          listed := settled.listed
          named := settled.named
          few := settled.few }
      legit := Page.buttons_legit _
      shown := fun _ => ⟨rfl, rfl, rfl, page.today, page.selectedConversation.name, rfl⟩ }

omit [Browser] in
/-- The variables still agree when the page has learned who is online. -/
theorem Page.Settled.informed {page : Page} (settled : page.Settled)
    {onlineUsers knownContacts : List Text} {stored : Option Text} {dialog : GroupDialog}
    {online : Bool} :
    Page.Settled
      { page with
        onlineUsers, knownContacts, stored, dialog
        selectedConversation := { page.selectedConversation with online } } :=
  { views := settled.views
    timer := settled.timer
    user := settled.user
    listed := settled.listed
    named := settled.named
    few := settled.few }

/-- What renders the header and the roster puts a settled page in sync when its feed is. -/
theorem Page.Settled.rostered {page : Page} (settled : page.Settled)
    (fed : page.chatHidden = false → ∃ today name, page.feed =
      feedOf today page.currentUsername name
        (page.getConversationMessages page.selectedConversation)) :
    page.updateHeader.renderRoster.InSync := by
  obtain ⟨online, status, header⟩ := page.updateHeader_eq
  rw [header]
  exact
    { settled :=
        { views := settled.views
          timer := settled.timer
          user := settled.user
          listed := settled.listed
          named := settled.named
          few := settled.few }
      legit := Page.buttons_legit _
      shown := fun visible => ⟨rfl, rfl, rfl, fed visible⟩ }

/-- The roster does not depend on the header. -/
theorem Page.renderRoster_updateHeader (page : Page) :
    page.renderRoster.updateHeader = page.updateHeader.renderRoster := by
  have same : page.renderRoster.selectedConversation = page.selectedConversation := rfl
  unfold Page.updateHeader
  rw [same]
  dsimp only
  split
  · rfl
  · rfl
  · rfl

/-- What renders the roster keeps a page in sync when only the roster depends on what has changed. -/
theorem Page.InSync.rostered {page : Page} (sync : page.InSync) {search : Text} {currentTab : Tab}
    {newGroupHidden : Bool} {knownContacts : List Text} {groups : List Group} {stored : Option Text}
    (listed : page.selectedConversation.mode = .group →
      groups.any (·.id = page.selectedConversation.id) = true) :
    (Page.renderRoster
      { page with search, currentTab, newGroupHidden, knownContacts, groups, stored }).InSync :=
  { settled :=
      { views := sync.settled.views
        timer := sync.settled.timer
        user := sync.settled.user
        listed
        named := sync.settled.named
        few := sync.settled.few }
    legit := Page.buttons_legit _
    shown := fun visible => ⟨rfl, rfl, (sync.shown visible).header, (sync.shown visible).feed⟩ }

/-! ## What is not shown -/

/-- A page stays in sync when its views do not depend on what changes, but for the feed, and the feed
is that of the messages. -/
theorem Page.InSync.fed {page : Page} (sync : page.InSync) {authMessage : Option (Text × String)}
    {usernameInput passwordInput currentUser connectionStatus messageInput now today : Text}
    {targetOnline newGroupHidden : Bool} {toasts : List Toast} {toasted created : Nat}
    {preview : Option (Text × Text)} {dialog : GroupDialog} {ws : Option Nat}
    {sockets : Nat → PageSocket} {stored : Option Text} {selectedFile : Option SelectedFile}
    {uploads : List (Text × SelectedFile)} {objects : List (List UInt8)} {feed : List Row}
    {conversations : Text → List ChatMessage} (few : toasts.length ≤ 4)
    (fed : page.chatHidden = false → ∃ today name, feed =
      feedOf today page.currentUsername name
        (conversations (conversationKey page.selectedConversation))) :
    Page.InSync
      { page with
        authMessage, usernameInput, passwordInput, currentUser, connectionStatus, messageInput, now,
        today, targetOnline, newGroupHidden, toasts, toasted, created, preview, dialog, ws, sockets,
        stored, selectedFile, uploads, objects, feed, conversations } where
  settled :=
    { views := sync.settled.views
      timer := sync.settled.timer
      user := sync.settled.user
      listed := sync.settled.listed
      named := sync.settled.named
      few }
  legit := sync.legit
  shown visible :=
    { tab := (sync.shown visible).tab
      roster := (sync.shown visible).roster
      header := (sync.shown visible).header
      feed := fed visible }

/-- A page stays in sync when its views do not depend on what changes. -/
theorem Page.InSync.unseen {page : Page} (sync : page.InSync) {authMessage : Option (Text × String)}
    {usernameInput passwordInput currentUser connectionStatus messageInput now today : Text}
    {targetOnline newGroupHidden : Bool} {toasts : List Toast} {toasted created : Nat}
    {preview : Option (Text × Text)} {dialog : GroupDialog} {ws : Option Nat}
    {sockets : Nat → PageSocket} {stored : Option Text} {selectedFile : Option SelectedFile}
    {uploads : List (Text × SelectedFile)} {objects : List (List UInt8)}
    (few : toasts.length ≤ 4) :
    Page.InSync
      { page with
        authMessage, usernameInput, passwordInput, currentUser, connectionStatus, messageInput, now,
        today, targetOnline, newGroupHidden, toasts, toasted, created, preview, dialog, ws, sockets,
        stored, selectedFile, uploads, objects } :=
  sync.fed few fun visible => (sync.shown visible).feed

omit [Browser] in
/-- `send` changes the sockets only. -/
theorem Page.send_eq (page : Page) (request : PageRequest) :
    ∃ ws created sockets, page.send request = { page with ws, created, sockets } := by
  unfold Page.send Page.connectWs
  cases page.liveSocket with
  | none => exact ⟨_, _, _, rfl⟩
  | some socket => exact ⟨_, _, _, rfl⟩

omit [Browser] in
/-- Sending several requests changes the sockets only. -/
theorem Page.sendAll_eq (page : Page) (requests : List PageRequest) :
    ∃ ws created sockets, page.sendAll requests = { page with ws, created, sockets } := by
  induction requests generalizing page with
  | nil => exact ⟨_, _, _, rfl⟩
  | cons request requests ih =>
    obtain ⟨ws, created, sockets, sent⟩ := page.send_eq request
    obtain ⟨ws', created', sockets', later⟩ := ih (page.send request)
    refine ⟨ws', created', sockets', ?_⟩
    rw [Page.sendAll, List.foldl_cons]
    exact later.trans (by rw [sent])

omit [Browser] in
/-- The message of the login form is the only thing that its setting changes. -/
theorem Page.endWithAuthMessage_eq (page : Page) (text : Text) (level : String) :
    ∃ authMessage, page.endWithAuthMessage text level = { page with authMessage } := by
  unfold Page.endWithAuthMessage Page.setAuthMessage
  cases page.authMessage with
  | none => exact ⟨page.authMessage, rfl⟩
  | some message => exact ⟨_, rfl⟩

omit [Browser] in
/-- No more than four toasts are left. -/
theorem Page.addToast_few (page : Page) (text : Text) (level : String) :
    (page.addToast text level).toasts.length ≤ 4 := by
  simp only [Page.addToast, List.length_drop]
  omega

/-- A toast is not part of the views. -/
theorem Page.InSync.addToast {page : Page} (sync : page.InSync) (text : Text) (level : String) :
    (page.addToast text level).InSync := sync.unseen (page.addToast_few text level)

/-- Nor is what is sent. -/
theorem Page.InSync.sendAll {page : Page} (sync : page.InSync) (requests : List PageRequest) :
    (page.sendAll requests).InSync := by
  obtain ⟨ws, created, sockets, sent⟩ := page.sendAll_eq requests
  rw [sent]
  exact sync.unseen sync.settled.few

/-- One request. -/
theorem Page.InSync.send {page : Page} (sync : page.InSync) (request : PageRequest) :
    (page.send request).InSync := sync.sendAll [request]

/-- Nor is the message of the login form. -/
theorem Page.InSync.endWithAuthMessage {page : Page} (sync : page.InSync) (text : Text)
    (level : String) : (page.endWithAuthMessage text level).InSync := by
  obtain ⟨authMessage, set⟩ := page.endWithAuthMessage_eq text level
  rw [set]
  exact sync.unseen sync.settled.few

/-- The preview of the file is on its own. -/
theorem Page.InSync.updateFilePreview {page : Page} (sync : page.InSync) :
    page.updateFilePreview.InSync := sync.unseen sync.settled.few

/-! ## Messages -/

/-- A message is shown when its conversation is selected, and no other conversation changes. -/
theorem Page.InSync.pushMessage {page : Page} (sync : page.InSync) (direction : Direction)
    (sender : Text) (content : Content) (conversation : Conversation) :
    (page.pushMessage direction sender content conversation).InSync := by
  unfold Page.pushMessage
  dsimp only
  split
  · exact sync.fed sync.settled.few fun _ => ⟨_, _, rfl⟩
  · rename_i other
    apply sync.fed sync.settled.few
    intro visible
    obtain ⟨today, name, shown⟩ := (sync.shown visible).feed
    refine ⟨today, name, shown.trans (congrArg (feedOf today page.currentUsername name) ?_)⟩
    exact (Function.update_of_ne (Ne.symm other) _ _).symm

/-! ## Messages of the gateway -/

/-- Showing the chat view puts any page in sync. -/
theorem Page.showChat_inSync {page : Page} (few : page.toasts.length ≤ 4) (username : Text) :
    (page.showChat username).InSync := by
  have known : ∃ knownContacts, (if username ∈ page.knownContacts then
      { page with currentUsername := username }
      else { page with currentUsername := username, knownContacts := username :: page.knownContacts }) =
        { page with currentUsername := username, knownContacts } := by
    split
    · exact ⟨_, rfl⟩
    · exact ⟨_, rfl⟩
  obtain ⟨knownContacts, known⟩ := known
  unfold Page.showChat
  dsimp only
  rw [known]
  have settled : Page.Settled
      { ({ page with currentUsername := username, knownContacts } : Page).saveKnownContacts with
        currentUser := literal "当前用户：" ++ username
        authHidden := true
        chatHidden := false
        connectionStatus := literal "已登录"
        groups := []
        selectedConversation := emptyConversation
        refreshing := true } :=
    { views := rfl
      timer := rfl
      user := fun hidden => by contradiction
      listed := fun group => by contradiction
      named := fun friend => by contradiction
      few }
  exact settled.rendered

/-- The end of a session puts any page in sync. -/
theorem Page.receiveLoggedOut_inSync (page : Page) (message : Text) :
    (page.receiveLoggedOut message).InSync := by
  unfold Page.receiveLoggedOut Page.showAuth
  dsimp only
  apply Page.InSync.endWithAuthMessage
  exact
    { settled :=
        { views := rfl
          timer := rfl
          user := fun _ => rfl
          listed := fun group => by contradiction
          named := fun friend => by contradiction
          few := Nat.zero_le _ }
      legit := fun button inside => by contradiction
      shown := fun visible => by contradiction }

omit [Browser] in
/-- Adding contacts changes nothing else. -/
theorem foldl_addContact_eq (names : List Text) (page : Page) :
    ∃ knownContacts, names.foldl addContact page = { page with knownContacts } := by
  induction names generalizing page with
  | nil => exact ⟨page.knownContacts, rfl⟩
  | cons name names ih =>
    have first : ∃ knownContacts, page.addContact name = { page with knownContacts } := by
      unfold Page.addContact
      split
      · exact ⟨page.knownContacts, rfl⟩
      · exact ⟨_, rfl⟩
    obtain ⟨knownContacts, added⟩ := first
    obtain ⟨final, later⟩ := ih (page.addContact name)
    exact ⟨final, by rw [List.foldl_cons, later, added]⟩

/-- A list of online users. -/
theorem Page.InSync.renderOnlineUsers {page : Page} (sync : page.InSync) (users : List Text) :
    (page.renderOnlineUsers users).InSync := by
  unfold Page.renderOnlineUsers
  dsimp only
  obtain ⟨knownContacts, added⟩ :=
    foldl_addContact_eq (uniqueNames users) { page with onlineUsers := uniqueNames users }
  rw [added]
  -- The conversation is one with a friend or not, and the dialog is opened or not.
  split
  · split
    · exact sync.settled.informed.rostered fun visible => (sync.shown visible).feed
    · exact sync.settled.informed.rostered fun visible => (sync.shown visible).feed
  · split
    · exact sync.settled.informed.rostered fun visible => (sync.shown visible).feed
    · exact sync.settled.informed.rostered fun visible => (sync.shown visible).feed

omit [Browser] in
/-- A group that is listed stays listed. -/
theorem Page.upsertGroup_keeps (page : Page) (group : Group) {id : Text}
    (listed : page.groups.any (·.id = id) = true) :
    (page.upsertGroup group).groups.any (·.id = id) = true := by
  obtain ⟨known, inside, same⟩ := List.any_eq_true.mp listed
  unfold Page.upsertGroup
  split
  · exact listed
  split
  · rename_i index found
    obtain ⟨bound, here, _⟩ := List.findIdx?_eq_some_iff_getElem.mp found
    obtain ⟨position, inRange, there⟩ := List.getElem_of_mem inside
    apply List.any_eq_true.mpr
    by_cases replaced : index = position
    · refine ⟨group, List.mem_set bound group, ?_⟩
      subst replaced
      rw [there] at here
      simp only [decide_eq_true_eq] at here same ⊢
      rw [← here, same]
    · have kept : known ∈ page.groups.set index group :=
        List.mem_iff_getElem.mpr
          ⟨position, by rwa [List.length_set], by rw [List.getElem_set_ne replaced, there]⟩
      exact ⟨known, kept, same⟩
  · exact List.any_eq_true.mpr ⟨known, List.mem_append_left _ inside, same⟩

omit [Browser] in
/-- Adding a group changes nothing else. -/
theorem Page.upsertGroup_eq (page : Page) (group : Group) :
    ∃ groups, page.upsertGroup group = { page with groups } := by
  unfold Page.upsertGroup
  split
  · exact ⟨page.groups, rfl⟩
  split
  · exact ⟨_, rfl⟩
  · exact ⟨_, rfl⟩

/-- A list of groups. -/
theorem Page.InSync.receiveGroupList {page : Page} (sync : page.InSync) (groups : List Group) :
    (page.receiveGroupList groups).InSync := by
  unfold Page.receiveGroupList
  dsimp only
  split
  · -- The selected group has ended.
    have pushed : ∀ conversation, ∃ conversations feed,
        Page.pushMessage { page with groups } .system [] (.text (literal "当前群聊已结束")) conversation =
          { page with groups, conversations, feed } := by
      intro conversation
      unfold Page.pushMessage
      dsimp only
      split
      · exact ⟨_, _, rfl⟩
      · exact ⟨_, page.feed, rfl⟩
    obtain ⟨conversations, feed, pushed⟩ := pushed page.selectedConversation
    rw [pushed]
    have settled : Page.Settled
        { page with groups, conversations, feed, selectedConversation := emptyConversation } :=
      { views := sync.settled.views
        timer := sync.settled.timer
        user := sync.settled.user
        listed := fun group => by contradiction
        named := fun friend => by contradiction
        few := sync.settled.few }
    exact settled.rendered
  · rename_i kept
    have settled : Page.Settled { page with groups } :=
      { views := sync.settled.views
        timer := sync.settled.timer
        user := sync.settled.user
        listed := fun group => by
          by_contra missing
          exact kept ⟨group, missing⟩
        named := sync.settled.named
        few := sync.settled.few }
    exact settled.rendered

/-- What a group event is shown as: at most two toasts, and the dialog may be closed. -/
def announce (event name : Text) (page : Page) : Page :=
  let page :=
    if event = literal "created" then
      (page.addToast (literal "群聊已创建：" ++ name) "info").closeGroupDialog
    else page
  if event = literal "member_left" then
    page.addToast (literal "群成员变化：" ++ name) "info"
  else page

omit [Browser] in
/-- The announcement changes nothing else. -/
theorem announce_eq (event name : Text) {page : Page} (few : page.toasts.length ≤ 4) :
    ∃ toasts toasted dialog, announce event name page = { page with toasts, toasted, dialog } ∧
      toasts.length ≤ 4 := by
  unfold announce
  dsimp only
  split
  · split
    · exact ⟨_, _, _, rfl, Page.addToast_few _ _ _⟩
    · exact ⟨_, _, _, rfl, page.addToast_few _ _⟩
  · split
    · exact ⟨_, _, _, rfl, page.addToast_few _ _⟩
    · exact ⟨_, _, _, rfl, few⟩

/-- A group event. -/
theorem Page.InSync.receiveGroupEvent {page : Page} (sync : page.InSync) (event : Text)
    (group : Group) : (page.receiveGroupEvent event group).InSync := by
  have kept : page.selectedConversation.mode = .group →
      (page.upsertGroup group).groups.any (·.id = page.selectedConversation.id) = true :=
    fun mode => page.upsertGroup_keeps group (sync.settled.listed mode)
  obtain ⟨groups, upserted⟩ := page.upsertGroup_eq group
  rw [upserted] at kept
  -- The selected conversation keeps its key, so the feed is still the one of its messages.
  have shown : ∀ selected : Conversation, selected.mode = page.selectedConversation.mode →
      selected.id = page.selectedConversation.id →
      (Page.renderRoster (announce event group.name
        { page with groups, selectedConversation := selected })).updateHeader.InSync := by
    intro selected mode id
    have key : conversationKey selected = conversationKey page.selectedConversation := by
      rw [conversationKey, conversationKey, mode, id]
    obtain ⟨toasts, toasted, dialog, announced, few⟩ :=
      @announce_eq event group.name { page with groups, selectedConversation := selected }
        sync.settled.few
    rw [announced, Page.renderRoster_updateHeader]
    have settled : Page.Settled
        { page with groups, selectedConversation := selected, toasts, toasted, dialog } :=
      { views := sync.settled.views
        timer := sync.settled.timer
        user := sync.settled.user
        listed := fun group => by
          change groups.any (·.id = selected.id) = true
          rw [id]
          exact kept (mode.symm.trans group)
        named := fun friend => by
          change selected.id ≠ []
          rw [id]
          exact sync.settled.named (mode.symm.trans friend)
        few }
    apply settled.rostered
    intro visible
    obtain ⟨today, name, shown⟩ := (sync.shown visible).feed
    refine ⟨today, name, ?_⟩
    change page.feed = feedOf today page.currentUsername name
      (page.conversations (conversationKey selected))
    rw [key]
    exact shown
  have parts : page.receiveGroupEvent event group =
      (announce event group.name
        (if (page.upsertGroup group).selectedConversation.mode = .group ∧
            (page.upsertGroup group).selectedConversation.id = group.id then
          { page.upsertGroup group with
            selectedConversation := ⟨.group, group.id, group.name, true⟩ }
        else page.upsertGroup group)).renderRoster.updateHeader := rfl
  rw [parts, upserted]
  split
  · rename_i same
    exact shown ⟨.group, group.id, group.name, true⟩ same.1.symm same.2.symm
  · exact shown page.selectedConversation rfl rfl

/-- A message of a conversation. -/
theorem Page.InSync.receiveChat {page : Page} (sync : page.InSync) (conversation : Conversation)
    (sender text : Text) : (page.receiveChat conversation sender text).InSync := by
  unfold Page.receiveChat
  dsimp only
  apply Page.InSync.pushMessage
  have first : Page.InSync
      (if conversation.mode = .group ∧ ¬ page.groups.any (·.id = conversation.id) then
        (page.upsertGroup ⟨conversation.id, conversation.name, none, some []⟩).renderRoster
      else page) := by
    split
    · have kept : page.selectedConversation.mode = .group →
          (page.upsertGroup ⟨conversation.id, conversation.name, none, some []⟩).groups.any
            (·.id = page.selectedConversation.id) = true :=
        fun mode => page.upsertGroup_keeps _ (sync.settled.listed mode)
      obtain ⟨groups, upserted⟩ :=
        page.upsertGroup_eq ⟨conversation.id, conversation.name, none, some []⟩
      rw [upserted] at kept ⊢
      exact sync.rostered kept
    · exact sync
  generalize (if conversation.mode = .group ∧ ¬ page.groups.any (·.id = conversation.id) then
      (page.upsertGroup ⟨conversation.id, conversation.name, none, some []⟩).renderRoster
    else page) = grouped at first ⊢
  split
  · exact first
  · exact first.rostered first.settled.listed

/-- A file that was received. -/
theorem Page.InSync.receiveFile {page : Page} (sync : page.InSync)
    (sender filename dataBase64 : Text) (size : Nat) :
    (page.receiveFile sender filename dataBase64 size).InSync := by
  unfold Page.receiveFile
  split
  · exact sync
  · rename_i bytes _
    have kept : Page.InSync { page with objects := page.objects ++ [bytes] } :=
      sync.unseen sync.settled.few
    exact kept.pushMessage _ _ _ _

/-- Every message of the gateway keeps the page in sync. -/
theorem Page.InSync.handleGatewayMessage {page : Page} (sync : page.InSync) (notice : Notice) :
    (page.handleGatewayMessage notice).InSync := by
  cases notice with
  | authResult action ok message username =>
    rw [Page.handleGatewayMessage]
    split
    · exact ((page.showChat_inSync sync.settled.few username).addToast _ _).sendAll _
    · exact sync.endWithAuthMessage _ _
  | onlineList users => exact sync.renderOnlineUsers users
  | groupList groups => exact sync.receiveGroupList groups
  | groupEvent event group => exact sync.receiveGroupEvent event group
  | chatMessage mode sender receiver text => exact sync.receiveChat _ _ _
  | groupChatMessage groupId groupName sender text => exact sync.receiveChat _ _ _
  | fileProgress sender filename receivedSize expectedSize => exact sync.addToast _ _
  | fileReceived sender filename data => exact sync.receiveFile _ _ _ _
  | status status ok reason message =>
    rw [Page.handleGatewayMessage]
    dsimp only
    split
    · exact page.receiveLoggedOut_inSync message
    · apply Page.InSync.addToast
      split
      · exact sync.unseen sync.settled.few
      · exact sync
  | error status ok message =>
    rw [Page.handleGatewayMessage]
    split
    · exact sync.endWithAuthMessage _ _
    · exact sync.addToast _ _

/-! ## The user -/

/-- Picking a button of the roster shows its conversation. -/
theorem Page.InSync.pick {page page' : Page} (sync : page.InSync) {index : Nat}
    (picked : page.pick index = some page') : page'.InSync := by
  unfold Page.pick at picked
  obtain ⟨button, found, rfl⟩ := Option.map_eq_some_iff.mp picked
  have legit := sync.legit button (List.mem_of_getElem? found)
  have settled : Page.Settled
      { page with
        selectedConversation := ⟨button.1.mode, button.1.id, button.1.name, button.1.online⟩
        currentTab := if button.1.mode = Mode.group then Tab.groups else Tab.friends } :=
    { views := sync.settled.views
      timer := sync.settled.timer
      user := sync.settled.user
      listed := fun group => by
        rcases legit with legit | legit
        · exact legit.2
        · rw [legit.1] at group
          contradiction
      named := fun friend => by
        rcases legit with legit | legit
        · rw [legit.1] at friend
          contradiction
        · exact legit.2
      few := sync.settled.few }
  exact settled.rendered

/-- The listeners of the login form. -/
theorem Page.InSync.submitAuth {page : Page} (sync : page.InSync) (action : AuthAction) :
    (page.submitAuth action).InSync := by
  unfold Page.submitAuth Page.setAuthMessage
  cases page.authMessage with
  | none => exact sync
  | some message => exact Page.InSync.send (sync.unseen sync.settled.few) _

/-- The listener of the timer. -/
theorem Page.InSync.refresh {page : Page} (sync : page.InSync) : page.refresh.InSync := by
  unfold Page.refresh
  split
  · exact sync
  · exact sync.sendAll _

/-- The dialog for a new group. -/
theorem Page.InSync.openGroupDialog {page : Page} (sync : page.InSync) :
    page.openGroupDialog.InSync := by
  obtain ⟨ws, created, sockets, sent⟩ := page.send_eq .onlineList
  unfold Page.openGroupDialog
  rw [sent]
  exact sync.unseen sync.settled.few

/-- The form of the dialog. -/
theorem Page.InSync.submitGroup {page : Page} (sync : page.InSync) : page.submitGroup.InSync := by
  unfold Page.submitGroup
  dsimp only
  split
  · exact sync.unseen sync.settled.few
  split
  · exact sync.unseen sync.settled.few
  · exact Page.InSync.send (sync.unseen sync.settled.few) _

/-- The rest of the sending of a file. -/
theorem Page.InSync.finishUpload {page : Page} (sync : page.InSync) (receiver : Text)
    (file : SelectedFile) : (page.finishUpload receiver file).InSync := by
  unfold Page.finishUpload
  dsimp only
  apply Page.InSync.updateFilePreview
  have sent := ((sync.sendAll (fileRequests receiver file)).pushMessage .outgoing []
    (.file file.name file.content.length none)
    (page.sendAll (fileRequests receiver file)).selectedConversation).addToast
      (literal "文件发送请求已提交：" ++ file.name) "info"
  exact sent.unseen sent.settled.few

/-- The composer with a text. -/
theorem Page.InSync.submitText {page : Page} (sync : page.InSync) : page.submitText.InSync := by
  unfold Page.submitText
  dsimp only
  split
  · exact sync.addToast _ _
  split
  · split
    · exact sync.addToast _ _
    · have sent := sync.send (.sendGroupMessage page.selectedConversation.id (trim page.messageInput))
      exact sent.unseen sent.settled.few
  · exact sync.addToast _ _
  · split
    · exact sync.addToast _ _
    · have sent := (sync.send (.sendPrivate page.selectedConversation.id
        (trim page.messageInput))).pushMessage .outgoing [] (.text (trim page.messageInput))
          page.selectedConversation
      exact sent.unseen sent.settled.few

/-- The composer with a file. -/
theorem Page.InSync.submitSelectedFile {page : Page} (sync : page.InSync) (receiver : Text)
    (file : SelectedFile) : (page.submitSelectedFile receiver file).InSync := by
  unfold Page.submitSelectedFile
  split
  · exact sync.addToast _ _
  split
  · exact sync.addToast _ _
  · exact sync.unseen sync.settled.few

/-- The composer. -/
theorem Page.InSync.submitComposer {page : Page} (sync : page.InSync) :
    page.submitComposer.InSync := by
  unfold Page.submitComposer
  split
  · exact sync.submitSelectedFile _ _
  · exact sync.submitText

/-- The listeners of `open`. -/
theorem Page.InSync.onOpen {page : Page} (sync : page.InSync) (socket : Nat) :
    (page.onOpen socket).InSync := by
  have opened : Page.InSync
      (page.updateSocket socket fun record => { record with readyState := .opened }) :=
    sync.unseen sync.settled.few
  have told := opened.endWithAuthMessage (literal "网关已连接") "info"
  exact told.unseen told.settled.few

/-- The listener of `close`. -/
theorem Page.InSync.onClose {page : Page} (sync : page.InSync) (socket : Nat) :
    (page.onClose socket).InSync := by
  have closed : Page.InSync
      (page.updateSocket socket fun record => { record with readyState := .closed }) :=
    sync.unseen sync.settled.few
  unfold Page.onClose
  dsimp only
  split
  · exact closed.endWithAuthMessage _ _
  · have told := closed.addToast (literal "WebSocket 已关闭") "warn"
    exact told.unseen told.settled.few

/-- The listener of `error`. -/
theorem Page.InSync.onError {page : Page} (sync : page.InSync) : page.onError.InSync := by
  unfold Page.onError
  split
  · exact sync.endWithAuthMessage _ _
  · exact sync.addToast _ _

omit [Browser] in
/-- A step that is taken under a condition. -/
theorem taken_of_guard {σ : Type} {possible : Prop} [Decidable possible] {next next' : σ}
    (taken : (if possible then some next else none) = some next') : possible ∧ next = next' := by
  split at taken
  · rename_i possible
    exact ⟨possible, Option.some.inj taken⟩
  · contradiction

/-- Every event keeps the page in sync. -/
theorem Page.InSync.step {page page' : Page} (sync : page.InSync) {event : PageEvent}
    (taken : page.step event = some page') : page'.InSync := by
  cases event with
  | clock now today =>
    cases taken
    exact sync.unseen sync.settled.few
  | expire toast =>
    cases taken
    exact sync.unseen ((List.length_filter_le _ _).trans sync.settled.few)
  | tick =>
    obtain ⟨_, rfl⟩ := taken_of_guard taken
    exact sync.refresh
  | focus =>
    cases taken
    exact sync.refresh
  | opened socket =>
    obtain ⟨_, rfl⟩ := taken_of_guard taken
    exact sync.onOpen socket
  | closing socket =>
    obtain ⟨_, rfl⟩ := taken_of_guard taken
    exact sync.unseen sync.settled.few
  | closed socket =>
    obtain ⟨_, rfl⟩ := taken_of_guard taken
    exact sync.onClose socket
  | failed socket =>
    obtain ⟨_, rfl⟩ := taken_of_guard taken
    exact sync.onError
  | message socket notice =>
    obtain ⟨_, rfl⟩ := taken_of_guard taken
    exact sync.handleGatewayMessage notice
  | broadcast socket message =>
    obtain ⟨_, rfl⟩ := taken_of_guard taken
    exact sync.addToast _ _
  | typeAuth username password =>
    cases taken
    exact sync.unseen sync.settled.few
  | auth action =>
    cases taken
    exact sync.submitAuth action
  | logout =>
    cases taken
    exact sync.send .logout
  | tab tab =>
    cases taken
    exact sync.rostered sync.settled.listed
  | search text =>
    cases taken
    exact sync.rostered sync.settled.listed
  | pick index => exact sync.pick taken
  | newGroup =>
    cases taken
    exact sync.openGroupDialog
  | closeDialog =>
    cases taken
    exact sync.unseen sync.settled.few
  | typeGroupName name =>
    cases taken
    exact sync.unseen sync.settled.few
  | check index =>
    cases taken
    exact sync.unseen sync.settled.few
  | submitGroup =>
    cases taken
    exact sync.submitGroup
  | chooseFile file =>
    cases taken
    exact sync.unseen sync.settled.few
  | removeFile =>
    cases taken
    exact sync.unseen sync.settled.few
  | fileRead upload =>
    obtain ⟨pending, _, rfl⟩ := Option.map_eq_some_iff.mp taken
    exact Page.InSync.finishUpload (sync.unseen sync.settled.few) _ _
  | typeMessage text =>
    cases taken
    exact sync.unseen sync.settled.few
  | submit =>
    cases taken
    exact sync.submitComposer

/-- The page after its script has run. -/
theorem Page.load_inSync (stored : Option Text) (authMessage : Option (Text × String)) :
    (Page.load stored authMessage).InSync where
  settled :=
    { views := rfl
      timer := rfl
      user := fun _ => rfl
      listed := fun group => by contradiction
      named := fun friend => by contradiction
      few := Nat.zero_le _ }
  legit := Page.buttons_legit _
  shown visible := by contradiction

/-- A page that some events lead to, whatever is stored and whatever the document has. -/
def PageReachable (page : Page) : Prop :=
  Reachable (fun page => ∃ stored authMessage, page = Page.load stored authMessage)
    (fun page event page' => page.step event = some page') page

/-- Whatever happens, the page shows its state. -/
theorem pageReachable_inSync {page : Page} (reached : PageReachable page) : page.InSync := by
  refine Reachable.invariant Page.InSync ?_ ?_ reached
  · rintro _ ⟨stored, authMessage, rfl⟩
    exact Page.load_inSync stored authMessage
  · exact fun _ _ _ _ sync taken => sync.step taken

end

/-! ## A run -/

/-- A browser that knows the letters of ASCII and orders texts by their code points. -/
@[reducible]
def asciiBrowser : Browser where
  toLowerCase text :=
    text.map fun point => if 0x41 ≤ point ∧ point ≤ 0x5a then point + 0x20 else point
  toUpperCase text := text.map asciiUpper
  localeLe first second := decide (first ≤ second)
  localeLe_total first second := by simpa using le_total first second
  localeLe_trans first second third early late := by
    simp only [decide_eq_true_eq] at early late ⊢
    exact le_trans early late
  objectUrl number := literal "blob:" ++ digitsText number

/-- A login, a new group of the user, and a message in it. -/
def groupChat : List PageEvent :=
  [.opened 0, .message 0 (.authResult .login true [] (literal "u")),
    .message 0 (.groupEvent (literal "created")
      ⟨literal "g000001", literal "team", some (literal "u"), some [literal "u", literal "v"]⟩),
    .tab .groups, .pick 0,
    .message 0 (.groupChatMessage (literal "g000001") (literal "team") (literal "v") (literal "hi"))]

/-- The page after it shows the group. -/
theorem pageReachable_inSync_groupChat : ∃ page, @PageReachable asciiBrowser page ∧
    page.chatHidden = false ∧ page.selectedConversation.id = literal "g000001" ∧
      @Page.InSync asciiBrowser page := by
  have ran : ∃ page, groupChat.foldlM (@Page.step asciiBrowser)
      (@Page.load asciiBrowser none none) = some page ∧ page.chatHidden = false ∧
        page.selectedConversation.id = literal "g000001" := ⟨_, rfl, rfl, rfl⟩
  obtain ⟨page, ran, visible, selected⟩ := ran
  have reached : @PageReachable asciiBrowser page :=
    Reachable.of_foldlM (.start ⟨none, none, rfl⟩) ran
  exact ⟨page, reached, visible, selected, @pageReachable_inSync asciiBrowser page reached⟩

end MultiUserChat.Web
