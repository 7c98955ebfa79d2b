import MultiUserChat.Verif.PageView
/-!
# The page and its account

Who is logged in, the groups and the contacts are an abstract machine of their own (`Account`), whose
only inputs are the messages of the gateway. The page refines it: a message changes what belongs to
the account as the account hears it, and no other event changes it.
-/

namespace MultiUserChat.Web

open Page

attribute [local instance] text_lawful

/-! ## The account -/

/-- What a page knows of the session. -/
@[ext]
structure Account where
  /-- The user that is logged in. -/
  user : Option Text
  /-- The groups. -/
  groups : List Group
  /-- The contacts. -/
  contacts : List Text
  /-- What is stored of them. -/
  stored : Option Text

namespace Account

/-- Contacts without repetitions are stored. -/
def save (account : Account) : Account :=
  { account with
    contacts := uniqueNames account.contacts
    stored := some (Json.array (((uniqueNames account.contacts).take 80).map .string)).stringify }

/-- Add a contact that is not known. -/
def meet (account : Account) (name : Text) : Account :=
  if name ∈ account.contacts then account else { account with contacts := account.contacts ++ [name] }

/-- Add a group, or replace the first one of its id. -/
def join (account : Account) (group : Group) : Account :=
  if group.id = [] then account
  else
    match account.groups.findIdx? (·.id = group.id) with
    | some index => { account with groups := account.groups.set index group }
    | none => { account with groups := account.groups ++ [group] }

/-- A message of a conversation. -/
def chat (account : Account) (conversation : Conversation) (sender : Text) : Account :=
  let account :=
    if conversation.mode = .group ∧ ¬ account.groups.any (·.id = conversation.id) then
      account.join ⟨conversation.id, conversation.name, none, some []⟩
    else account
  if sender ∈ account.contacts then account
  else { account with contacts := account.contacts ++ [sender] }.save

/-- A login. -/
def enter (account : Account) (username : Text) : Account :=
  { account with
    user := some username
    groups := []
    contacts :=
      if username ∈ account.contacts then account.contacts else username :: account.contacts }.save

/-- What a message of the gateway changes. -/
def hear (account : Account) : Notice → Account
  | .authResult action ok _ username =>
    if action = .login ∧ ok = true then account.enter username else account
  | .onlineList users => ((uniqueNames users).foldl meet account).save
  | .groupList groups => { account with groups }
  | .groupEvent _ group => account.join group
  | .chatMessage mode sender _ _ =>
    account.chat (if mode = "group" then groupConversation [] [] else ⟨.friend, sender, sender, false⟩)
      sender
  | .groupChatMessage groupId groupName sender _ =>
    account.chat (groupConversation groupId groupName) sender
  | .fileProgress _ _ _ _ => account
  | .fileReceived _ _ _ => account
  | .status status _ _ _ =>
    if status = "logged_out" then { account with user := none, groups := [] } else account
  | .error _ _ _ => account

/-- A conversation that is no group's is none that the account knows of. -/
theorem chat_friend (account : Account) {conversation conversation' : Conversation}
    (friend : conversation.mode = .friend) (friend' : conversation'.mode = .friend) (sender : Text) :
    account.chat conversation sender = account.chat conversation' sender := by
  simp [Account.chat, friend, friend']

end Account

namespace Page

/-- The account of a page; nobody is logged in while the chat view is hidden. -/
def account (page : Page) : Account :=
  { user := if page.chatHidden then none else some page.currentUsername
    groups := page.groups
    contacts := page.knownContacts
    stored := page.stored }

/-! ## What does not belong to the account -/

/-- The header. -/
@[simp] theorem updateHeader_account (page : Page) : page.updateHeader.account = page.account := by
  obtain ⟨online, status, header⟩ := page.updateHeader_eq
  rw [header]
  rfl

/-- The message of the login form. -/
@[simp] theorem endWithAuthMessage_account (page : Page) (text : Text) (level : String) :
    (page.endWithAuthMessage text level).account = page.account := by
  obtain ⟨authMessage, set⟩ := page.endWithAuthMessage_eq text level
  rw [set]
  rfl

/-- A toast. -/
@[simp] theorem addToast_account (page : Page) (text : Text) (level : String) :
    (page.addToast text level).account = page.account := rfl

/-- The line below the name of the conversation. -/
@[simp] theorem setConnectionStatus_account (page : Page) (text : Text) (online : Bool) :
    (page.setConnectionStatus text online).account = page.account := rfl

/-- What is sent. -/
@[simp] theorem sendAll_account (page : Page) (requests : List PageRequest) :
    (page.sendAll requests).account = page.account := by
  obtain ⟨ws, created, sockets, sent⟩ := page.sendAll_eq requests
  rw [sent]
  rfl

/-- One request. -/
@[simp] theorem send_account (page : Page) (request : PageRequest) :
    (page.send request).account = page.account := page.sendAll_account [request]

/-- A message in a conversation. -/
@[simp] theorem pushMessage_account (page : Page) (direction : Direction) (sender : Text)
    (content : Content) (conversation : Conversation) :
    (page.pushMessage direction sender content conversation).account = page.account := by
  unfold Page.pushMessage
  dsimp only
  split
  · rfl
  · rfl

/-- Those who may be members of a new group. -/
@[simp] theorem renderGroupMemberOptions_account (page : Page) :
    page.renderGroupMemberOptions.account = page.account := rfl

/-- The dialog is closed. -/
@[simp] theorem closeGroupDialog_account (page : Page) :
    page.closeGroupDialog.account = page.account := rfl

/-- The message feed. -/
@[simp] theorem renderMessages_account (page : Page) :
    page.renderMessages.account = page.account := rfl

/-- The preview of the file. -/
@[simp] theorem updateFilePreview_account [Browser] (page : Page) :
    page.updateFilePreview.account = page.account := rfl

/-- The roster. -/
@[simp] theorem renderRoster_account [Browser] (page : Page) :
    page.renderRoster.account = page.account := rfl

/-! ## Messages of the gateway -/

/-- The contacts are saved. -/
@[simp] theorem saveKnownContacts_account (page : Page) :
    page.saveKnownContacts.account = page.account.save := rfl

/-- A group is added. -/
@[simp] theorem upsertGroup_account (page : Page) (group : Group) :
    (page.upsertGroup group).account = page.account.join group := by
  unfold Page.upsertGroup Account.join
  have groups : page.account.groups = page.groups := rfl
  rw [groups]
  split
  · rfl
  cases page.groups.findIdx? fun known => known.id = group.id with
  | none => rfl
  | some index => rfl

/-- A contact is added. -/
@[simp] theorem addContact_account (page : Page) (name : Text) :
    (page.addContact name).account = page.account.meet name := by
  unfold Page.addContact Account.meet
  have contacts : page.account.contacts = page.knownContacts := rfl
  rw [contacts]
  split
  · rfl
  · rfl

/-- Contacts are added. -/
theorem foldl_addContact_account (names : List Text) (page : Page) :
    (names.foldl addContact page).account = names.foldl Account.meet page.account := by
  induction names generalizing page with
  | nil => rfl
  | cons name names ih => rw [List.foldl_cons, List.foldl_cons, ih, addContact_account]

/-- The announcement of a group event. -/
theorem announce_account (event name : Text) (page : Page) :
    (announce event name page).account = page.account := by
  unfold announce
  dsimp only
  split
  · split
    · rfl
    · rfl
  · split
    · rfl
    · rfl

/-- The end of a session. -/
theorem receiveLoggedOut_account (page : Page) (message : Text) :
    (page.receiveLoggedOut message).account = { page.account with user := none, groups := [] } := by
  unfold Page.receiveLoggedOut Page.showAuth
  dsimp only
  rw [endWithAuthMessage_account]
  rfl

/-- A file that was received. -/
theorem receiveFile_account [Browser] (page : Page) (sender filename dataBase64 : Text) (size : Nat) :
    (page.receiveFile sender filename dataBase64 size).account = page.account := by
  unfold Page.receiveFile
  split
  · rfl
  · rw [pushMessage_account]
    rfl

variable [Browser]

/-- The chat view. -/
theorem showChat_account (page : Page) (username : Text) :
    (page.showChat username).account = page.account.enter username := by
  have contacts : page.account.contacts = page.knownContacts := rfl
  have rendered (page : Page) : page.updateHeader.renderRoster.renderMessages.account = page.account := by
    rw [renderMessages_account, renderRoster_account, updateHeader_account]
  unfold Page.showChat Account.enter
  dsimp only
  rw [contacts]
  split
  · exact rendered _
  · exact rendered _

/-- A list of online users. -/
theorem renderOnlineUsers_account (page : Page) (users : List Text) :
    (page.renderOnlineUsers users).account =
      ((uniqueNames users).foldl Account.meet page.account).save := by
  have known : ((uniqueNames users).foldl addContact
      { page with onlineUsers := uniqueNames users }).account =
        (uniqueNames users).foldl Account.meet page.account := foldl_addContact_account _ _
  rw [← known]
  unfold Page.renderOnlineUsers
  dsimp only
  rw [renderRoster_account, updateHeader_account]
  split
  · split
    · rfl
    · rfl
  · split
    · rfl
    · rfl

/-- A list of groups. -/
theorem receiveGroupList_account (page : Page) (groups : List Group) :
    (page.receiveGroupList groups).account = { page.account with groups } := by
  unfold Page.receiveGroupList
  dsimp only
  rw [renderMessages_account, renderRoster_account, updateHeader_account]
  split
  · exact pushMessage_account _ _ _ _ _
  · rfl

/-- A group event. -/
theorem receiveGroupEvent_account (page : Page) (event : Text) (group : Group) :
    (page.receiveGroupEvent event group).account = page.account.join group := by
  have parts : page.receiveGroupEvent event group =
      (announce event group.name
        (if (page.upsertGroup group).selectedConversation.mode = .group ∧
            (page.upsertGroup group).selectedConversation.id = group.id then
          { page.upsertGroup group with
            selectedConversation := ⟨.group, group.id, group.name, true⟩ }
        else page.upsertGroup group)).renderRoster.updateHeader := rfl
  rw [parts, updateHeader_account, renderRoster_account, announce_account]
  split
  · exact page.upsertGroup_account group
  · exact page.upsertGroup_account group

/-- A message of a conversation. -/
theorem receiveChat_account (page : Page) (conversation : Conversation) (sender text : Text) :
    (page.receiveChat conversation sender text).account = page.account.chat conversation sender := by
  have joined : (if conversation.mode = .group ∧ ¬ page.groups.any (·.id = conversation.id) then
        (page.upsertGroup ⟨conversation.id, conversation.name, none, some []⟩).renderRoster
      else page).account =
        if conversation.mode = .group ∧ ¬ page.account.groups.any (·.id = conversation.id) then
          page.account.join ⟨conversation.id, conversation.name, none, some []⟩
        else page.account := by
    rw [apply_ite Page.account, renderRoster_account, upsertGroup_account]
    rfl
  unfold Page.receiveChat Account.chat
  dsimp only
  rw [pushMessage_account, ← joined]
  generalize (if conversation.mode = .group ∧ ¬ page.groups.any (·.id = conversation.id) then
      (page.upsertGroup ⟨conversation.id, conversation.name, none, some []⟩).renderRoster
    else page) = first
  rw [apply_ite Page.account]
  rfl

/-- The page hears what the account hears. -/
theorem handleGatewayMessage_account (page : Page) (notice : Notice) :
    (page.handleGatewayMessage notice).account = page.account.hear notice := by
  cases notice with
  | authResult action ok message username =>
    rw [Page.handleGatewayMessage, Account.hear, apply_ite Page.account, sendAll_account, addToast_account,
      showChat_account, endWithAuthMessage_account]
  | onlineList users => exact page.renderOnlineUsers_account users
  | groupList groups => exact page.receiveGroupList_account groups
  | groupEvent event group => exact page.receiveGroupEvent_account event group
  | chatMessage mode sender receiver text =>
    rw [Page.handleGatewayMessage, receiveChat_account, Account.hear]
    split
    · rfl
    · exact Account.chat_friend _ rfl rfl sender
  | groupChatMessage groupId groupName sender text => exact page.receiveChat_account _ sender text
  | fileProgress sender filename receivedSize expectedSize => rfl
  | fileReceived sender filename data => exact page.receiveFile_account _ _ _ _
  | status status ok reason message =>
    rw [Page.handleGatewayMessage, Account.hear, apply_ite Page.account, receiveLoggedOut_account]
    dsimp only
    rw [addToast_account, apply_ite Page.account, setConnectionStatus_account, ite_self]
  | error status ok message =>
    rw [Page.handleGatewayMessage, Account.hear, apply_ite Page.account, endWithAuthMessage_account,
      addToast_account, ite_self]

/-! ## Steps -/

/-- What an event tells the account. -/
def told : PageEvent → Option Notice
  | .message _ notice => some notice
  | _ => none

omit [Browser] in
/-- The dialog for a new group. -/
theorem openGroupDialog_account (page : Page) : page.openGroupDialog.account = page.account := by
  obtain ⟨ws, created, sockets, sent⟩ := page.send_eq .onlineList
  unfold Page.openGroupDialog
  rw [sent]
  rfl

omit [Browser] in
/-- The form of the dialog. -/
theorem submitGroup_account (page : Page) : page.submitGroup.account = page.account := by
  unfold Page.submitGroup
  dsimp only
  split
  · rfl
  split
  · rfl
  · exact send_account _ _

omit [Browser] in
/-- The composer with a file. -/
theorem submitSelectedFile_account (page : Page) (receiver : Text) (file : SelectedFile) :
    (page.submitSelectedFile receiver file).account = page.account := by
  unfold Page.submitSelectedFile
  split
  · rfl
  split
  · rfl
  · rfl

omit [Browser] in
/-- The composer. -/
theorem submitComposer_account (page : Page) : page.submitComposer.account = page.account := by
  unfold Page.submitComposer
  split
  · exact submitSelectedFile_account _ _ _
  · unfold Page.submitText
    dsimp only
    split
    · rfl
    split
    · split
      · rfl
      · exact send_account page
          (.sendGroupMessage page.selectedConversation.id (trim page.messageInput))
    · rfl
    · split
      · rfl
      · exact (pushMessage_account _ _ _ _ _).trans (send_account page _)

omit [Browser] in
/-- The listeners of the login form. -/
theorem submitAuth_account (page : Page) (action : AuthAction) :
    (page.submitAuth action).account = page.account := by
  unfold Page.submitAuth setAuthMessage
  cases page.authMessage with
  | none => rfl
  | some message => exact send_account _ _

omit [Browser] in
/-- The listener of the timer. -/
theorem refresh_account (page : Page) : page.refresh.account = page.account := by
  unfold Page.refresh
  split
  · rfl
  · exact sendAll_account _ _

/-- The rest of the sending of a file. -/
theorem finishUpload_account (page : Page) (receiver : Text) (file : SelectedFile) :
    (page.finishUpload receiver file).account = page.account := by
  have dropped (page : Page) :
      (Page.updateFilePreview { page with selectedFile := none }).account = page.account := rfl
  unfold Page.finishUpload
  dsimp only
  rw [dropped, addToast_account, pushMessage_account, sendAll_account]

/-- The page refines the account. -/
theorem step_account {page page' : Page} {event : PageEvent} (taken : page.step event = some page') :
    page'.account = (told event).elim page.account page.account.hear := by
  cases event with
  | clock now today =>
    cases taken
    rfl
  | expire toast =>
    cases taken
    rfl
  | tick =>
    obtain ⟨_, rfl⟩ := taken_of_guard taken
    exact page.refresh_account
  | focus =>
    cases taken
    exact page.refresh_account
  | opened socket =>
    obtain ⟨_, rfl⟩ := taken_of_guard taken
    exact endWithAuthMessage_account _ _ _
  | closing socket =>
    obtain ⟨_, rfl⟩ := taken_of_guard taken
    rfl
  | closed socket =>
    obtain ⟨_, rfl⟩ := taken_of_guard taken
    unfold Page.onClose
    dsimp only
    split
    · exact endWithAuthMessage_account _ _ _
    · rfl
  | failed socket =>
    obtain ⟨_, rfl⟩ := taken_of_guard taken
    unfold Page.onError
    split
    · exact endWithAuthMessage_account _ _ _
    · rfl
  | message socket notice =>
    obtain ⟨_, rfl⟩ := taken_of_guard taken
    exact page.handleGatewayMessage_account notice
  | broadcast socket message =>
    obtain ⟨_, rfl⟩ := taken_of_guard taken
    rfl
  | typeAuth username password =>
    cases taken
    rfl
  | auth action =>
    cases taken
    exact page.submitAuth_account action
  | logout =>
    cases taken
    exact page.send_account .logout
  | tab tab =>
    cases taken
    rfl
  | search text =>
    cases taken
    rfl
  | pick index =>
    obtain ⟨button, _, rfl⟩ := Option.map_eq_some_iff.mp taken
    rw [renderMessages_account, renderRoster_account, updateHeader_account]
    rfl
  | newGroup =>
    cases taken
    exact page.openGroupDialog_account
  | closeDialog =>
    cases taken
    rfl
  | typeGroupName name =>
    cases taken
    rfl
  | check index =>
    cases taken
    rfl
  | submitGroup =>
    cases taken
    exact page.submitGroup_account
  | chooseFile file =>
    cases taken
    rfl
  | removeFile =>
    cases taken
    rfl
  | fileRead upload =>
    obtain ⟨pending, _, rfl⟩ := Option.map_eq_some_iff.mp taken
    rw [finishUpload_account]
    rfl
  | typeMessage text =>
    cases taken
    rfl
  | submit =>
    cases taken
    exact page.submitComposer_account

end Page

end MultiUserChat.Web
