import MultiUserChat.Library.Utf8Scalar
import MultiUserChat.Verif.GatewayActions
import MultiUserChat.Web.Message
import MultiUserChat.Web.Site
/-!
# What the browser is told

Who is logged in and which groups there are can be read off the notices of a session (`loginOf`,
`groupsOf`). A session has told its browser the truth (`Candid`): the notices say that the user is
logged in who is, and while somebody is, they name the groups that the session knows. Every function
of the session keeps this, except the end of a connection whose user is logged in while a reply to a
registration or a login is still due: it is told as a failed login.
-/

namespace MultiUserChat.Web

/-! ## Reading notices -/

/-- Who is logged in after a notice. -/
def Notice.login (user : Option Text) : Notice → Option Text
  | .authResult action ok _ username => if action = .login ∧ ok = true then some username else user
  | .status code _ _ _ => if code = "logged_out" then none else user
  | _ => user

/-- The ids of the groups after a notice. -/
def Notice.groupIds (ids : List Text) : Notice → List Text
  | .authResult action ok _ _ => if action = .login ∧ ok = true then [] else ids
  | .status code _ _ _ => if code = "logged_out" then [] else ids
  | .groupList groups => groups.map (·.id)
  | .groupEvent _ group => group.id :: ids
  | .groupChatMessage groupId _ _ _ => groupId :: ids
  | _ => ids

/-- Who is logged in, as told. -/
def loginOf (notices : List Notice) : Option Text := notices.foldl Notice.login none

/-- The ids of the groups, as told. -/
def groupsOf (notices : List Notice) : List Text := notices.foldl Notice.groupIds []

/-- One more notice. -/
theorem loginOf_append (notices : List Notice) (notice : Notice) :
    loginOf (notices ++ [notice]) = notice.login (loginOf notices) := by
  rw [loginOf, List.foldl_append]
  rfl

/-- One more notice. -/
theorem groupsOf_append (notices : List Notice) (notice : Notice) :
    groupsOf (notices ++ [notice]) = notice.groupIds (groupsOf notices) := by
  rw [groupsOf, List.foldl_append]
  rfl

/-- The names and ids that a notice tells. -/
def Notice.names : Notice → List Text
  | authResult _ _ _ username => [username]
  | onlineList users => users
  | groupList groups => groups.map (·.id)
  | groupEvent _ group => [group.id]
  | chatMessage _ sender _ _ => [sender]
  | groupChatMessage groupId _ sender _ => [groupId, sender]
  | fileProgress _ _ _ _ => []
  | fileReceived _ _ _ => []
  | status _ _ _ _ => []
  | error _ _ _ => []

/-- A notice changes neither who is logged in nor the groups, and its names are strings. -/
structure Notice.Quiet (notice : Notice) : Prop where
  /-- Who is logged in. -/
  login : ∀ user, notice.login user = user
  /-- The groups. -/
  groups : ∀ ids, notice.groupIds ids = ids
  /-- The names. -/
  names : ∀ name ∈ notice.names, Utf16.Paired name

/-- An error. -/
theorem quiet_error (status : Option String) (ok : Option Bool) (message : Text) :
    (Notice.error status ok message).Quiet := ⟨fun _ => rfl, fun _ => rfl, by simp [Notice.names]⟩

/-- A status that is not the end of the session. -/
theorem quiet_status {status : String} (other : status ≠ "logged_out") (ok : Option Bool)
    (reason : Option String) (message : Text) : (Notice.status status ok reason message).Quiet :=
  ⟨fun _ => if_neg other, fun _ => if_neg other, by simp [Notice.names]⟩

/-- A result that is no login. -/
theorem quiet_authResult {action : AuthAction} {ok : Bool} (other : ¬ (action = .login ∧ ok = true))
    (message : Text) {username : Text} (paired : Utf16.Paired username) :
    (Notice.authResult action ok message username).Quiet :=
  ⟨fun _ => if_neg other, fun _ => if_neg other, by simpa [Notice.names] using paired⟩

/-! ## Sessions -/

/-- A name that may become the user's; without the login form there is none. -/
structure Enters (form : Bool) (username : Text) : Prop where
  /-- The login form has been there. -/
  form : form = true
  /-- The name is not empty. -/
  given : username ≠ []
  /-- The name is a string. -/
  paired : Utf16.Paired username

namespace ClientSession

/-- The user that is logged in. -/
def login (session : ClientSession) : Option Text :=
  if session.loggedIn then some session.username else none

/-- The ids of the groups that the session knows. -/
def groupIds (session : ClientSession) : List Text := session.groupsById.map Prod.fst

/-- The browser has been told the truth, behind what it was told before. -/
structure Candid (form : Bool) (before : List Notice) (session : ClientSession) : Prop where
  /-- What it was told before is part of it. -/
  since : before <+: session.notices
  /-- Who is logged in. -/
  login : loginOf session.notices = session.login
  /-- The groups, while somebody is logged in. -/
  groups : session.loggedIn = true → ∀ id, id ∈ groupsOf session.notices ↔ id ∈ session.groupIds
  /-- The names are strings. -/
  names : ∀ notice ∈ session.notices, ∀ name ∈ notice.names, Utf16.Paired name
  /-- Everybody who has logged in has come through the login form. -/
  entered : ∀ message username, Notice.authResult .login true message username ∈ session.notices →
    Enters form username
  /-- So has the user. -/
  user : session.loggedIn = true → Enters form session.username
  /-- So will the next one. -/
  pending : ∀ action username, Pending.auth action username ∈ session.pendingResponses →
    Enters form username

variable {form : Bool} {before : List Notice} {session : ClientSession}

namespace Candid

/-- Something else changes; a reply to a login may be due no longer. -/
theorem keep (told : session.Candid form before) {session' : ClientSession}
    (loggedIn : session'.loggedIn = session.loggedIn) (username : session'.username = session.username)
    (groupsById : session'.groupsById = session.groupsById)
    (notices : session'.notices = session.notices)
    (pending : ∀ action username, Pending.auth action username ∈ session'.pendingResponses →
      Pending.auth action username ∈ session.pendingResponses) : session'.Candid form before where
  since := notices ▸ told.since
  login := by
    rw [notices, told.login, ClientSession.login, ClientSession.login, loggedIn, username]
  groups entered := by
    rw [notices, ClientSession.groupIds, groupsById]
    exact told.groups (loggedIn ▸ entered)
  names := notices ▸ told.names
  entered := notices ▸ told.entered
  user entered := username ▸ told.user (loggedIn ▸ entered)
  pending action username due := told.pending action username (pending action username due)

/-- The browser is told something else. -/
theorem say (told : session.Candid form before) {notice : Notice} (quiet : notice.Quiet) :
    (session.send notice).Candid form before where
  since := told.since.trans (List.prefix_append _ _)
  login := by
    rw [ClientSession.send, loginOf_append, quiet.login]
    exact told.login
  groups entered := by
    rw [ClientSession.send, groupsOf_append, quiet.groups]
    exact told.groups entered
  names notice' inside := by
    rcases List.mem_append.mp inside with inside | inside
    · exact told.names notice' inside
    · rw [List.mem_singleton.mp inside]
      exact quiet.names
  entered message username inside := by
    rcases List.mem_append.mp inside with inside | inside
    · exact told.entered message username inside
    · have same := quiet.login none
      rw [← List.mem_singleton.mp inside] at same
      contradiction
  user := told.user
  pending := told.pending

/-- An error. -/
theorem sendError (told : session.Candid form before) (message : Text) :
    (session.sendError message).Candid form before := told.say (quiet_error none none message)

/-- A reply is due. -/
theorem expect (told : session.Candid form before) (action : StatusAction) :
    (session.expect (.status action)).Candid form before := by
  refine told.keep rfl rfl rfl rfl fun action' username due => ?_
  rcases List.mem_append.mp due with due | due
  · exact due
  · simp at due

/-- A packet is sent. -/
theorem posted (told : session.Candid form before) {packet : Except Text (List UInt8)}
    {session' : ClientSession} (sent : session.post packet = .ok session') : session'.Candid form before := by
  rcases post_cases session packet with ⟨socket, bytes, _, _, posted⟩ | ⟨⟨message, posted⟩, _⟩
  · rw [posted] at sent
    cases sent
    exact told.keep rfl rfl rfl rfl fun _ _ due => due
  · rw [posted] at sent
    contradiction

/-- A packet is sent, or the browser is told why not. -/
theorem post (told : session.Candid form before) (packet : Except Text (List UInt8)) :
    (session.caught (session.post packet)).Candid form before := by
  unfold caught
  split
  · rename_i session' sent
    exact told.posted sent
  · exact told.sendError _

/-- A request of somebody who is logged in. -/
theorem requireLogin (told : session.Candid form before) {body : ClientSession → ClientSession}
    (kept : (body session).Candid form before) : (session.requireLogin body).Candid form before := by
  unfold ClientSession.requireLogin
  split
  · exact told.sendError _
  · exact kept

/-- The connection is closed by the session. -/
theorem closeTcp (told : session.Candid form before) (sendLogout : Bool) :
    (session.closeTcp sendLogout).Candid form before := by
  obtain ⟨sockets, closed⟩ := session.closeTcp_eq sendLogout
  rw [closed]
  exact told.keep rfl rfl rfl rfl fun _ _ due => due

/-! ## The browser's requests -/

/-- `handleOnlineList` -/
theorem handleOnlineList (told : session.Candid form before) : session.handleOnlineList.Candid form before :=
  told.requireLogin (told.post _)

/-- `handlePrivate` -/
theorem handlePrivate (told : session.Candid form before) (receiver text : Text) :
    (session.handlePrivate receiver text).Candid form before := by
  apply told.requireLogin
  dsimp only
  split
  · exact told.sendError _
  · exact (told.expect _).post _

/-- `handleGroup` -/
theorem handleGroup (told : session.Candid form before) (text : Text) : (session.handleGroup text).Candid form before := by
  apply told.requireLogin
  split
  · exact told.sendError _
  · exact (told.expect _).post _

/-- `handleGroupList` -/
theorem handleGroupList (told : session.Candid form before) : session.handleGroupList.Candid form before :=
  told.requireLogin (told.post _)

/-- `handleCreateGroup` -/
theorem handleCreateGroup (told : session.Candid form before) (name : Text) (members : List Text) :
    (session.handleCreateGroup name members).Candid form before := by
  apply told.requireLogin
  dsimp only
  split
  · exact told.sendError _
  split
  · exact told.sendError _
  split
  · exact told.sendError _
  · exact (told.expect _).post _

/-- `handleGroupMessage` -/
theorem handleGroupMessage (told : session.Candid form before) (groupId text : Text) :
    (session.handleGroupMessage groupId text).Candid form before := by
  apply told.requireLogin
  dsimp only
  split
  · exact told.sendError _
  split
  · exact told.sendError _
  have asked := told.expect .sendGroupMessage
  split
  · rename_i session' sent
    exact asked.posted sent
  · apply sendError
    refine asked.keep rfl rfl rfl rfl fun action username due => ?_
    exact List.mem_of_mem_filter due

/-- `handleSendFileBegin` -/
theorem handleSendFileBegin (told : session.Candid form before) (receiver filename : Text) (filesize : Number) :
    (session.handleSendFileBegin receiver filename filesize).Candid form before := by
  apply told.requireLogin
  dsimp only
  split
  · exact told.sendError _
  split
  · exact told.sendError _
  split
  · exact told.sendError _
  · exact told.post _

/-- `handleSendFileChunk` -/
theorem handleSendFileChunk (told : session.Candid form before) (receiver : Text) (data : List UInt8) :
    (session.handleSendFileChunk receiver data).Candid form before := by
  apply told.requireLogin
  dsimp only
  split
  · exact told.sendError _
  split
  · exact told.sendError _
  · exact told.post _

/-- `handleSendFileEnd` -/
theorem handleSendFileEnd (told : session.Candid form before) (receiver : Text) :
    (session.handleSendFileEnd receiver).Candid form before := by
  apply told.requireLogin
  dsimp only
  split
  · exact told.sendError _
  · exact (told.expect _).post _

/-- The session ends. -/
theorem leave (told : session.Candid form before) {session' : ClientSession} (loggedIn : session'.loggedIn = false)
    (notices : session'.notices = session.notices)
    (pending : ∀ action username, Pending.auth action username ∈ session'.pendingResponses →
      Pending.auth action username ∈ session.pendingResponses)
    (ok : Option Bool) (reason : Option String) (message : Text) :
    (session'.send (.status "logged_out" ok reason message)).Candid form before where
  since := (notices ▸ told.since).trans (List.prefix_append _ _)
  login := by
    rw [ClientSession.send, loginOf_append, ClientSession.login, loggedIn]
    rfl
  groups entered := by
    rw [ClientSession.send, loggedIn] at entered
    contradiction
  names notice inside := by
    rcases List.mem_append.mp inside with inside | inside
    · exact told.names notice (notices ▸ inside)
    · rw [List.mem_singleton.mp inside]
      simp [Notice.names]
  entered message username inside := by
    rcases List.mem_append.mp inside with inside | inside
    · exact told.entered message username (notices ▸ inside)
    · simp at inside
  user entered := by
    rw [ClientSession.send, loggedIn] at entered
    contradiction
  pending action username due := told.pending action username (pending action username due)

/-- The action `logout`. -/
theorem logout (told : session.Candid form before) : session.logout.Candid form before := by
  unfold ClientSession.logout
  split
  · exact (told.expect _).post _
  · have closed (session : ClientSession) : ∃ sockets, session.closeTcp false =
        { session with tcpSocket := none, tcpConfig := none, sockets } := session.closeTcp_eq false
    obtain ⟨sockets, closed⟩ := closed { session with loggedIn := false, username := [], groupsById := [] }
    dsimp only
    rw [closed]
    apply told.leave
    · rfl
    · rfl
    · exact fun _ _ due => due

/-- The action `disconnect_tcp`. -/
theorem disconnectTcp (told : session.Candid form before) : session.disconnectTcp.Candid form before :=
  (told.closeTcp true).say (quiet_status (by decide) _ _ _)

/-- `cleanup` -/
theorem cleanup (told : session.Candid form before) : session.cleanup.Candid form before := by
  have closing : ClientSession.Candid form before { session with closing := true } :=
    told.keep rfl rfl rfl rfl fun _ _ due => due
  exact closing.closeTcp true

/-- `net.createConnection` -/
theorem createConnection (told : session.Candid form before) (config : Config) :
    (session.createConnection config).1.Candid form before :=
  told.keep rfl rfl rfl rfl fun _ _ due => due

/-- A socket changes. -/
theorem updateSocket (told : session.Candid form before) (socket : Nat) (change : Socket → Socket) :
    (session.updateSocket socket change).Candid form before :=
  told.keep rfl rfl rfl rfl fun _ _ due => due

/-- The callback of `connect`. -/
theorem onConnect (told : session.Candid form before) (socket : Nat) : (session.onConnect socket).Candid form before := by
  apply say _ (quiet_status (by decide) _ _ _)
  exact told.keep rfl rfl rfl rfl fun _ _ due => due

/-- The callback of `error`. -/
theorem onError (told : session.Candid form before) (socket : Nat) (message : Text) :
    (session.onError socket message).Candid form before := by
  unfold ClientSession.onError
  split
  · exact told
  · exact told.sendError _

/-! ## The packets of the server -/

/-- A login is accepted. -/
theorem enter (told : session.Candid form before) {username : Text} (enters : Enters form username)
    {session' : ClientSession} (loggedIn : session'.loggedIn = true)
    (named : session'.username = username) (groupsById : session'.groupsById = [])
    (notices : session'.notices = session.notices)
    (pending : ∀ action username, Pending.auth action username ∈ session'.pendingResponses →
      Pending.auth action username ∈ session.pendingResponses) (message : Text) :
    (session'.send (.authResult .login true message username)).Candid form before where
  since := (notices ▸ told.since).trans (List.prefix_append _ _)
  login := by
    rw [ClientSession.send, loginOf_append, ClientSession.login, loggedIn, named]
    rfl
  groups _ id := by
    rw [ClientSession.send, groupsOf_append, ClientSession.groupIds, groupsById]
    rfl
  names notice inside := by
    rcases List.mem_append.mp inside with inside | inside
    · exact told.names notice (notices ▸ inside)
    · rw [List.mem_singleton.mp inside]
      simpa [Notice.names] using enters.paired
  entered message' username' inside := by
    rcases List.mem_append.mp inside with inside | inside
    · exact told.entered message' username' (notices ▸ inside)
    · cases List.mem_singleton.mp inside
      exact enters
  user _ := by
    rw [ClientSession.send, named]
    exact enters
  pending action username due := told.pending action username (pending action username due)

/-- `handleCommandResponse` -/
theorem handleCommandResponse (told : session.Candid form before) (packet : ReceivedPacket) :
    (session.handleCommandResponse packet).Candid form before := by
  have shorter : ∀ action username, Pending.auth action username ∈ session.pendingResponses.tail →
      Pending.auth action username ∈ session.pendingResponses := fun _ _ due => List.mem_of_mem_tail due
  have rest : ClientSession.Candid form before
      { session with pendingResponses := session.pendingResponses.tail } :=
    told.keep rfl rfl rfl rfl shorter
  unfold ClientSession.handleCommandResponse
  dsimp only
  split
  · rename_i action username first
    have due : Pending.auth action username ∈ session.pendingResponses := List.mem_of_mem_head? first
    have enters := told.pending action username due
    split
    · rename_i accepted
      obtain ⟨ok, rfl⟩ := accepted
      rw [decide_eq_true ok]
      apply told.enter enters
      · rfl
      · rfl
      · rfl
      · rfl
      · exact shorter
    · rename_i other
      apply rest.say
      apply quiet_authResult _ _ enters.paired
      rintro ⟨login, ok⟩
      exact other ⟨of_decide_eq_true ok, login⟩
  · apply closeTcp
    apply told.leave
    · rfl
    · rfl
    · exact shorter
  · rename_i action first _
    apply rest.say
    split
    · apply quiet_status
      cases action <;> decide
    · exact quiet_error _ _ _
  · apply rest.say
    split
    · exact quiet_status (by decide) _ _ _
    · exact quiet_error _ _ _

/-- `handleIncomingFileBegin` -/
theorem handleIncomingFileBegin (told : session.Candid form before) (packet : ReceivedPacket) :
    (session.handleIncomingFileBegin packet).Candid form before := by
  have progress (sender filename : Text) (received expected : Nat) :
      (Notice.fileProgress sender filename received expected).Quiet :=
    ⟨fun _ => rfl, fun _ => rfl, by simp [Notice.names]⟩
  unfold ClientSession.handleIncomingFileBegin
  split
  · exact told.say (quiet_error _ _ _)
  split
  · exact told.say (quiet_error _ _ _)
  · apply say _ (progress _ _ _ _)
    exact told.keep rfl rfl rfl rfl fun _ _ due => due

/-- `handleIncomingFileChunk` -/
theorem handleIncomingFileChunk (told : session.Candid form before) (packet : ReceivedPacket) :
    (session.handleIncomingFileChunk packet).Candid form before := by
  unfold ClientSession.handleIncomingFileChunk
  split
  · exact told
  · apply say _ ⟨fun _ => rfl, fun _ => rfl, by simp [Notice.names]⟩
    exact told.keep rfl rfl rfl rfl fun _ _ due => due

/-- `handleIncomingFileEnd` -/
theorem handleIncomingFileEnd (told : session.Candid form before) : session.handleIncomingFileEnd.Candid form before := by
  have dropped : ClientSession.Candid form before { session with incomingFile := none } :=
    told.keep rfl rfl rfl rfl fun _ _ due => due
  unfold ClientSession.handleIncomingFileEnd
  split
  · exact told
  dsimp only
  split
  · exact dropped.say (quiet_error _ _ _)
  · exact dropped.say ⟨fun _ => rfl, fun _ => rfl, by simp [Notice.names]⟩

/-- The groups change, and the browser is told of the same groups. -/
theorem regroup (told : session.Candid form before) {groupsById : List (Text × Group)} {notice : Notice}
    (login : ∀ user, notice.login user = user)
    (groups : session.loggedIn = true → ∀ id,
      id ∈ notice.groupIds (groupsOf session.notices) ↔ id ∈ groupsById.map Prod.fst)
    (names : ∀ name ∈ notice.names, Utf16.Paired name) :
    (ClientSession.send { session with groupsById } notice).Candid form before where
  since := told.since.trans (List.prefix_append _ _)
  login := by
    rw [ClientSession.send, loginOf_append, login]
    exact told.login
  groups entered := by
    rw [ClientSession.send, groupsOf_append]
    exact groups entered
  names notice' inside := by
    rcases List.mem_append.mp inside with inside | inside
    · exact told.names notice' inside
    · rw [List.mem_singleton.mp inside]
      exact names
  entered message username inside := by
    rcases List.mem_append.mp inside with inside | inside
    · exact told.entered message username inside
    · have same := login none
      rw [← List.mem_singleton.mp inside] at same
      contradiction
  user := told.user
  pending := told.pending


end Candid

/-! ## Packets -/

/-- A part of a text has the text's code points. -/
theorem mem_of_mem_splitOn {text part : Text} {separator point : Nat}
    (part_ : part ∈ text.splitOn separator) (inside : point ∈ part) : point ∈ text := by
  have joined (parts : List Text) (member : part ∈ parts) :
      point ∈ [separator].intercalate parts := by
    induction parts with
    | nil => simp at member
    | cons first later ih =>
      cases later with
      | nil =>
        rw [List.mem_singleton.mp member] at inside
        simpa [List.intercalate] using inside
      | cons second later =>
        rw [List.intercalate_cons_cons]
        rcases List.mem_cons.mp member with rfl | member
        · simp [inside]
        · simp [ih member]
  have whole := joined _ part_
  rwa [List.intercalate_splitOn] at whole

/-- The parts of a text of scalar values. -/
theorem paired_of_mem_splitOn {text part : Text} (scalars : ∀ point ∈ text, Utf8.Scalar point)
    {separator : Nat} (part_ : part ∈ text.splitOn separator) : Utf16.Paired part :=
  Utf8.paired_of_scalar fun point inside => scalars point (mem_of_mem_splitOn part_ inside)

/-- The fields of a payload are strings. -/
theorem decodeGroupFields_paired {data : List UInt8} {fields : List Text}
    (decoded : decodeGroupFields data = some fields) : ∀ field ∈ fields, Utf16.Paired field := by
  unfold decodeGroupFields at decoded
  split at decoded
  · cases decoded
    simp
  split at decoded
  · contradiction
  · cases decoded
    exact fun field member => paired_of_mem_splitOn (Utf8.decode_scalar _) member

/-- The ids of a group list are strings. -/
theorem decodeGroupListPayload_paired {data : List UInt8} {groups : List Group}
    (decoded : decodeGroupListPayload data = some groups) :
    ∀ id ∈ groups.map (·.id), Utf16.Paired id := by
  obtain ⟨fields, read, rest⟩ := Option.bind_eq_some_iff.mp decoded
  have paired := decodeGroupFields_paired read
  cases fields with
  | nil =>
    cases rest
    simp
  | cons groupCount fields =>
    obtain ⟨count, _, rest⟩ := Option.bind_eq_some_iff.mp rest
    obtain ⟨⟨parsed, later⟩, taken, rest⟩ := Option.bind_eq_some_iff.mp rest
    obtain ⟨records, _, same, groups_⟩ := parseGroupRecords_eq_some.mp taken
    dsimp only at rest
    split at rest
    · contradiction
    cases rest
    subst same groups_
    intro id member
    obtain ⟨group, inside, rfl⟩ := List.mem_map.mp member
    obtain ⟨record, listed, rfl⟩ := List.mem_map.mp inside
    apply paired
    have among : record.id ∈ records.flatMap GroupRecord.fields :=
      List.mem_flatMap.mpr ⟨record, listed, List.mem_cons_self⟩
    simp [GroupRecord.group, among]

/-- The id of a group event is a string. -/
theorem decodeGroupEventPayload_paired {data : List UInt8} {event : Text} {group : Group}
    (decoded : decodeGroupEventPayload data = some (event, group)) : Utf16.Paired group.id := by
  obtain ⟨fields, read, rest⟩ := Option.bind_eq_some_iff.mp decoded
  have paired := decodeGroupFields_paired read
  split at rest
  · contradiction
  split at rest
  · contradiction
  obtain ⟨⟨parsed, later⟩, taken, rest⟩ := Option.bind_eq_some_iff.mp rest
  obtain ⟨record, same, group_⟩ := parseGroupRecord_eq_some.mp taken
  dsimp only at rest
  split at rest
  · contradiction
  cases rest
  subst same group_
  apply paired
  simp [GroupRecord.group, GroupRecord.fields]

/-- The id of a group message is a string. -/
theorem decodeGroupMessagePayload_paired {data : List UInt8} {groupId groupName text : Text}
    (decoded : decodeGroupMessagePayload data = some (groupId, groupName, text)) :
    Utf16.Paired groupId := by
  unfold decodeGroupMessagePayload at decoded
  split at decoded
  · rename_i read
    cases decoded
    exact decodeGroupFields_paired read _ List.mem_cons_self
  · contradiction

/-- The ids after `groupsById.set`. -/
theorem mem_groupIds_setGroup {group : Group} {id : Text} :
    id ∈ (session.setGroup group).groupIds ↔ id = group.id ∨ id ∈ session.groupIds := by
  unfold setGroup groupIds
  dsimp only
  split
  · rename_i known
    obtain ⟨entry, inside, same⟩ := List.any_eq_true.mp known
    have same : entry.1 = group.id := of_decide_eq_true same
    have keys : (session.groupsById.map fun entry =>
        if entry.1 = group.id then (group.id, group) else entry).map Prod.fst =
          session.groupsById.map Prod.fst := by
      rw [List.map_map]
      apply List.map_congr_left
      intro entry _
      rw [Function.comp_apply]
      split
      · rename_i same
        exact same.symm
      · rfl
    rw [keys]
    constructor
    · exact .inr
    · rintro (rfl | inside)
      · exact same ▸ List.mem_map_of_mem inside
      · assumption
  · simp [or_comm]

/-- The ids after several. -/
theorem mem_groupIds_foldl {groups : List Group} {id : Text} :
    id ∈ (groups.foldl setGroup session).groupIds ↔
      id ∈ groups.map (·.id) ∨ id ∈ session.groupIds := by
  induction groups generalizing session with
  | nil => simp
  | cons group groups ih =>
    rw [List.foldl_cons, ih, mem_groupIds_setGroup, List.map_cons, List.mem_cons]
    tauto

/-- A packet with decoded texts. -/
structure Decoded (packet : ReceivedPacket) : Prop where
  /-- The sender is a string. -/
  sender : Utf16.Paired packet.sender
  /-- The text is one of scalar values. -/
  text : ∀ point ∈ packet.text, Utf8.Scalar point

/-- The packets of a stream. -/
theorem decoded_packetOfFrame (frame : List UInt8) : Decoded (packetOfFrame frame) :=
  ⟨Utf8.paired_of_scalar (Utf8.decode_scalar _), Utf8.decode_scalar _⟩

namespace Candid

/-- `handlePacket` -/
theorem handlePacket (told : session.Candid form before) {packet : ReceivedPacket} (decoded : Decoded packet)
    {session' : ClientSession} (handled : session.handlePacket packet = some session') :
    session'.Candid form before := by
  have chat (mode : String) : (Notice.chatMessage mode packet.sender packet.receiver packet.text).Quiet :=
    ⟨fun _ => rfl, fun _ => rfl, by simpa [Notice.names] using decoded.sender⟩
  unfold ClientSession.handlePacket at handled
  split at handled
  · cases handled
    exact told.handleCommandResponse packet
  · cases handled
    exact told.handleCommandResponse packet
  · cases handled
    refine told.say ⟨fun _ => rfl, fun _ => rfl, ?_⟩
    intro name inside
    have inside : name ∈ if packet.text = literal "当前没有在线用户" then []
        else (packet.text.splitOn 10).filter (· ≠ []) := inside
    split at inside
    · simp at inside
    · exact paired_of_mem_splitOn decoded.text (List.mem_filter.mp inside).1
  · cases handled
    exact told.say (chat _)
  · cases handled
    exact told.say (chat _)
  · obtain ⟨groups, listed, rest⟩ := Option.bind_eq_some_iff.mp handled
    have ids (id : Text) : id ∈ (groups.foldl setGroup { session with groupsById := [] }).groupIds ↔
        id ∈ groups.map (·.id) := by
      rw [mem_groupIds_foldl]
      simp [groupIds]
    obtain ⟨groupsById, same⟩ := foldl_setGroup_eq { session with groupsById := [] } groups
    rw [same] at rest ids
    cases rest
    exact told.regroup (fun _ => rfl) (fun _ id => (ids id).symm)
      (decodeGroupListPayload_paired listed)
  · obtain ⟨⟨event, group⟩, read, rest⟩ := Option.bind_eq_some_iff.mp handled
    cases rest
    refine told.regroup (fun _ => rfl) (fun entered id => ?_) ?_
    · have known := @mem_groupIds_setGroup session group id
      rw [← told.groups entered id] at known
      exact List.mem_cons.trans known.symm
    · simpa [Notice.names] using decodeGroupEventPayload_paired read
  · obtain ⟨⟨groupId, groupName, text⟩, read, rest⟩ := Option.bind_eq_some_iff.mp handled
    cases rest
    refine told.regroup (fun _ => rfl) (fun entered id => ?_) ?_
    · have known := @mem_groupIds_setGroup session ⟨groupId, groupName,
        (session.getGroup groupId).bind Group.creator, (session.getGroup groupId).bind Group.members⟩ id
      rw [← told.groups entered id] at known
      exact List.mem_cons.trans known.symm
    · simpa [Notice.names] using ⟨decodeGroupMessagePayload_paired read, decoded.sender⟩
  · cases handled
    exact told.handleIncomingFileBegin packet
  · cases handled
    exact told.handleIncomingFileChunk packet
  · cases handled
    exact told.handleIncomingFileEnd
  · cases handled
    exact told.say (quiet_status (by decide) _ _ _)

/-- The loop of `handleTcpData`. -/
theorem handlePackets (told : session.Candid form before) {packets : List ReceivedPacket}
    (decoded : ∀ packet ∈ packets, Decoded packet) {session' : ClientSession}
    (handled : (session.handlePackets packets).2 = some session') : session'.Candid form before := by
  induction packets generalizing session with
  | nil =>
    cases handled
    exact told
  | cons packet packets ih =>
    rw [ClientSession.handlePackets] at handled
    cases first : session.handlePacket packet with
    | none =>
      rw [first] at handled
      contradiction
    | some between =>
      rw [first] at handled
      have later := told.handlePacket (decoded packet List.mem_cons_self) first
      exact ih later (fun packet inside => decoded packet (List.mem_cons_of_mem _ inside)) handled

/-- `handleTcpData` -/
theorem handleTcpData (told : session.Candid form before) {chunk : List UInt8} {session' : ClientSession}
    (handled : (session.handleTcpData chunk).2 = some session') : session'.Candid form before := by
  have keep (tcpDecoder : PacketDecoder) : ClientSession.Candid form before { session with tcpDecoder } :=
    told.keep rfl rfl rfl rfl fun _ _ due => due
  rw [ClientSession.handleTcpData, PacketDecoder.push_eq] at handled
  split at handled
  · rename_i pushed
    cases handled
    exact ((keep _).say (quiet_error _ _ _)).closeTcp false
  · rename_i packets decoder pushed
    refine (keep decoder).handlePackets (fun packet inside => ?_) handled
    split at pushed
    · simp at pushed
    · cases pushed
      obtain ⟨frame, _, rfl⟩ := List.mem_map.mp inside
      exact decoded_packetOfFrame frame

/-- The callback of `close`, unless a login is due while somebody is logged in. -/
theorem onClose (told : session.Candid form before) {socket : Nat}
    (kept : session.tcpSocket = some socket → session.closing = false → session.loggedIn = true →
      ∀ action username, Pending.auth action username ∉ session.pendingResponses) :
    (session.onClose socket).Candid form before := by
  unfold ClientSession.onClose
  split
  · exact told
  rename_i current
  have current : session.tcpSocket = some socket := not_not.mp current
  dsimp only
  split
  · exact told.keep rfl rfl rfl rfl fun _ _ due => absurd due List.not_mem_nil
  rename_i open_
  have open_ : session.closing = false := Bool.eq_false_iff.mpr open_
  have out (free : session.loggedIn = false) : ClientSession.Candid form before
      { session with
        tcpSocket := none, tcpConfig := none, pendingResponses := [], loggedIn := false,
        username := [], groupsById := [] } :=
    { told with
      login := by
        rw [told.login, ClientSession.login, if_neg (by simp [free])]
        rfl
      groups := fun entered => absurd entered Bool.false_ne_true
      user := fun entered => absurd entered Bool.false_ne_true
      pending := fun _ _ due => absurd due List.not_mem_nil }
  split
  · rename_i action username found
    obtain ⟨entry, due, shape⟩ := List.exists_of_findSome?_eq_some found
    have same : entry = .auth action username := by
      cases entry with
      | auth action' username' =>
        cases shape
        rfl
      | status other => contradiction
    rw [same] at due
    have free : session.loggedIn = false :=
      Bool.eq_false_iff.mpr fun entered => kept current open_ entered action username due
    exact (out free).say (quiet_authResult (by simp) _ (told.pending _ _ due).paired)
  · split
    · apply told.leave
      · rfl
      · rfl
      · exact fun _ _ due => absurd due List.not_mem_nil
    · rename_i outside
      have free : session.loggedIn = false :=
        Bool.eq_false_iff.mpr fun entered => outside ⟨entered, (told.user entered).given⟩
      exact (out free).say (quiet_status (by decide) _ _ _)

end Candid

end ClientSession

/-! ## Calls -/

/-- The name that a call is about may become the user's. -/
def Purpose.Entering (form : Bool) : Purpose → Prop
  | .connect => True
  | .auth _ username _ => Enters form username

/-- A login comes from the login form. -/
def Action.Entering (form : Bool) : Action → Prop
  | .auth _ username _ _ => form = true ∧ Utf16.Paired (trim username)
  | _ => True

namespace Gateway

/-- The browser has been told the truth, and so it will be of the logins that are under way. -/
structure Candid (form : Bool) (before : List Notice) (gateway : Gateway) : Prop where
  /-- The session. -/
  session : gateway.session.Candid form before
  /-- The calls. -/
  calls : ∀ call ∈ gateway.calls, call.purpose.Entering form

/-- The connection of somebody who is logged in ends while a reply to a registration or a login is
due. -/
def Drops (gateway : Gateway) (happening : Happening) : Prop :=
  ∃ socket action username, happening = .close socket ∧ gateway.session.tcpSocket = some socket ∧
    gateway.session.closing = false ∧ gateway.session.loggedIn = true ∧
    Pending.auth action username ∈ gateway.session.pendingResponses

variable {form : Bool} {before : List Notice} {gateway : Gateway}

namespace Candid

/-- The session goes on. -/
theorem goOn (candid : gateway.Candid form before) {session : ClientSession}
    (told : session.Candid form before) : Candid form before { gateway with session } :=
  ⟨told, candid.calls⟩

/-- A call more. -/
theorem wait (candid : gateway.Candid form before) {session : ClientSession}
    (told : session.Candid form before) {call : Call} (entering : call.purpose.Entering form) :
    Candid form before ⟨session, gateway.calls ++ [call]⟩ := by
  refine ⟨told, fun call' inside => ?_⟩
  rcases List.mem_append.mp inside with inside | inside
  · exact candid.calls call' inside
  · rw [List.mem_singleton.mp inside]
    exact entering

/-- A call changes its stage. -/
theorem restage (candid : gateway.Candid form before) {session : ClientSession}
    (told : session.Candid form before) {number : Nat} {call call' : Call} (member : call ∈ gateway.calls)
    (same : call'.purpose = call.purpose) :
    Candid form before ⟨session, gateway.calls.set number call'⟩ := by
  refine ⟨told, fun other inside => ?_⟩
  rcases List.mem_or_eq_of_mem_set inside with inside | rfl
  · exact candid.calls other inside
  · rw [same]
    exact candid.calls call member

/-- `ensureTcp` -/
theorem ensureTcp (candid : gateway.Candid form before) {purpose : Purpose}
    (entering : purpose.Entering form) (config : Config) :
    (gateway.ensureTcp purpose config).Candid form before := by
  unfold Gateway.ensureTcp
  split
  · exact candid.wait candid.session entering
  · exact candid.wait ((candid.session.closeTcp false).createConnection config) entering

/-- A message of the browser. -/
theorem handleMessage (candid : gateway.Candid form before) {action : Action}
    (entering : action.Entering form) : (gateway.handleMessage action).Candid form before := by
  have told := candid.session
  cases action with
  | connectTcp config =>
    have entering : Purpose.connect.Entering form := trivial
    exact candid.ensureTcp entering config
  | disconnectTcp => exact candid.goOn told.disconnectTcp
  | auth action username password config =>
    obtain ⟨form_, paired⟩ := entering
    unfold Gateway.handleMessage handleRegisterOrLogin
    dsimp only
    cases valid : validateAuth (trim username) password with
    | some error => exact candid.goOn (told.say (quiet_authResult (by simp) _ paired))
    | none =>
      have given : trim username ≠ [] := by
        intro empty
        rw [validateAuth, if_pos (.inl empty)] at valid
        contradiction
      have entering : (Purpose.auth action (trim username) password).Entering form :=
        ⟨form_, given, paired⟩
      exact candid.ensureTcp entering config
  | logout => exact candid.goOn told.logout
  | onlineList => exact candid.goOn told.handleOnlineList
  | sendPrivate receiver text => exact candid.goOn (told.handlePrivate receiver text)
  | sendGroup text => exact candid.goOn (told.handleGroup text)
  | groupList => exact candid.goOn told.handleGroupList
  | createGroup name members => exact candid.goOn (told.handleCreateGroup name members)
  | sendGroupMessage groupId text => exact candid.goOn (told.handleGroupMessage groupId text)
  | sendFileBegin receiver filename filesize =>
    exact candid.goOn (told.handleSendFileBegin receiver filename filesize)
  | sendFileChunk receiver data => exact candid.goOn (told.handleSendFileChunk receiver data)
  | sendFileEnd receiver => exact candid.goOn (told.handleSendFileEnd receiver)

/-- A call ends with an error. -/
theorem threw {session : ClientSession} (told : session.Candid form before) {purpose : Purpose}
    (entering : purpose.Entering form) (message : Text) :
    (Gateway.threw session purpose message).Candid form before := by
  cases purpose with
  | connect => exact told.sendError message
  | auth action username password => exact told.say (quiet_authResult (by simp) _ entering.paired)

/-- A call returns. -/
theorem returned {session : ClientSession} (told : session.Candid form before) {purpose : Purpose}
    (entering : purpose.Entering form) : (Gateway.returned session purpose).Candid form before := by
  cases purpose with
  | connect => exact told
  | auth action username password =>
    have asked : (session.expect (.auth action username)).Candid form before :=
      { told with
        pending := fun action' username' due => by
          rcases List.mem_append.mp due with due | due
          · exact told.pending action' username' due
          · cases List.mem_singleton.mp due
            exact entering }
    unfold Gateway.returned
    dsimp only
    split
    · rename_i session' sent
      exact asked.posted sent
    · exact threw asked entering _

/-- A call goes on. -/
theorem resume (candid : gateway.Candid form before) {number : Nat} {wslHost : Text}
    {gateway' : Gateway} (resumed : gateway.resume number wslHost = some gateway') :
    gateway'.Candid form before := by
  unfold Gateway.resume at resumed
  split at resumed
  · contradiction
  rename_i call found
  have member : call ∈ gateway.calls := List.mem_of_getElem? found
  have rest : ∀ call ∈ gateway.calls.eraseIdx number, call.purpose.Entering form :=
    fun other inside => candid.calls other (List.mem_of_mem_eraseIdx inside)
  split at resumed
  · contradiction
  · cases resumed
    exact ⟨returned candid.session (candid.calls call member), rest⟩
  · cases resumed
    exact ⟨threw candid.session (candid.calls call member) _, rest⟩
  · generalize (if isLocalhost call.config.host then wslHost else []) = host at resumed
    dsimp only at resumed
    split at resumed
    · cases resumed
      exact candid.restage candid.session member rfl
    · cases resumed
      exact candid.restage (candid.session.createConnection _) member rfl

/-- The calls learn of a socket. -/
theorem tellCalls (candid : gateway.Candid form before) {session : ClientSession}
    (told : session.Candid form before) {change : Call → Call}
    (same : ∀ call, (change call).purpose = call.purpose) :
    Candid form before ⟨session, gateway.calls.map change⟩ := by
  refine ⟨told, fun call inside => ?_⟩
  obtain ⟨own, listed, rfl⟩ := List.mem_map.mp inside
  rw [same]
  exact candid.calls own listed

/-- One step, unless somebody's connection is dropped. -/
theorem step (candid : gateway.Candid form before) {happening : Happening}
    (kept : ¬ gateway.Drops happening)
    (entering : ∀ action, happening = .browser action → action.Entering form) {gateway' : Gateway}
    (taken : gateway.step happening = some gateway') : gateway'.Candid form before := by
  have told := candid.session
  cases happening with
  | browser action =>
    obtain ⟨_, handled⟩ := Option.ite_none_left_eq_some.mp taken
    cases handled
    exact candid.handleMessage (entering action rfl)
  | leave =>
    obtain ⟨_, handled⟩ := Option.ite_none_left_eq_some.mp taken
    cases handled
    exact candid.goOn told.cleanup
  | connect socket =>
    obtain ⟨_, handled⟩ := Option.ite_none_right_eq_some.mp taken
    cases handled
    refine candid.tellCalls (told.onConnect socket) fun call => ?_
    unfold Call.connected
    split
    · split
      · rfl
      · rfl
    · rfl
  | lost socket =>
    obtain ⟨_, handled⟩ := Option.ite_none_right_eq_some.mp taken
    cases handled
    exact candid.goOn (told.updateSocket socket _)
  | error socket message =>
    obtain ⟨_, handled⟩ := Option.ite_none_right_eq_some.mp taken
    split at handled
    · cases handled
      refine candid.tellCalls (told.updateSocket socket _) fun call => ?_
      unfold Call.failed
      split
      · split
        · rfl
        · rfl
      · rfl
    · cases handled
      exact candid.goOn (told.onError socket message)
  | close socket =>
    obtain ⟨_, handled⟩ := Option.ite_none_right_eq_some.mp taken
    cases handled
    apply candid.goOn
    refine (told.updateSocket socket _).onClose fun current open_ entered action username due => ?_
    exact kept ⟨socket, action, username, rfl, current, open_, entered, due⟩
  | data socket chunk =>
    obtain ⟨_, handled⟩ := Option.ite_none_right_eq_some.mp taken
    obtain ⟨session, answered, rfl⟩ := Option.map_eq_some_iff.mp handled
    exact candid.goOn (told.handleTcpData answered)
  | resume number wslHost => exact candid.resume taken

/-- Without the login form nobody's connection is dropped. -/
theorem no_drop (candid : gateway.Candid false before) (happening : Happening) :
    ¬ gateway.Drops happening := by
  rintro ⟨_, _, _, _, _, _, entered, _⟩
  have form := (candid.session.user entered).form
  contradiction

end Candid

end Gateway

end MultiUserChat.Web
