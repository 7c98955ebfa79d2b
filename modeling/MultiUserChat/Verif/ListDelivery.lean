import MultiUserChat.Verif.GroupLists
import MultiUserChat.Verif.TextDelivery
/-!
# Who is online, on the page

A list of the online users or of the groups on its way from the stores of the chat server to a page.
However its bytes are cut, the page that reads it shows the users and the groups that the stores held
when the server answered (`onlineUsers_shown`, `groups_shown`).
-/

namespace MultiUserChat

namespace Web

open Page Program

/-! ## What the page makes of a list -/

/-- What is not repeated stays when repetitions are erased. -/
theorem eraseDups_of_nodup {names : List Text} (distinct : names.Nodup) : names.eraseDups = names := by
  induction names with
  | nil => rfl
  | cons name names ih =>
    obtain ⟨new, distinct⟩ := List.nodup_cons.mp distinct
    have others : names.filter (fun other => !other == name) = names := by
      apply List.filter_eq_self.mpr
      intro other inside
      have apart : other ≠ name := fun same => new (same ▸ inside)
      simpa using apart
    rw [List.eraseDups_cons, others, ih distinct]

/-- Names that are not empty and not repeated are left as they are. -/
theorem uniqueNames_eq_self {names : List Text} (given : ∀ name ∈ names, name ≠ [])
    (distinct : names.Nodup) : uniqueNames names = names := by
  have all : names.filter (· ≠ []) = names :=
    List.filter_eq_self.mpr fun name inside => decide_eq_true (given name inside)
  rw [uniqueNames, all, eraseDups_of_nodup distinct]

section

variable [Browser]

/-- What a list of the online users leaves as it is. -/
structure Relisted (page page' : Page) (onlineUsers : List Text) : Prop where
  /-- The online users. -/
  onlineUsers : page'.onlineUsers = onlineUsers
  /-- The tab. -/
  currentTab : page'.currentTab = page.currentTab
  /-- The search. -/
  search : page'.search = page.search
  /-- The user. -/
  currentUsername : page'.currentUsername = page.currentUsername

/-- Rendering the header and the roster keeps what a list of online users settles. -/
theorem Relisted.rendered {page page' : Page} {onlineUsers : List Text}
    (relisted : Relisted page page' onlineUsers) :
    Relisted page page'.updateHeader.renderRoster onlineUsers := by
  obtain ⟨online, status, header⟩ := page'.updateHeader_eq
  rw [header]
  exact ⟨relisted.onlineUsers, relisted.currentTab, relisted.search, relisted.currentUsername⟩

/-- The online users are those of the list. -/
theorem renderOnlineUsers_relisted (page : Page) (users : List Text) :
    Relisted page (page.renderOnlineUsers users) (uniqueNames users) := by
  obtain ⟨knownContacts, added⟩ :=
    foldl_addContact_eq (uniqueNames users) { page with onlineUsers := uniqueNames users }
  unfold Page.renderOnlineUsers
  apply Relisted.rendered
  rw [added]
  split
  · split
    · exact ⟨rfl, rfl, rfl, rfl⟩
    · exact ⟨rfl, rfl, rfl, rfl⟩
  · split
    · exact ⟨rfl, rfl, rfl, rfl⟩
    · exact ⟨rfl, rfl, rfl, rfl⟩

/-- In the friends tab a user is marked as online who is. -/
theorem friendItems_online {query currentUsername name : Text} {onlineUsers knownContacts : List Text}
    (all : query = []) (given : name ∈ onlineUsers → name ≠ [])
    (other : name ≠ currentUsername) :
    (∃ item ∈ friendItems query currentUsername onlineUsers knownContacts,
      item.id = name ∧ item.online = true) ↔ name ∈ onlineUsers := by
  constructor
  · rintro ⟨item, inside, named, online⟩
    obtain ⟨index, friend, _, rfl⟩ := mem_mapIdx_of inside
    obtain rfl : friend = name := named
    exact of_decide_eq_true online
  · intro online
    have listed : name ∈ friendNames currentUsername onlineUsers knownContacts := by
      have sorted : name ∈ ((onlineUsers ++ knownContacts).eraseDups.filter fun name =>
          name ≠ [] ∧ name ≠ currentUsername).mergeSort (friendLe onlineUsers) := by
        rw [List.mem_mergeSort, List.mem_filter, List.mem_eraseDups]
        exact ⟨List.mem_append_left _ online, decide_eq_true ⟨given online, other⟩⟩
      unfold friendNames
      dsimp only
      rw [if_neg fun alone => List.ne_nil_of_mem sorted alone.2]
      exact sorted
    have matching : name ∈ (friendNames currentUsername onlineUsers knownContacts).filter
        (matchesQuery query) :=
      List.mem_filter.mpr ⟨listed, decide_eq_true (.inl all)⟩
    obtain ⟨index, bound, here⟩ := List.getElem_of_mem matching
    refine ⟨_, List.mem_mapIdx.mpr ⟨index, bound, rfl⟩, here, ?_⟩
    dsimp only
    rw [here]
    exact decide_eq_true online

/-- The groups are those of the list. -/
theorem receiveGroupList_groups (page : Page) (groups : List Group) :
    (page.receiveGroupList groups).groups = groups :=
  congrArg Account.groups (page.receiveGroupList_account groups)

end

/-- The page marks as online, among the others, exactly the users of the list. -/
theorem roster_online [Browser] {page : Page} {users : List Text} (friends : page.currentTab = .friends)
    (all : queryOf page.search = []) (given : ∀ name ∈ users, name ≠ []) (distinct : users.Nodup)
    {name : Text} (other : name ≠ page.currentUsername) :
    (∃ button ∈ (page.renderOnlineUsers users).roster,
      button.1.id = name ∧ button.1.online = true) ↔ name ∈ users := by
  have relisted := renderOnlineUsers_relisted page users
  rw [uniqueNames_eq_self given distinct] at relisted
  set page' := page.renderOnlineUsers users
  have items : page'.rosterItems =
      friendItems (queryOf page.search) page.currentUsername users page'.knownContacts := by
    rw [Page.rosterItems, relisted.currentTab, friends, relisted.search, relisted.currentUsername,
      relisted.onlineUsers]
  have roster : page'.roster = page'.rosterItems.map fun item => (item, page'.isActive item) := rfl
  rw [← @friendItems_online _ (queryOf page.search) page.currentUsername name users
    page'.knownContacts all (given name) other, ← items, roster]
  simp only [List.mem_map]
  constructor
  · rintro ⟨_, ⟨item, inside, rfl⟩, shown⟩
    exact ⟨item, inside, shown⟩
  · rintro ⟨item, inside, shown⟩
    exact ⟨_, ⟨item, inside, rfl⟩, shown⟩

/-! ## From the stores to the page -/

section

variable [Sha256] [Browser] {settings : Settings} {outcomes : Nat → Outcome}
  {machine : ServerMachine} {fd : Int} {packet : Packet}

/-- A request for the online users is answered by a list, and however its bytes are cut, a page that
reads it has as its online users, each once, exactly those who were online when the server answered;
in the friends tab, where nothing is searched for, exactly they are marked as online among the others.
The names are in UTF-8 and their list fits into a packet, and the one user online is not named like
the sentence that says that nobody is. -/
theorem onlineUsers_shown (reached : ServerReachable outcomes machine)
    (success : SendsSucceed outcomes machine) (connected : (machine.state.connectionAt fd).isSome)
    (type : packet.type = MessageType.msgOnlineList.code)
    (readable : ∀ name, machine.state.online name = true → name.Readable)
    (fits : OnlineListFits machine.state)
    (distinguished : onlineNames machine.state.users.users ≠ [nobodyOnline]) :
    ∃ machine' answer, MultiUserChat.Served outcomes machine (.packet fd packet) machine' ∧
      machine'.state = machine.state ∧ deliveries machine machine' = [(fd, answer)] ∧
      ∀ (other : Site) (ws tcp : Nat) (chunks : List (List UInt8)), other.Listening ws tcp →
        chunks.flatten = wire answer → ∃ other',
          other.run settings
              (chunks.map (fun chunk => .gateway ws (.data tcp chunk)) ++ [.notice ws]) =
            some other' ∧
          other'.page.onlineUsers.Nodup ∧
          (∀ text, text ∈ other'.page.onlineUsers ↔
            ∃ name, machine.state.online name = true ∧ textOf name = text) ∧
          (other.page.currentTab = .friends → queryOf other.page.search = [] →
            ∀ text, text ≠ other.page.currentUsername →
              ((∃ button ∈ other'.page.roster, button.1.id = text ∧ button.1.online = true) ↔
                ∃ name, machine.state.online name = true ∧ textOf name = text)) := by
  have wellFormed := serverReachable_wellFormed reached
  obtain ⟨distinct, online⟩ := onlineNames_spec wellFormed
  obtain ⟨⟨⟩, machine', ran⟩ := handler_returns outcomes (processPacket fd packet) wellFormed
  have served := served_packet.mpr ⟨connected, ran⟩
  rw [processPacket, type, MessageType.ofCode?_code] at ran
  change (handleOnlineList fd).Runs _ _ _ _ at ran
  obtain ⟨state, ⟨_, answer, list, content, sent⟩ | ⟨full, _⟩⟩ := handleOnlineList_settles success ran
  · set names := onlineNames machine.state.users.users
    have namesReadable : ∀ name ∈ names, name.Readable :=
      fun name listed => readable name ((online name).mp listed)
    have valid : ∀ name ∈ names, validUsername name = true := fun _ => onlineNames_valid wellFormed
    have once : (names.map textOf).Nodup :=
      distinct.map_on fun left leftIn right rightIn same =>
        (namesReadable left leftIn).textOf_inj (namesReadable right rightIn) same
    have given : ∀ text ∈ names.map textOf, text ≠ [] := by
      intro text inside
      obtain ⟨name, listed, rfl⟩ := List.mem_map.mp inside
      exact (textOf_valid (namesReadable name listed) (valid name listed)).1
    have shown (text : Text) : text ∈ names.map textOf ↔
        ∃ name, machine.state.online name = true ∧ textOf name = text := by
      simp only [List.mem_map, online]
    have tells : Tells answer (.onlineList (names.map textOf)) := by
      intro session
      have handled := handlePacket_onlineList session list content namesReadable valid distinguished
      rw [packetOfFrame_eq] at handled
      exact ⟨session.groupsById, handled⟩
    refine ⟨machine', answer, served, state, sent, fun other ws tcp chunks listening whole => ?_⟩
    obtain ⟨other', arrived, page⟩ :=
      @Site.Listening.reads _ settings _ _ _ listening _ _ whole _ tells
    have read : other'.page = other.page.renderOnlineUsers (names.map textOf) := page
    have listed : other'.page.onlineUsers = names.map textOf := by
      rw [read, (renderOnlineUsers_relisted _ _).onlineUsers, uniqueNames_eq_self given once]
    refine ⟨other', arrived, ?_, ?_, ?_⟩
    · rw [listed]
      exact once
    · rw [listed]
      exact shown
    · intro friends all text apart
      rw [read, roster_online friends all given once apart]
      exact shown text
  · exact absurd fits full

/-- A request of a user who is logged in for the groups is answered by a list, and however its bytes
are cut, a page that reads it has as its groups exactly those that the user was a member of when the
server answered, in the order of the server, with their members. The list fits into a packet. -/
theorem groups_shown (reached : ServerReachable outcomes machine)
    (success : SendsSucceed outcomes machine) (connected : (machine.state.connectionAt fd).isSome)
    (type : packet.type = MessageType.msgGroupList.code) {username : CString}
    (session : userStoreUsernameByFd machine.state.users fd = some username)
    (fits : GroupListFits machine.state username) :
    ∃ machine' answer, MultiUserChat.Served outcomes machine (.packet fd packet) machine' ∧
      machine'.state = machine.state ∧ deliveries machine machine' = [(fd, answer)] ∧
      ∀ (other : Site) (ws tcp : Nat) (chunks : List (List UInt8)), other.Listening ws tcp →
        chunks.flatten = wire answer → ∃ other',
          other.run settings
              (chunks.map (fun chunk => .gateway ws (.data tcp chunk)) ++ [.notice ws]) =
            some other' ∧
          other'.page.groups = (machine.state.groups.groupsOf username).map groupOf := by
  have wellFormed := serverReachable_wellFormed reached
  obtain ⟨⟨⟩, machine', ran⟩ := handler_returns outcomes (processPacket fd packet) wellFormed
  have served := served_packet.mpr ⟨connected, ran⟩
  rw [processPacket, type, MessageType.ofCode?_code] at ran
  change (handleGroupList fd).Runs _ _ _ _ at ran
  obtain ⟨state, ⟨_, answer, list, content, sent⟩ | ⟨full, _⟩⟩ :=
    handleGroupList_settles success wellFormed session ran
  · have decoded : decodeGroupListPayload answer.payload =
        some ((machine.state.groups.groupsOf username).map groupOf) := by
      rw [content]
      apply decodeGroupListPayload_built
      · intro group member
        exact (wellFormed.groups.groups group (List.mem_of_mem_filter member)).count_le
      · exact (List.length_filter_le _ _).trans
          (wellFormed.groups.counted ▸ wellFormed.groups.count_le)
    have tells : Tells answer
        (.groupList ((machine.state.groups.groupsOf username).map groupOf)) := by
      intro session
      have kind : MessageType.ofCode? (receivedFrom answer).type = some .msgGroupList := by
        change MessageType.ofCode? answer.type = _
        rw [list, MessageType.ofCode?_code]
      have read : decodeGroupListPayload (receivedFrom answer).data =
          some ((machine.state.groups.groupsOf username).map groupOf) := decoded
      rw [ClientSession.handlePacket, kind]
      dsimp only
      rw [read]
      obtain ⟨groupsById, known⟩ := ClientSession.foldl_setGroup_eq
        { session with groupsById := [] } ((machine.state.groups.groupsOf username).map groupOf)
      refine ⟨groupsById, ?_⟩
      change some (ClientSession.send (List.foldl ClientSession.setGroup _ _) _) = _
      rw [known]
    refine ⟨machine', answer, served, state, sent, fun other ws tcp chunks listening whole => ?_⟩
    obtain ⟨other', arrived, page⟩ :=
      @Site.Listening.reads _ settings _ _ _ listening _ _ whole _ tells
    refine ⟨other', arrived, ?_⟩
    rw [page]
    exact receiveGroupList_groups _ _
  · exact absurd fits full

end

section

attribute [local instance] sampleDigest asciiBrowser

/-- Two users are online, and one of them sees so. -/
theorem onlineUsers_shown_couple : ∃ machine' answer other',
    deliveries coupleMachine machine' = [(5, answer)] ∧
      waitingSite.run {} [.gateway 0 (.data 0 (wire answer)), .notice 0] = some other' ∧
      ∀ text, text ∈ other'.page.onlineUsers ↔
        ∃ name, coupleMachine.state.online name = true ∧ textOf name = text := by
  have ascii : (coupleMachine.state.users.users.all fun user =>
      user.username.toCString.bytes.all (· < 128)) = true := by decide
  have type : onlineListRequest.type = MessageType.msgOnlineList.code := by decide
  obtain ⟨machine', answer, _, _, sent, arrives⟩ :=
    @onlineUsers_shown _ _ {} (failingAt []) coupleMachine 5 onlineListRequest
      (sample_reachable couple_returns) (fun _ _ => rfl) (by decide) type
      (fun _ => online_readable ascii) (by unfold OnlineListFits; decide) (by decide)
  obtain ⟨other', read, _, shown, _⟩ := arrives waitingSite 0 0 [wire answer]
    waitingSite_listening.1 List.flatten_singleton
  exact ⟨machine', answer, other', sent, read, shown⟩

/-- A member of a group of three sees the group. -/
theorem groups_shown_team : ∃ machine' answer other',
    deliveries teamMachine machine' = [(5, answer)] ∧
      waitingSite.run {} [.gateway 0 (.data 0 (wire answer)), .notice 0] = some other' ∧
      other'.page.groups.length = 1 := by
  have type : groupListRequest.type = MessageType.msgGroupList.code := by decide
  have session : userStoreUsernameByFd teamMachine.state.users 5 =
      some (CString.ofString "ann") := by decide
  obtain ⟨machine', answer, _, _, sent, arrives⟩ :=
    @groups_shown _ _ {} (failingAt []) teamMachine 5 groupListRequest
      (sample_reachable team_returns) (fun _ _ => rfl) (by decide) type (CString.ofString "ann")
      session (by decide)
  obtain ⟨other', read, groups⟩ := arrives waitingSite 0 0 [wire answer]
    waitingSite_listening.1 List.flatten_singleton
  refine ⟨machine', answer, other', sent, read, ?_⟩
  rw [groups, List.length_map]
  decide

end

end Web

end MultiUserChat
