import MultiUserChat.Verif.PageAccount
import MultiUserChat.Verif.PageMessages
/-!
# The page mirrors its session

A page and the session behind its WebSocket go on independently of each other. What a page shows of
the account is what the notices that it has read make of it, and the session tells the truth; so
when the page has read them all, it shows the user that is logged in and the groups that the session
knows. In a document without the element for the message of the login form nobody ever logs in.
-/

namespace MultiUserChat.Web

open Page

/-! ## Who is logged in, and the groups -/

/-- An id that no group of the server has. -/
def NoGroup (id : Text) : Prop := id = [] ∨ id = literal "legacy-broadcast"

namespace Account

/-- The ids of the groups. -/
def ids (account : Account) : List Text := account.groups.map (·.id)

/-- A group more. -/
theorem mem_ids_join {account : Account} {group : Group} {id : Text} (given : id ≠ []) :
    id ∈ (account.join group).ids ↔ id = group.id ∨ id ∈ account.ids := by
  unfold Account.join
  split
  · rename_i empty
    rw [empty]
    simp [given]
  split
  · rename_i index found
    obtain ⟨inside, same, _⟩ := List.findIdx?_eq_some_iff_getElem.mp found
    have same : account.groups[index].id = group.id := of_decide_eq_true same
    have kept : (account.groups.set index group).map (·.id) = account.groups.map (·.id) := by
      have inside' : index < (account.groups.map (·.id)).length := by simpa using inside
      have entry : (account.groups.map (·.id))[index] = group.id := by simpa using same
      rw [List.map_set, ← entry]
      exact List.set_getElem_self inside'
    have member : group.id ∈ account.ids :=
      same ▸ List.mem_map_of_mem (List.getElem_mem inside)
    unfold ids
    rw [kept]
    constructor
    · exact .inr
    · rintro (rfl | listed)
      · exact member
      · exact listed
  · simp [ids, or_comm]

/-- A contact more changes no group and no user. -/
theorem foldl_meet (names : List Text) (account : Account) :
    (names.foldl meet account).user = account.user ∧ (names.foldl meet account).ids = account.ids := by
  induction names generalizing account with
  | nil => exact ⟨rfl, rfl⟩
  | cons name names ih =>
    have here : (account.meet name).user = account.user ∧ (account.meet name).ids = account.ids := by
      unfold meet
      split
      · exact ⟨rfl, rfl⟩
      · exact ⟨rfl, rfl⟩
    obtain ⟨user, ids⟩ := ih (account.meet name)
    exact ⟨user.trans here.1, ids.trans here.2⟩

/-- A group more changes no user. -/
theorem join_user (account : Account) (group : Group) : (account.join group).user = account.user := by
  unfold Account.join
  split
  · rfl
  split
  · rfl
  · rfl

/-- A message in a conversation changes no user. -/
theorem chat_user (account : Account) (conversation : Conversation) (sender : Text) :
    (account.chat conversation sender).user = account.user := by
  unfold chat
  dsimp only
  split
  · split
    · exact account.join_user _
    · exact account.join_user _
  · split
    · rfl
    · rfl

/-- A message in a group's conversation makes the group known. -/
theorem mem_ids_chat {account : Account} {conversation : Conversation} {sender id : Text}
    (given : id ≠ []) : id ∈ (account.chat conversation sender).ids ↔
      conversation.mode = .group ∧ id = conversation.id ∨ id ∈ account.ids := by
  have saved (known : Account) :
      (if sender ∈ known.contacts then known
        else { known with contacts := known.contacts ++ [sender] }.save).ids = known.ids := by
    split
    · rfl
    · rfl
  unfold chat
  dsimp only
  rw [saved]
  split
  · rename_i new
    rw [mem_ids_join given]
    simp [new.1]
  · rename_i old
    constructor
    · exact .inr
    · rintro (⟨group, rfl⟩ | listed)
      · have known : account.groups.any fun known => decide (known.id = conversation.id) := by
          by_contra unknown
          exact old ⟨group, unknown⟩
        obtain ⟨known, listed, same⟩ := List.any_eq_true.mp known
        exact List.mem_map.mpr ⟨known, listed, of_decide_eq_true same⟩
      · exact listed

/-- The account hears who is logged in. -/
theorem hear_user (account : Account) (notice : Notice) :
    (account.hear notice).user = notice.login account.user := by
  cases notice with
  | authResult action ok message username =>
    rw [hear, Notice.login]
    split
    · rfl
    · rfl
  | onlineList users => exact (foldl_meet _ account).1
  | groupList groups => rfl
  | groupEvent event group => exact account.join_user group
  | chatMessage mode sender receiver text => exact account.chat_user _ sender
  | groupChatMessage groupId groupName sender text => exact account.chat_user _ sender
  | fileProgress sender filename receivedSize expectedSize => rfl
  | fileReceived sender filename data => rfl
  | status code ok reason message =>
    rw [hear, Notice.login]
    split
    · rfl
    · rfl
  | error code ok message => rfl

/-- The account hears of the groups. -/
theorem mem_ids_hear {account : Account} {notice : Notice} {known : List Text} {id : Text}
    (group : ¬ NoGroup id) (same : id ∈ account.ids ↔ id ∈ known) :
    id ∈ (account.hear notice).ids ↔ id ∈ notice.groupIds known := by
  have given : id ≠ [] := fun empty => group (.inl empty)
  have other : id ≠ literal "legacy-broadcast" := fun legacy => group (.inr legacy)
  cases notice with
  | authResult action ok message username =>
    rw [hear, Notice.groupIds]
    split
    · exact Iff.rfl
    · exact same
  | onlineList users =>
    have kept := (foldl_meet (uniqueNames users) account).2
    exact (iff_of_eq (congrArg (id ∈ ·) kept)).trans same
  | groupList groups => exact Iff.rfl
  | groupEvent event group' =>
    exact (mem_ids_join given).trans ((or_congr Iff.rfl same).trans List.mem_cons.symm)
  | chatMessage mode sender receiver text =>
    refine (mem_ids_chat given).trans ?_
    have legacy : ¬ ((if mode = "group" then groupConversation [] []
        else ⟨.friend, sender, sender, false⟩).mode = .group ∧
          id = (if mode = "group" then groupConversation [] []
            else ⟨.friend, sender, sender, false⟩).id) := by
      split
      · exact fun named => other named.2
      · simp
    rw [or_iff_right legacy]
    exact same
  | groupChatMessage groupId groupName sender text =>
    refine (mem_ids_chat given).trans ?_
    have named : ((groupConversation groupId groupName).mode = .group ∧
        id = (groupConversation groupId groupName).id) ↔ id = groupId := by
      unfold groupConversation
      dsimp only
      split
      · rename_i empty
        rw [empty]
        simp [given, other]
      · simp
    rw [named, same]
    exact List.mem_cons.symm
  | fileProgress sender filename receivedSize expectedSize => exact same
  | fileReceived sender filename data => exact same
  | status code ok reason message =>
    rw [hear, Notice.groupIds]
    split
    · exact Iff.rfl
    · exact same
  | error code ok message => exact same

end Account

/-! ## Sites -/

/-- The texts that an event gives a site. -/
def SiteEvent.given : SiteEvent → List Text
  | page event => event.given
  | request _ => []
  | notice _ => []
  | gateway _ _ => []

/-- A session that has just been accepted. -/
theorem Gateway.accepted_candid (form : Bool) : Gateway.accepted.Candid form [] := by
  have fresh : ({} : ClientSession).Candid form [] :=
    { since := List.nil_prefix
      login := rfl
      groups := fun entered => absurd entered Bool.false_ne_true
      names := by simp
      entered := by simp
      user := fun entered => absurd entered Bool.false_ne_true
      pending := by simp }
  exact ⟨fresh.say (quiet_status (by decide) _ _ _), by simp [Gateway.accepted]⟩

/-- What was told before does not matter any more. -/
theorem Gateway.Candid.again {form : Bool} {before : List Notice} {gateway : Gateway}
    (candid : gateway.Candid form before) (since : List Notice)
    (told : since <+: gateway.session.notices) : gateway.Candid form since :=
  ⟨{ candid.session with since := told }, candid.calls⟩

/-- A login that goes over a socket comes from the login form. -/
theorem Batched.entering {form : Bool} {requests : List PageRequest}
    (batched : Batched Utf16.Paired form requests) {request : PageRequest} (inside : request ∈ requests)
    {action : Action} (asked : request.action = some action) : action.Entering form := by
  obtain ⟨batches, rfl, each⟩ := batched
  obtain ⟨batch, member, inside⟩ := List.mem_flatten.mp inside
  cases request with
  | auth action username password =>
    cases asked
    cases each batch member with
    | one proper texts =>
      cases List.mem_singleton.mp inside
      exact ⟨proper, paired_trim (paired_trim (texts username (by simp [PageRequest.texts])))⟩
    | file named small target name => simp [fileRequests] at inside
  | logout =>
    cases asked
    trivial
  | onlineList =>
    cases asked
    trivial
  | groupList =>
    cases asked
    trivial
  | listenUdp => cases asked
  | createGroup name members =>
    cases asked
    trivial
  | sendPrivate receiver text =>
    cases asked
    trivial
  | sendGroupMessage groupId text =>
    cases asked
    trivial
  | sendFileBegin receiver filename filesize =>
    cases asked
    trivial
  | sendFileChunk receiver bytes =>
    cases asked
    trivial
  | sendFileEnd receiver =>
    cases asked
    trivial

namespace Site

/-- An event drops the connection of somebody who is logged in. -/
def Drops (site : Site) (event : SiteEvent) : Prop :=
  ∃ socket happening, event = .gateway socket happening ∧ (site.gateways socket).Drops happening

/-- The page is in order, and the sessions have told the truth; who is shown as logged in has come
through the login form. -/
structure Sound (form : Bool) (site : Site) : Prop where
  /-- The page. -/
  page : site.page.Orderly Utf16.Paired form
  /-- The sessions. -/
  gateways : ∀ socket, (site.gateways socket).Candid form []
  /-- The user of the page. -/
  user : ∀ username ∈ site.page.account.user, Enters form username

variable {form : Bool} {site : Site}

/-- A session goes on. -/
theorem Sound.updateGateway (sound : site.Sound form) (socket : Nat) {gateway : Gateway}
    (candid : gateway.Candid form []) : (site.updateGateway socket gateway).Sound form where
  page := sound.page
  gateways other := by
    unfold Site.updateGateway
    dsimp only
    by_cases same : other = socket
    · rw [same, Function.update_self]
      exact candid
    · rw [Function.update_of_ne same]
      exact sound.gateways other
  user := sound.user

/-- A request is read. -/
theorem Sound.handleRaw (sound : site.Sound form) {settings : Settings} {socket : Nat}
    {request : PageRequest} (sent : request ∈ (site.page.sockets socket).sent) {gateway : Gateway}
    (read : (site.gateways socket).handleRaw settings (Utf8.encode request.json.stringify) =
      some gateway) {before : List Notice} (candid : (site.gateways socket).Candid form before) :
    gateway.Candid form before := by
  have batched := sound.page.batched socket
  have inside : request ∈ (site.page.sockets socket).stream := List.mem_append_left _ sent
  rw [handleRaw_request settings _ (batched.writable inside)] at read
  cases read
  cases asked : request.action with
  | none => exact candid
  | some action => exact candid.handleMessage (batched.entering inside asked)

variable [Browser]

/-- One step, unless a connection is dropped. -/
theorem Sound.step (sound : site.Sound form) {settings : Settings} {event : SiteEvent}
    (given : ∀ text ∈ event.given, Utf16.Paired text) (kept : ¬ site.Drops event) {site' : Site}
    (taken : site.step settings event = some site') : site'.Sound form := by
  cases event with
  | page event =>
    obtain ⟨silent, taken⟩ := Option.ite_none_left_eq_some.mp taken
    obtain ⟨page, stepped, rfl⟩ := Option.map_eq_some_iff.mp taken
    refine ⟨sound.page.step kept_paired given stepped, sound.gateways, ?_⟩
    have quiet : told event = none := by
      cases event with
      | message socket notice => exact absurd rfl silent
      | _ => rfl
    have same := step_account stepped
    rw [quiet] at same
    dsimp only
    rw [same]
    exact sound.user
  | request socket =>
    obtain ⟨request, sent, taken⟩ := Option.bind_eq_some_iff.mp taken
    have sent := List.mem_of_getElem? sent
    split at taken
    · contradiction
    obtain ⟨gateway, read, taken⟩ := Option.bind_eq_some_iff.mp taken
    cases taken
    have candid := sound.handleRaw sent read (sound.gateways socket)
    exact { sound.updateGateway socket candid with }
  | notice socket =>
    obtain ⟨notice, next, taken⟩ := Option.bind_eq_some_iff.mp taken
    obtain ⟨page, stepped, taken⟩ := Option.bind_eq_some_iff.mp taken
    cases taken
    have told := (sound.gateways socket).session
    have member := List.mem_of_getElem? next
    have given : ∀ text ∈ (PageEvent.message socket notice).given, Utf16.Paired text :=
      told.names notice member
    refine ⟨sound.page.step kept_paired given stepped, sound.gateways, ?_⟩
    dsimp only
    rw [step_account stepped]
    change ∀ username ∈ (site.page.account.hear notice).user, Enters form username
    rw [Account.hear_user]
    intro username shown
    cases notice with
    | authResult action ok message username' =>
      unfold Notice.login at shown
      dsimp only at shown
      split at shown
      · rename_i entered
        obtain ⟨rfl, rfl⟩ := entered
        cases shown
        exact told.entered message username member
      · exact sound.user username shown
    | status code ok reason message =>
      unfold Notice.login at shown
      dsimp only at shown
      split at shown
      · contradiction
      · exact sound.user username shown
    | _ => exact sound.user username shown
  | gateway socket happening =>
    obtain ⟨possible, taken⟩ := Option.ite_none_left_eq_some.mp taken
    obtain ⟨gateway, stepped, rfl⟩ := Option.map_eq_some_iff.mp taken
    refine sound.updateGateway socket ((sound.gateways socket).step ?_ ?_ stepped)
    · exact fun drops => kept ⟨socket, happening, rfl, drops⟩
    · rintro action rfl
      exact absurd (.inl rfl) possible

/-! ## Runs -/

/-- A page that has just been loaded; the document has the element for the message of the login form
or not. -/
def Opened (form : Bool) (site : Site) : Prop :=
  ∃ stored authMessage, site = { page := Page.load stored authMessage } ∧
    authMessage.isSome = form ∧ ∀ text ∈ stored, Utf16.Paired text

/-- A step in which the browser's texts are strings. -/
def Goes (settings : Settings) (site : Site) (event : SiteEvent) (site' : Site) : Prop :=
  site.step settings event = some site' ∧ ∀ text ∈ event.given, Utf16.Paired text

/-- A step that drops nobody's connection and needs no second WebSocket. -/
structure Steady (settings : Settings) (site : Site) (event : SiteEvent) (site' : Site) : Prop where
  /-- It is a step. -/
  goes : site.Goes settings event site'
  /-- Nobody's connection is dropped. -/
  kept : ¬ site.Drops event
  /-- There is one WebSocket. -/
  single : site'.page.created ≤ 1

/-- Everything is in order in the beginning. -/
theorem Opened.sound (opened : site.Opened form) : site.Sound form := by
  obtain ⟨stored, authMessage, rfl, rfl, string⟩ := opened
  refine ⟨Page.load_orderly kept_paired (loadKnownContacts_paired string) authMessage,
    fun _ => Gateway.accepted_candid _, fun username shown => ?_⟩
  contradiction

/-- In a document without the element for the message of the login form, whatever happens, no page
sends a registration or a login, no session logs anybody in, and the chat stays hidden. -/
theorem nobody_enters {settings : Settings}
    (reached : Reachable (Opened false) (Goes settings) site) (socket : Nat) :
    site.page.chatHidden = true ∧ (site.gateways socket).session.loggedIn = false ∧
      ∀ action username password,
        PageRequest.auth action username password ∉ (site.page.sockets socket).stream := by
  have sound : site.Sound false := by
    refine Reachable.invariant (Sound false) (fun _ opened => opened.sound) ?_ reached
    rintro _ event _ _ sound ⟨taken, given⟩
    refine sound.step given ?_ taken
    rintro ⟨socket, happening, rfl, drops⟩
    exact (sound.gateways socket).no_drop happening drops
  refine ⟨?_, ?_, fun action username password inside => ?_⟩
  · by_contra shown
    have user : site.page.account.user = some site.page.currentUsername := if_neg shown
    exact absurd (sound.user _ user).form Bool.false_ne_true
  · by_contra entered
    have user := (sound.gateways socket).session.user (Bool.eq_true_of_not_eq_false entered)
    exact absurd user.form Bool.false_ne_true
  · have entering := (sound.page.batched socket).entering inside rfl
    exact absurd entering.1 Bool.false_ne_true

/-- The page shows what the notices that it has read say. -/
structure Mirrors (form : Bool) (site : Site) : Prop where
  /-- Everything is in order. -/
  sound : site.Sound form
  /-- There is one WebSocket. -/
  single : site.page.created ≤ 1
  /-- What has been read has been told. -/
  bound : site.shown 0 ≤ (site.gateways 0).session.notices.length
  /-- The user. -/
  user : site.page.account.user = loginOf ((site.gateways 0).session.notices.take (site.shown 0))
  /-- The groups. -/
  groups : ∀ id, ¬ NoGroup id → (id ∈ site.page.account.ids ↔
    id ∈ groupsOf ((site.gateways 0).session.notices.take (site.shown 0)))

omit [Browser] in
/-- A session tells more. -/
theorem Mirrors.tells (mirrors : site.Mirrors form) {site' : Site} (sound : site'.Sound form)
    (page : site'.page = site.page) (shown : site'.shown = site.shown)
    (told : (site.gateways 0).session.notices <+: (site'.gateways 0).session.notices) :
    site'.Mirrors form := by
  have same : (site'.gateways 0).session.notices.take (site'.shown 0) =
      (site.gateways 0).session.notices.take (site.shown 0) := by
    obtain ⟨later, told⟩ := told
    rw [← told, shown, List.take_append_of_le_length mirrors.bound]
  exact
    { sound
      single := page ▸ mirrors.single
      bound := by
        rw [shown]
        exact mirrors.bound.trans told.length_le
      user := by
        rw [page, same]
        exact mirrors.user
      groups := by
        rw [page, same]
        exact mirrors.groups }

/-- One step. -/
theorem Mirrors.step (mirrors : site.Mirrors form) {settings : Settings} {event : SiteEvent}
    {site' : Site} (steady : site.Steady settings event site') : site'.Mirrors form := by
  obtain ⟨⟨taken, given⟩, kept, single⟩ := steady
  have sound := mirrors.sound.step given kept taken
  -- The notices of one session grow when another one or itself goes on.
  have grows {socket : Nat} {gateway : Gateway} (candid : ∀ before,
      (site.gateways socket).Candid form before → gateway.Candid form before) :
      (site.gateways 0).session.notices <+:
        ((site.updateGateway socket gateway).gateways 0).session.notices := by
    unfold Site.updateGateway
    dsimp only
    by_cases same : 0 = socket
    · rw [← same, Function.update_self]
      subst same
      exact (candid _ ((mirrors.sound.gateways 0).again _ List.prefix_rfl)).session.since
    · rw [Function.update_of_ne same]
  cases event with
  | page event =>
    obtain ⟨silent, taken⟩ := Option.ite_none_left_eq_some.mp taken
    obtain ⟨page, stepped, rfl⟩ := Option.map_eq_some_iff.mp taken
    have quiet : told event = none := by
      cases event with
      | message socket notice => exact absurd rfl silent
      | _ => rfl
    have same := step_account stepped
    rw [quiet] at same
    exact
      { sound
        single
        bound := mirrors.bound
        user := by
          dsimp only
          rw [same]
          exact mirrors.user
        groups := by
          dsimp only
          rw [same]
          exact mirrors.groups }
  | request socket =>
    obtain ⟨request, sent, taken⟩ := Option.bind_eq_some_iff.mp taken
    have sent := List.mem_of_getElem? sent
    split at taken
    · contradiction
    obtain ⟨gateway, read, taken⟩ := Option.bind_eq_some_iff.mp taken
    cases taken
    exact mirrors.tells sound rfl rfl (grows fun _ => mirrors.sound.handleRaw sent read)
  | notice socket =>
    obtain ⟨notice, next, taken⟩ := Option.bind_eq_some_iff.mp taken
    obtain ⟨page, stepped, taken⟩ := Option.bind_eq_some_iff.mp taken
    cases taken
    obtain ⟨⟨created, _⟩, _⟩ := taken_of_guard stepped
    have first : socket = 0 := by
      have one := mirrors.single
      omega
    subst first
    have account : page.account = site.page.account.hear notice := step_account stepped
    have read : (site.gateways 0).session.notices.take (site.shown 0 + 1) =
        (site.gateways 0).session.notices.take (site.shown 0) ++ [notice] := by
      rw [List.take_add_one, next]
      rfl
    refine { sound, single, bound := ?_, user := ?_, groups := fun id group => ?_ }
    · dsimp only
      rw [Function.update_self]
      exact (List.getElem?_eq_some_iff.mp next).1
    · dsimp only
      rw [Function.update_self, read, loginOf_append, account, Account.hear_user, mirrors.user]
    · dsimp only
      rw [Function.update_self, read, groupsOf_append, account]
      exact Account.mem_ids_hear group (mirrors.groups id group)
  | gateway socket happening =>
    obtain ⟨possible, taken⟩ := Option.ite_none_left_eq_some.mp taken
    obtain ⟨gateway, stepped, rfl⟩ := Option.map_eq_some_iff.mp taken
    refine mirrors.tells sound rfl rfl (grows fun before candid => candid.step ?_ ?_ stepped)
    · exact fun drops => kept ⟨socket, happening, rfl, drops⟩
    · rintro action rfl
      exact absurd (.inl rfl) possible

/-- While no connection of somebody who is logged in is dropped and the WebSocket is not replaced, the
page shows the user that the notices it has read say; and once it has read them all, it shows the user
that the session has logged in, and while there is one, the groups that the session knows. -/
theorem page_mirrors {settings : Settings} (reached : Reachable (Opened form) (Steady settings) site) :
    site.page.account.user = loginOf ((site.gateways 0).session.notices.take (site.shown 0)) ∧
      (site.shown 0 = (site.gateways 0).session.notices.length →
        site.page.account.user = (site.gateways 0).session.login ∧
          ((site.gateways 0).session.loggedIn = true → ∀ id, ¬ NoGroup id →
            (id ∈ site.page.groups.map (·.id) ↔ id ∈ (site.gateways 0).session.groupIds))) := by
  have mirrors : site.Mirrors form := by
    refine Reachable.invariant (Mirrors form) ?_ (fun _ _ _ _ mirrors => mirrors.step) reached
    intro _ opened
    have sound := opened.sound
    obtain ⟨stored, authMessage, rfl, _, _⟩ := opened
    exact ⟨sound, Nat.le_refl 1, Nat.zero_le _, rfl, fun _ _ => Iff.rfl⟩
  refine ⟨mirrors.user, fun all => ?_⟩
  have told := (mirrors.sound.gateways 0).session
  have user := mirrors.user
  have groups := mirrors.groups
  rw [all, List.take_length] at user groups
  exact ⟨user.trans told.login, fun entered id group =>
    (groups id group).trans (told.groups entered id)⟩

end Site

/-! ## A run -/

/-- An event of ASCII texts that is no end of a connection. -/
def SiteEvent.plain : SiteEvent → Bool
  | .gateway _ (.close _) => false
  | event => plainTexts event.given

/-- One step of a plain event that needs no second WebSocket. -/
def Site.plainStep [Browser] (settings : Settings) (site : Site) (event : SiteEvent) : Option Site :=
  if event.plain then
    (site.step settings event).filter fun site' => decide (site'.page.created ≤ 1)
  else none

/-- A plain step is a steady one. -/
theorem Site.plainStep_steady [Browser] {settings : Settings} {site site' : Site} {event : SiteEvent}
    (taken : site.plainStep settings event = some site') : site.Steady settings event site' := by
  obtain ⟨plain, taken⟩ := Option.ite_none_right_eq_some.mp taken
  obtain ⟨taken, single⟩ := Option.filter_eq_some_iff.mp taken
  have closes : ∀ socket tcp, event ≠ .gateway socket (.close tcp) := by
    rintro socket tcp rfl
    contradiction
  have texts : plainTexts event.given = true := by
    unfold SiteEvent.plain at plain
    split at plain
    · contradiction
    · exact plain
  refine ⟨⟨taken, paired_of_plainTexts texts⟩, ?_, of_decide_eq_true single⟩
  rintro ⟨socket, happening, rfl, tcp, _, _, rfl, _⟩
  exact closes socket tcp rfl

/-- The reply to a login that is accepted. -/
def welcomeReply : List UInt8 :=
  match encodePacket MessageType.msgOk.code (literal "server") [] (Utf8.encode (literal "hi")) with
  | .ok bytes => bytes
  | .error _ => []

/-- The user opens the page, fills in the login form and clicks on the button. -/
def pageAsks : List SiteEvent :=
  [.page (.opened 0), .notice 0, .page (.typeAuth (literal " u ") (literal "p")), .page (.auth .login)]

/-- The login goes to the server and is accepted. -/
def pageEnters : List SiteEvent :=
  [.request 0, .gateway 0 (.connect 0), .notice 0, .gateway 0 (.resume 0 []),
    .gateway 0 (.data 0 welcomeReply), .notice 0]

/-- Some events from a page that has just been loaded. -/
def siteAfter (authMessage : Option (Text × String)) (events : List SiteEvent) : Option Site :=
  events.foldlM (@Site.plainStep asciiBrowser {})
    { page := @Page.load asciiBrowser none authMessage }

/-- Plain steps from a page that has been opened are a run. -/
theorem siteAfter_reachable {authMessage : Option (Text × String)} {events : List SiteEvent}
    {site : Site} (ran : siteAfter authMessage events = some site) :
    Reachable (@Site.Opened asciiBrowser authMessage.isSome) (@Site.Steady asciiBrowser {}) site := by
  have begun : Reachable (@Site.Opened asciiBrowser authMessage.isSome)
      (fun site event site' => @Site.plainStep asciiBrowser {} site event = some site')
      { page := @Page.load asciiBrowser none authMessage } :=
    .start ⟨none, authMessage, rfl, rfl, by simp⟩
  exact (begun.of_foldlM ran).widen fun _ _ _ => @Site.plainStep_steady asciiBrowser _ _ _ _

/-- The login goes through. -/
theorem pageEnters_returns : (siteAfter (some ([], "")) (pageAsks ++ pageEnters)).isSome := by
  decide +kernel

/-- The site after the login. -/
def enteredSite : Site := (siteAfter (some ([], "")) (pageAsks ++ pageEnters)).get pageEnters_returns

/-- A page and its session agree on a user. -/
theorem page_mirrors_entered : (enteredSite.gateways 0).session.login = some (literal "u") ∧
    enteredSite.page.account.user =
      loginOf ((enteredSite.gateways 0).session.notices.take (enteredSite.shown 0)) ∧
    (enteredSite.shown 0 = (enteredSite.gateways 0).session.notices.length →
      enteredSite.page.account.user = (enteredSite.gateways 0).session.login ∧
        ((enteredSite.gateways 0).session.loggedIn = true → ∀ id, ¬ NoGroup id →
          (id ∈ enteredSite.page.groups.map (·.id) ↔
            id ∈ (enteredSite.gateways 0).session.groupIds))) :=
  ⟨by decide +kernel, @Site.page_mirrors true enteredSite asciiBrowser {}
    (siteAfter_reachable (Option.some_get pageEnters_returns).symm)⟩

/-- The button has been clicked. -/
theorem pageAsks_returns : (siteAfter none pageAsks).isSome := by decide +kernel

/-- The site after it, without the element for messages. -/
def stuckSite : Site := (siteAfter none pageAsks).get pageAsks_returns

/-- Nobody has been logged in. -/
theorem nobody_enters_stuck : stuckSite.page.usernameInput = literal " u " ∧
    stuckSite.page.chatHidden = true ∧ (stuckSite.gateways 0).session.loggedIn = false ∧
      ∀ action username password,
        PageRequest.auth action username password ∉ (stuckSite.page.sockets 0).stream := by
  have reached := siteAfter_reachable (Option.some_get pageAsks_returns).symm
  refine ⟨by decide +kernel, @Site.nobody_enters stuckSite asciiBrowser {} ?_ 0⟩
  exact reached.widen fun _ _ _ => @Site.Steady.goes asciiBrowser _ _ _ _

end MultiUserChat.Web
