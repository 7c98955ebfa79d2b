import MultiUserChat.Library.Presence
import MultiUserChat.Verif.Accounts
import MultiUserChat.Verif.Creation
import MultiUserChat.Verif.LastingLogins
/-!
# The server is a presence service

What the two stores say together is a presence service (`ServerState.presence`): an account is opened
by the passwords that its record accepts, and its user is present on the descriptor of the login.
Handling an input does some deeds of the service, which the input permits (`Permitted`): whatever
fails on the way, the server does nothing else to its accounts, sessions and groups.
-/

namespace MultiUserChat

open Program

/-- What a group is listed under: its id, its name and its creator. -/
abbrev GroupHeader : Type :=
  FixedString groupIdMaxLen × FixedString groupNameMaxLen × FixedString usernameMaxLen

section

variable [Sha256]

/-- Some user of this name is opened by the password. -/
def Opens (users : List User) (name password : CString) : Prop :=
  ∃ user ∈ users, user.username.toCString = name ∧ validPassword password = true ∧
    user.opensWith password

/-- The passwords that open the account of a name. -/
def accountOf (users : List User) (name : CString) : Option (CString → Prop) :=
  if users.any fun user => user.username.toCString = name then some (Opens users name) else none

/-- The service that the stores amount to. -/
def ServerState.presence (state : ServerState) : Presence CString CString Int GroupHeader where
  account := accountOf state.users.users
  place name := (userStoreGetFd state.users name).toOption
  groups := state.groups.roster

/-! ## Accounts -/

/-- Whether a password opens an account depends on the records. -/
theorem opens_congr {users users' : List User}
    (same : users.map User.record = users'.map User.record) (name password : CString)
    (opened : Opens users name password) : Opens users' name password := by
  obtain ⟨user, member, named, valid, opens⟩ := opened
  have record : user.record ∈ users'.map User.record := same ▸ List.mem_map_of_mem member
  obtain ⟨other, member', same⟩ := List.mem_map.mp record
  refine ⟨other, member', ?_, valid, (User.opensWith_congr same password).mpr opens⟩
  rw [← named]
  exact congrArg (fun record => record.1.toCString) same

/-- The accounts depend on what the records say. -/
theorem accountOf_congr {users users' : List User}
    (same : users.map User.record = users'.map User.record) : accountOf users = accountOf users' := by
  have listed (users : List User) (name : CString) :
      (users.any fun user => decide (user.username.toCString = name)) =
        (users.map User.record).any fun record => decide (record.1.toCString = name) := by
    rw [List.any_map]
    rfl
  funext name
  have opens : Opens users name = Opens users' name := by
    funext password
    exact propext ⟨opens_congr same name password, opens_congr same.symm name password⟩
  rw [accountOf, accountOf, listed, listed, same, opens]

/-- A record more is an account more. -/
theorem accountOf_cons (users : List User) (user : User) :
    accountOf (user :: users) = Function.update (accountOf users) user.username.toCString
      (some (Opens (user :: users) user.username.toCString)) := by
  funext name
  by_cases same : name = user.username.toCString
  · rw [same, Function.update_self, accountOf, if_pos (by simp)]
  · have other : user.username.toCString ≠ name := fun named => same named.symm
    have opens : Opens (user :: users) name = Opens users name := by
      funext password
      simp [Opens, other]
    rw [Function.update_of_ne same, accountOf, accountOf, opens, List.any_cons,
      decide_eq_false other, Bool.false_or]

/-! ## Places -/

/-- Where a user is present. -/
theorem place_eq_some {state : ServerState} (wellFormed : state.WellFormed) {name : CString}
    {fd : Int} : state.presence.place name = some fd ↔ state.LoggedIn fd name := by
  have found : state.presence.place name = some fd ↔ userStoreGetFd state.users name = .ok fd := by
    change (userStoreGetFd state.users name).toOption = some fd ↔ _
    cases userStoreGetFd state.users name with
    | error result => exact iff_of_false (by simp [Except.toOption]) (by simp)
    | ok other => simp [Except.toOption]
  rw [found, wellFormed.users.getFd_ok]
  constructor
  · rintro ⟨user, member, named, online, at_⟩
    exact ⟨user, member, by simp [User.onlineAt, online, at_], named⟩
  · rintro ⟨user, member, at_, named⟩
    simp only [User.onlineAt, Bool.and_eq_true, decide_eq_true_eq] at at_
    exact ⟨user, member, named, at_.1, at_.2⟩

/-- Users that are online are present. -/
theorem place_isSome {state : ServerState} (wellFormed : state.WellFormed) {name : CString} :
    (state.presence.place name).isSome ↔ state.online name = true := by
  rw [ServerState.online_iff_loggedIn, Option.isSome_iff_exists]
  exact exists_congr fun fd => place_eq_some wellFormed

/-- Two states with the same logins have the same places. -/
theorem place_congr {state state' : ServerState} (wellFormed : state.WellFormed)
    (wellFormed' : state'.WellFormed) {name name' : CString}
    (same : ∀ fd, state.LoggedIn fd name ↔ state'.LoggedIn fd name') :
    state.presence.place name = state'.presence.place name' :=
  Option.ext fun fd => (place_eq_some wellFormed).trans
    ((same fd).trans (place_eq_some wellFormed').symm)

/-! ## Deeds -/

/-- A cascade is a departure. -/
theorem CascadeOf.does {gone : CString → Bool} {before after : ServerState}
    (cascade : CascadeOf gone before after) (wellFormed : before.WellFormed) :
    before.presence.Does (.depart gone) after.presence := by
  have records : after.users.users.map User.record = before.users.users.map User.record := by
    rw [cascade.users, dropOffline, List.map_map]
    apply List.map_congr_left
    intro user _
    rw [Function.comp_apply]
    split
    · rfl
    · rfl
  have place : after.presence.place =
      fun name => if gone name = true then none else before.presence.place name := by
    funext name
    split
    · rename_i left
      have offline : ¬ (after.presence.place name).isSome := by
        rw [place_isSome cascade.wellFormed, cascade.online, left]
        simp
      simpa using offline
    · rename_i stays
      refine place_congr cascade.wellFormed wellFormed fun fd => ?_
      unfold ServerState.LoggedIn
      rw [cascade.users, dropOffline]
      constructor
      · rintro ⟨user, member, at_, named⟩
        obtain ⟨old, listed, rfl⟩ := List.mem_map.mp member
        have same : old.username.toCString = name := by
          rw [← named]
          split
          · rfl
          · rfl
        rw [same, if_neg stays] at at_
        exact ⟨old, listed, at_, same⟩
      · rintro ⟨user, member, at_, rfl⟩
        exact ⟨user, List.mem_map.mpr ⟨user, member, if_neg stays⟩, at_, rfl⟩
  have whole : after.presence =
      { before.presence with
        place := fun name => if gone name = true then none else before.presence.place name
        groups := Roster.depart gone before.presence.groups } :=
    Presence.ext (accountOf_congr records) place cascade.roster
  rw [whole]
  exact .depart fun name left => (place_isSome wellFormed).mpr (cascade.wasOnline name left)

/-- A registration opens an account, or does nothing. -/
theorem userRegister_does (outcome : Outcome) {state : ServerState} (wellFormed : state.WellFormed)
    (username password : CString) :
    (perform outcome (.userRegister username password) state).2.presence = state.presence ∨
      state.presence.Does (.enrol username password)
        (perform outcome (.userRegister username password) state).2.presence := by
  by_cases entered : ∃ salt, Enters outcome.registration state.users username password salt
  · obtain ⟨salt, enters⟩ := entered
    obtain ⟨inserted, done, ran⟩ := enters.register state.file
    have named : (registeredUser username password salt).username.toCString = username :=
      UserStore.createUser_username enters.legalName
    have legal : validUsername (registeredUser username password salt).username.toCString = true := by
      rw [named]
      exact enters.legalName
    obtain ⟨kept, listed⟩ := wellFormed.users.insert legal (fun _ => rfl) done
    have fresh := (wellFormed.users.find_none username).mp enters.fresh
    have stores : (perform outcome (.userRegister username password) state).2.users = inserted := by
      change (userStoreRegister outcome.registration state.users state.file username password).2.1 = _
      rw [ran]
    have after := perform_wellFormed wellFormed outcome (.userRegister username password)
    have account := accountOf_cons state.users.users (registeredUser username password salt)
    rw [named] at account
    have place : (perform outcome (.userRegister username password) state).2.presence.place =
        state.presence.place := by
      funext name
      refine place_congr after wellFormed fun fd => ?_
      unfold ServerState.LoggedIn
      rw [stores, listed, List.exists_mem_cons_iff]
      exact or_iff_right fun ⟨at_, _⟩ => absurd at_ (by simp [User.onlineAt, registeredUser, createUser])
    right
    have whole : (perform outcome (.userRegister username password) state).2.presence =
        { state.presence with
          account := Function.update state.presence.account username
            (some (Opens (registeredUser username password salt :: state.users.users) username)) } := by
      refine Presence.ext ?_ place rfl
      change accountOf (perform outcome (.userRegister username password) state).2.users.users = _
      rw [stores, listed]
      exact account
    rw [whole]
    refine .enrol (if_neg ?_) ⟨_, List.mem_cons_self, named, enters.legalPassword,
      registeredUser_opensWith _ _ _⟩
    simpa using fresh
  · obtain ⟨result, _, ran⟩ := register_refused (not_exists.mp entered) state.file
    left
    change ServerState.presence
      { state with
        users := (userStoreRegister outcome.registration state.users state.file username password).2.1
        file := (userStoreRegister outcome.registration state.users state.file username
          password).2.2 } = _
    rw [ran]

/-- A login enters, or does nothing. -/
theorem userLogin_does (outcome : Outcome) {state : ServerState} (wellFormed : state.WellFormed)
    (username password : CString) (fd : Int) :
    (perform outcome (.userLogin username password fd) state).2.presence = state.presence ∨
      state.presence.Does (.enter username password fd)
        (perform outcome (.userLogin username password fd) state).2.presence := by
  have after := perform_wellFormed wellFormed outcome (.userLogin username password fd)
  have accepted := wellFormed.users.login_ok outcome.digested username password fd
  rcases wellFormed.users.login outcome.digested username password fd with
    ⟨_, same⟩ | ⟨ok, _, _, users⟩
  · left
    change ServerState.presence
      { state with users := (userStoreLogin outcome.digested state.users username password fd).2 } = _
    rw [same]
  · right
    obtain ⟨_, _, legal, user, member, named, offline, opens⟩ := accepted.mp ok
    have users : (perform outcome (.userLogin username password fd) state).2.users.users =
        UserStore.change username (UserStore.loggedIn fd) state.users.users := users
    have records := map_record_change (UserStore.loggedIn fd) (fun _ => rfl) username state.users.users
    have place : (perform outcome (.userLogin username password fd) state).2.presence.place =
        Function.update state.presence.place username (some fd) := by
      funext name
      by_cases same : name = username
      · rw [same, Function.update_self, place_eq_some after]
        exact perform_login_loggedIn wellFormed ok
      · rw [Function.update_of_ne same]
        refine place_congr after wellFormed fun other => ?_
        unfold ServerState.LoggedIn
        rw [users, UserStore.change]
        constructor
        · rintro ⟨entry, listed, at_, called⟩
          obtain ⟨old, member, rfl⟩ := List.mem_map.mp listed
          by_cases own : old.username.toCString = username
          · rw [if_pos own] at called
            exact absurd (called.symm.trans own) same
          · rw [if_neg own] at at_ called
            exact ⟨old, member, at_, called⟩
        · rintro ⟨old, listed, at_, rfl⟩
          exact ⟨old, List.mem_map.mpr ⟨old, listed, if_neg same⟩, at_, rfl⟩
    have whole : (perform outcome (.userLogin username password fd) state).2.presence =
        { state.presence with
          place := Function.update state.presence.place username (some fd) } := by
      refine Presence.ext ?_ place rfl
      change accountOf (perform outcome (.userLogin username password fd) state).2.users.users = _
      rw [users]
      exact accountOf_congr records
    rw [whole]
    refine .enter (if_pos ?_) ⟨user, member, named, legal, opens⟩ ?_
    · exact List.any_eq_true.mpr ⟨user, member, decide_eq_true named⟩
    · have absent : ¬ (state.presence.place username).isSome := by
        rw [place_isSome wellFormed, ServerState.online_iff]
        rintro ⟨other, listed, called, online⟩
        obtain rfl := wellFormed.users.unique member listed (named.trans called.symm)
        rw [offline] at online
        contradiction
      simpa using absent

/-! ## Inputs -/

/-- The input ends the session on a connection. -/
def Input.Ends : Input → Int → Prop
  | .connect _, _ => False
  | .packet fd request, ended => fd = ended ∧ request.type = MessageType.msgLogout.code
  | .disconnect fd, ended => fd = ended

/-- Who departs while an input is handled, and why. -/
structure Departs (machine machine' : ServerMachine) (input : Input) (gone : CString → Bool) :
    Prop where
  /-- Who departs was present on a connection that ends, or to which a send has failed. -/
  justified : ∀ name, gone name = true → ∃ fd, machine.state.presence.place name = some fd ∧
    (input.Ends fd ∨ ∃ event ∈ machine'.trace.drop machine.trace.length, FailsTo fd event)
  /-- Whose session ends departs. -/
  ended : ∀ fd name, input.Ends fd →
    userStoreUsernameByFd machine.state.users fd = some name → gone name = true

/-- The deeds that handling an input may amount to. -/
inductive Permitted (machine machine' : ServerMachine) :
    Input → List (Deed CString CString Int GroupHeader) → Prop
  /-- A connection is nothing to the service. -/
  | connect {fd : Int} : Permitted machine machine' (.connect fd) []
  /-- A registration or a login may be refused. -/
  | refused {fd : Int} {packet : Packet}
      (asks : MessageType.ofCode? packet.type = some .msgRegister ∨
        MessageType.ofCode? packet.type = some .msgLogin) :
      Permitted machine machine' (.packet fd packet) []
  /-- A registration opens the account of its sender name, by the password it carries. -/
  | enrol {fd : Int} {packet : Packet}
      (asks : MessageType.ofCode? packet.type = some .msgRegister) :
      Permitted machine machine' (.packet fd packet) [.enrol packet.senderName packet.dataText]
  /-- A login enters on its own connection. -/
  | enter {fd : Int} {packet : Packet}
      (asks : MessageType.ofCode? packet.type = some .msgLogin) :
      Permitted machine machine' (.packet fd packet) [.enter packet.senderName packet.dataText fd]
  /-- A group is created for the user of the connection, with the name and the members of the
  request. -/
  | gather {fd : Int} {packet : Packet} {creator name : CString} {members : List CString}
      {header : GroupHeader} {gone : CString → Bool}
      (asks : MessageType.ofCode? packet.type = some .msgGroupCreate)
      (founder : userStoreUsernameByFd machine.state.users fd = some creator)
      (named : groupPayloadParse packet.payload = .ok (name :: members))
      (id : header.1 = copyFixed groupIdMaxLen (groupIdText machine.state.groups.nextId))
      (called : header.2.1.toCString = name) (founded : header.2.2.toCString = creator)
      (departs : Departs machine machine' (.packet fd packet) gone) :
      Permitted machine machine' (.packet fd packet)
        [.gather header (creator :: members).eraseDups, .depart gone]
  /-- Whatever else happens, users may depart. -/
  | depart {input : Input} {gone : CString → Bool}
      (other : ∀ fd packet, input = .packet fd packet →
        MessageType.ofCode? packet.type ≠ some .msgRegister ∧
          MessageType.ofCode? packet.type ≠ some .msgLogin)
      (departs : Departs machine machine' input gone) :
      Permitted machine machine' input [.depart gone]

variable {outcomes : Nat → Outcome} {machine machine' final : ServerMachine}

/-- Users that are online before an input and not after it had a reason to depart. -/
theorem Served.departs {input : Input} (served : Served outcomes machine input machine')
    (wellFormed : machine.state.WellFormed) {gone : CString → Bool}
    (left : ∀ name, gone name = true →
      machine.state.online name = true ∧ machine'.state.online name = false)
    (ended : ∀ fd name, input.Ends fd →
      userStoreUsernameByFd machine.state.users fd = some name → gone name = true) :
    Departs machine machine' input gone := by
  refine ⟨fun name goes => ?_, ended⟩
  obtain ⟨online, offline⟩ := left name goes
  obtain ⟨fd, here⟩ := ServerState.online_iff_loggedIn.mp online
  refine ⟨fd, (place_eq_some wellFormed).mpr here, ?_⟩
  by_cases ends : input.Ends fd
  · exact .inl ends
  · right
    have stays : input ≠ .disconnect fd := by
      rintro rfl
      exact ends rfl
    have remains : ∀ packet, input = .packet fd packet →
        packet.type ≠ MessageType.msgLogout.code := by
      rintro packet rfl logout
      exact ends ⟨rfl, logout⟩
    rcases served.keeps wellFormed here stays remains with still | failed
    · have online' := ServerState.online_iff_loggedIn.mpr ⟨fd, still⟩
      rw [offline] at online'
      contradiction
    · exact failed

/-- Cleanups return at every depth. -/
theorem calleesReturn (depth : Nat) : CalleesReturn outcomes depth := by
  intro fd machine wellFormed few
  cases depth with
  | zero => exact absurd few (Nat.not_lt_zero _)
  | succ depth =>
    obtain ⟨final, ran, cascade, _⟩ :=
      cleanupOfflineFd_run depth wellFormed fd (Nat.lt_succ_iff.mp few)
    exact ⟨final, congrArg (Option.map Prod.snd) ran, cascade⟩

/-- Code that only reads, outside cleanups, is a cascade. -/
theorem runs_cascade {α : Type} {program : Handler α} {value : α}
    (reads : program.Only fun op => op.reads = true)
    (ran : program.Runs (serverSemantics outcomes) machine value final)
    (wellFormed : machine.state.WellFormed) : Cascade machine.state final.state := by
  obtain ⟨_, final', ran', cascade⟩ := reading_run (calleesReturn (machine.state.onlineCount + 1))
    reads machine wellFormed (Nat.lt_succ_self _)
  obtain ⟨_, rfl⟩ := Runs.unique ran ⟨_, ran'⟩
  exact cascade

omit [Sha256] in
/-- A packet that changes no account and creates no group only reads, outside cleanups. -/
theorem processPacket_reads {fd : Int} {packet : Packet}
    (register : MessageType.ofCode? packet.type ≠ some .msgRegister)
    (login : MessageType.ofCode? packet.type ≠ some .msgLogin)
    (creates : MessageType.ofCode? packet.type ≠ some .msgGroupCreate) :
    (processPacket fd packet).Only fun op => op.reads = true := by
  have plain (op : Operation) (plain : op.plain = true) := op.reads_of_plain plain
  unfold processPacket
  split
  · contradiction
  · contradiction
  · exact handleOnlineList_only plain fd
  · exact handlePrivate_only plain fun _ _ => rfl
  · exact handleGroup_only plain fun _ _ => rfl
  · contradiction
  · exact handleGroupList_only plain fd
  · exact handleGroupMessage_only plain fun _ _ _ _ => rfl
  · exact handleFilePacket_only plain fun _ _ => rfl
  · exact handleFilePacket_only plain fun _ _ => rfl
  · exact handleFilePacket_only plain fun _ _ => rfl
  · simp only [call_bind, done_bind, only_call]
    exact response_only plain rfl
  · exact response_only plain rfl
  · exact response_only plain rfl

/-! ## Handlers -/

/-- Handling a registration opens an account, or does nothing. -/
theorem handleRegister_does {fd : Int} {packet : Packet}
    (ran : (handleRegister fd packet).Runs (serverSemantics outcomes) machine () final)
    (wellFormed : machine.state.WellFormed) :
    final.state.presence = machine.state.presence ∨
      machine.state.presence.Does (.enrol packet.senderName packet.dataText) final.state.presence := by
  unfold handleRegister at ran
  simp only [perform_bind, done_bind, runs_perform] at ran
  have answered : final.state = (perform (outcomes machine.trace.length)
      (.userRegister packet.senderName packet.dataText) machine.state).2 := by
    split at ran
    · exact (sendTextResponse_runs ran).1
    · exact (sendTextResponse_runs ran).1
  rw [answered]
  exact userRegister_does _ wellFormed _ _

/-- Handling a login enters, or does nothing. -/
theorem handleLogin_does {fd : Int} {packet : Packet}
    (ran : (handleLogin fd packet).Runs (serverSemantics outcomes) machine () final)
    (wellFormed : machine.state.WellFormed) :
    final.state.presence = machine.state.presence ∨
      machine.state.presence.Does (.enter packet.senderName packet.dataText fd)
        final.state.presence := by
  unfold handleLogin at ran
  simp only [perform_bind, done_bind, runs_perform] at ran
  have answered : final.state = (perform (outcomes machine.trace.length)
      (.userLogin packet.senderName packet.dataText fd) machine.state).2 := by
    split at ran
    · exact (sendTextResponse_runs ran).1
    · exact (sendTextResponse_runs ran).1
  rw [answered]
  exact userLogin_does _ wellFormed _ _ _

/-- A group that the store refuses changes nothing. -/
theorem groupCreate_refused {outcome : Outcome} {state : ServerState} {creator name : CString}
    {members : List CString} {result : GroupResult}
    (refused : (perform outcome (.groupCreate creator name members) state).1 = .error result) :
    (perform outcome (.groupCreate creator name members) state).2 = state := by
  change (groupStoreCreate outcome.allocated state.groups creator name members).1 = _ at refused
  change { state with
    groups := (groupStoreCreate outcome.allocated state.groups creator name members).2 } = state
  obtain ⟨_, same⟩ | ⟨group, _, done⟩ :=
    GroupStore.create_cases outcome.allocated state.groups creator name members
  · rw [same]
  · rw [done] at refused
    contradiction

/-- A group that the store creates is gathered. -/
theorem groupCreate_does {outcome : Outcome} {state : ServerState} (wellFormed : state.WellFormed)
    {creator name : CString} {members : List CString} {snapshot : GroupSnapshot}
    (created : (perform outcome (.groupCreate creator name members) state).1 = .ok snapshot)
    (founder : state.online creator = true)
    (named : ∀ member ∈ members, state.online member = true) :
    state.presence.Does (.gather snapshot.header (creator :: members).eraseDups)
        (perform outcome (.groupCreate creator name members) state).2.presence ∧
      snapshot.id = copyFixed groupIdMaxLen (groupIdText state.groups.nextId) ∧
      snapshot.name.toCString = name ∧ snapshot.creator.toCString = creator := by
  obtain ⟨result, refused⟩ | ⟨group, whole, done⟩ :=
    GroupStore.create_cases outcome.allocated state.groups creator name members
  · change (groupStoreCreate outcome.allocated state.groups creator name members).1 = _ at created
    rw [refused] at created
    contradiction
  · change (groupStoreCreate outcome.allocated state.groups creator name members).1 = _ at created
    rw [done] at created
    obtain rfl := Except.ok.inj created
    have names : group.memberNames = (creator :: members).eraseDups :=
      whole.memberNames.trans (enlist_singleton creator members)
    have after : (perform outcome (.groupCreate creator name members) state).2.presence =
        { state.presence with
          groups := (group.header, (creator :: members).eraseDups) :: state.presence.groups } := by
      refine Presence.ext rfl rfl ?_
      change (groupStoreCreate outcome.allocated state.groups creator name members).2.head.map
        GroupSnapshot.entry = _
      rw [done, ← names]
      rfl
    refine ⟨?_, whole.id, whole.called, whole.founded⟩
    rw [after]
    refine .gather ?_ ?_ fun member inside => ?_
    · exact List.ne_nil_of_mem (List.mem_eraseDups.mpr List.mem_cons_self)
    · rw [← names]
      exact whole.wellFormed.distinct
    · rw [place_isSome wellFormed]
      rcases List.mem_cons.mp (List.mem_eraseDups.mp inside) with rfl | other
      · exact founder
      · exact named member other

/-- A request of a user creates no group, or one with the name and the members of the request; then
users may depart. -/
theorem createGroupFor_does {fd : Int} {packet : Packet} {username : CString}
    (ran : (createGroupFor fd packet username).Runs (serverSemantics outcomes) machine () final)
    (wellFormed : machine.state.WellFormed) (session : machine.state.online username = true) :
    Cascade machine.state final.state ∨
      ∃ name members header between,
        groupPayloadParse packet.payload = .ok (name :: members) ∧
        header.1 = copyFixed groupIdMaxLen (groupIdText machine.state.groups.nextId) ∧
        header.2.1.toCString = name ∧ header.2.2.toCString = username ∧
        machine.state.presence.Does (.gather header (username :: members).eraseDups)
          between.presence ∧
        between.WellFormed ∧ between.users = machine.state.users ∧
        Cascade between final.state := by
  have reads (op : Operation) (plain : op.plain = true) := op.reads_of_plain plain
  unfold createGroupFor at ran
  split at ran
  · rename_i name member others parsed
    split at ran
    · exact .inl (runs_cascade (response_only reads rfl) ran wellFormed)
    · obtain ⟨checked, middle, check, rest⟩ := (runs_bind _ _ _ _ _ _).mp ran
      have sound := runs_wellFormed check wellFormed
      have looked := runs_cascade (checkMembers_only reads _ _ _ _) check wellFormed
      split at rest
      · obtain ⟨_, rfl⟩ := (runs_done _ _ _ _ _).mp rest
        exact .inl looked
      · exact .inl (looked.trans (runs_cascade (response_only reads rfl) rest sound))
      · -- The state in which the group is created is the one in which the members were found.
        obtain ⟨same, named, _⟩ := checkMembers_runs wellFormed check
        simp only [perform_bind, done_bind, runs_perform] at rest
        have kept := perform_wellFormed sound (outcomes middle.trace.length)
          (.groupCreate username name (member :: others))
        split at rest
        · rename_i result refused
          have unchanged : (middle.after (serverSemantics outcomes)
              (.groupCreate username name (member :: others))).state = middle.state :=
            groupCreate_refused refused
          have answered := runs_cascade (response_only reads rfl) rest kept
          rw [unchanged] at answered
          exact .inl (looked.trans answered)
        · rename_i snapshot created
          obtain ⟨gathers, id, called, founded⟩ := groupCreate_does sound created (same ▸ session)
            (same ▸ named)
          right
          have users : (perform (outcomes middle.trace.length)
              (.groupCreate username name (member :: others)) middle.state).2.users =
              machine.state.users := by
            rw [← same]
            rfl
          refine ⟨name, member :: others, snapshot.header, _, parsed, same ▸ id, called, founded,
            same ▸ gathers, kept, users, ?_⟩
          refine runs_cascade ?_ rest kept
          exact only_bind (pushGroupEvent_only (fun _ => rfl) (fun _ _ _ _ => rfl) _ _) fun _ =>
            response_only reads rfl
  · exact .inl (runs_cascade (response_only reads rfl) ran wellFormed)

/-! ## Runs -/

/-- Who goes offline in a cascade departs. -/
theorem Served.depart {input : Input} (served : Served outcomes machine input machine')
    (wellFormed : machine.state.WellFormed) {before after : ServerState}
    (cascade : Cascade before after) (users : before.users = machine.state.users)
    (online : ∀ name, machine'.state.online name = after.online name)
    (ended : ∀ fd name, input.Ends fd →
      userStoreUsernameByFd machine.state.users fd = some name → after.online name = false) :
    ∃ gone, CascadeOf gone before after ∧ Departs machine machine' input gone := by
  obtain ⟨gone, cascade⟩ := cascade
  have earlier (name : CString) : before.online name = machine.state.online name :=
    congrArg (fun store => store.users.any fun user => user.username.toCString = name && user.online)
      users
  refine ⟨gone, cascade, served.departs wellFormed (fun name left => ?_) fun fd name ends found => ?_⟩
  · have here := cascade.wasOnline name left
    refine ⟨earlier name ▸ here, ?_⟩
    rw [online, cascade.online, left]
    simp
  · obtain ⟨user, _, named, member, on, _⟩ := usernameByFd_some found
    have offline := ended fd name ends found
    rw [cascade.online, earlier, ServerState.online_iff.mpr ⟨user, member, named, on⟩] at offline
    simpa using offline

/-- The user on a connection is offline after its cleanup. -/
theorem Served.ended {fd : Int} {packet : Packet}
    (served : Served outcomes machine (.packet fd packet) machine')
    (wellFormed : machine.state.WellFormed) {ended : Int} {name : CString}
    (ends : (Input.packet fd packet).Ends ended)
    (found : userStoreUsernameByFd machine.state.users ended = some name) :
    machine'.state.online name = false := by
  obtain ⟨rfl, logout⟩ := ends
  have ran := (served_packet.mp served).2
  rw [processPacket, logout, MessageType.ofCode?_code] at ran
  simp only [call_bind, done_bind] at ran
  obtain ⟨middle, cleaned, answered⟩ := (runs_call _ _ _ _ _ _).mp ran
  rw [(sendTextResponse_runs answered).1]
  exact (cleanupOfflineFd_runs cleaned wellFormed).2 name found

/-- Handling an input does permitted deeds. -/
theorem Served.does {input : Input} (served : Served outcomes machine input machine')
    (wellFormed : machine.state.WellFormed) :
    ∃ deeds, Permitted machine machine' input deeds ∧
      machine.state.presence.DoesAll deeds machine'.state.presence := by
  cases input with
  | connect fd =>
    obtain ⟨_, _, rfl⟩ := served_connect.mp served
    exact ⟨[], .connect, .nothing _⟩
  | disconnect fd =>
    have ran := (served_disconnect.mp served).2
    unfold clientExit at ran
    simp only [call_bind, done_bind, runs_call, runs_perform, runs_done] at ran
    obtain ⟨middle, cleaned, _, rfl⟩ := ran
    obtain ⟨cascade, offline⟩ := cleanupOfflineFd_runs cleaned wellFormed
    obtain ⟨gone, cascade, departs⟩ := served.depart wellFormed cascade rfl (fun _ => rfl)
      fun ended name ends found => by
        obtain rfl : fd = ended := ends
        exact offline name found
    refine ⟨[.depart gone], .depart (fun fd packet impossible => ?_) departs, ?_⟩
    · contradiction
    · exact (cascade.does wellFormed).all
  | packet fd packet =>
    have ran := (served_packet.mp served).2
    by_cases register : MessageType.ofCode? packet.type = some .msgRegister
    · rw [processPacket, register] at ran
      rcases handleRegister_does ran wellFormed with same | does
      · exact ⟨[], .refused (.inl register), same ▸ .nothing _⟩
      · exact ⟨_, .enrol register, does.all⟩
    by_cases login : MessageType.ofCode? packet.type = some .msgLogin
    · rw [processPacket, login] at ran
      rcases handleLogin_does ran wellFormed with same | does
      · exact ⟨[], .refused (.inr login), same ▸ .nothing _⟩
      · exact ⟨_, .enter login, does.all⟩
    have departure (cascade : Cascade machine.state machine'.state) : ∃ deeds,
        Permitted machine machine' (.packet fd packet) deeds ∧
          machine.state.presence.DoesAll deeds machine'.state.presence := by
      obtain ⟨gone, cascade, departs⟩ := served.depart wellFormed cascade rfl (fun _ => rfl)
        fun ended name ends found => served.ended wellFormed ends found
      refine ⟨[.depart gone], .depart ?_ departs, (cascade.does wellFormed).all⟩
      rintro _ _ same
      cases same
      exact ⟨register, login⟩
    by_cases creates : MessageType.ofCode? packet.type = some .msgGroupCreate
    · rw [processPacket, creates] at ran
      unfold handleGroupCreate at ran
      simp only [perform_bind, done_bind, runs_perform, answer_userUsernameByFd] at ran
      have same : (machine.after (serverSemantics outcomes) (.userUsernameByFd fd)).state =
          machine.state := after_reads machine rfl
      have reads (op : Operation) (plain : op.plain = true) := op.reads_of_plain plain
      cases found : userStoreUsernameByFd machine.state.users fd with
      | none =>
        rw [found] at ran
        have refused := runs_cascade (response_only reads rfl) ran (same ▸ wellFormed)
        exact departure (same ▸ refused)
      | some username =>
        rw [found] at ran
        obtain ⟨user, _, named, member, online, _⟩ := usernameByFd_some found
        have session : machine.state.online username = true :=
          ServerState.online_iff.mpr ⟨user, member, named, online⟩
        have created := createGroupFor_does ran (same ▸ wellFormed) (same ▸ session)
        rw [same] at created
        obtain cascade | ⟨name, members, header, between, parsed, id, called, founded, gathers, sound,
          users, cascade⟩ := created
        · exact departure cascade
        · obtain ⟨gone, cascade, departs⟩ := served.depart wellFormed cascade users (fun _ => rfl)
            fun ended name ends found => served.ended wellFormed ends found
          refine ⟨_, .gather creates found parsed id called founded departs, ?_⟩
          exact .first gathers (cascade.does sound).all
    · exact departure (runs_cascade (processPacket_reads register login creates) ran wellFormed)

/-- In a server that has started, nobody is present and there are no groups. -/
theorem started_presence (started : Started machine) :
    machine.state.presence.place = (fun _ => none) ∧ machine.state.presence.groups = [] := by
  obtain ⟨allocated, file, rfl⟩ := started
  obtain ⟨wellFormed, offline⟩ := startState_wellFormed allocated file
  refine ⟨funext fun name => ?_, rfl⟩
  have absent : ¬ ((startState allocated file).presence.place name).isSome := by
    rw [place_isSome wellFormed, ServerState.online_iff]
    rintro ⟨user, member, _, online⟩
    rw [offline user member] at online
    contradiction
  simpa using absent

/-- The server is a presence service: it starts with nobody present and without groups, and whatever
inputs follow and whatever fails, each of them does permitted deeds of the service, so that only users
with accounts are present and groups are groups of different users who are. -/
theorem serverReachable_serves (reached : ServerReachable outcomes machine) :
    machine.state.presence.Sound ∧ ∀ input machine', Served outcomes machine input machine' →
      ∃ deeds, Permitted machine machine' input deeds ∧
        machine.state.presence.DoesAll deeds machine'.state.presence := by
  refine ⟨?_, fun input machine' served => served.does (serverReachable_wellFormed reached)⟩
  refine reached.invariant (fun machine => machine.state.presence.Sound) (fun machine started => ?_)
    fun machine input machine' earlier sound served => ?_
  · obtain ⟨place, groups⟩ := started_presence started
    refine ⟨fun name here => ?_, ?_, ?_, ?_⟩
    · rw [place] at here
      contradiction
    · exact fun group listed => absurd (groups ▸ listed) List.not_mem_nil
    · exact fun group listed => absurd (groups ▸ listed) List.not_mem_nil
    · exact fun group listed => absurd (groups ▸ listed) List.not_mem_nil
  · obtain ⟨deeds, _, does⟩ := served.does (serverReachable_wellFormed earlier)
    exact does.sound sound

end

section

attribute [local instance] sampleDigest

/-- The connection of the member ends. -/
theorem trioMachine_returns : (serve (failingAt [27]) 2 trioMachine (.disconnect 5)).isSome := by
  decide +kernel

/-- The end of the connection is a departure. -/
theorem serverReachable_serves_trio : trioMachine.state.presence.Sound ∧
    ∃ deeds, Permitted trioMachine ((serve (failingAt [27]) 2 trioMachine (.disconnect 5)).get
        trioMachine_returns) (.disconnect 5) deeds ∧
      trioMachine.state.presence.DoesAll deeds ((serve (failingAt [27]) 2 trioMachine
        (.disconnect 5)).get trioMachine_returns).state.presence :=
  ⟨(serverReachable_serves (sample_reachable trio_returns)).1,
    (serverReachable_serves (sample_reachable trio_returns)).2 _ _
      ⟨2, (Option.some_get trioMachine_returns).symm⟩⟩

end

end MultiUserChat
