import MultiUserChat.Verif.HandlerText
/-!
# The passive-offline cascade

`cleanup_offline_fd` takes one user offline and announces it; each announcement that cannot be sent
calls it again. Whatever fails, the effect on the stores is that some online users went offline and
departed from the roster of groups (`Cascade`), which composes. Every call that recurses has taken
one user offline first, so the number of online users bounds the nesting.
-/

namespace MultiUserChat

open Program

namespace ServerState

/-- A user of this name is online. -/
def online (state : ServerState) (name : CString) : Bool :=
  state.users.users.any fun user => user.username.toCString = name && user.online

/-- A user is online under a name when an account says so. -/
theorem online_iff {state : ServerState} {name : CString} : state.online name = true ↔
    ∃ user ∈ state.users.users, user.username.toCString = name ∧ user.online = true := by
  simp only [online, List.any_eq_true, Bool.and_eq_true, decide_eq_true_eq]

/-- The lookup of a descriptor succeeds exactly for the users that are online. -/
theorem online_iff_getFd {state : ServerState} (wellFormed : state.WellFormed) {name : CString} :
    state.online name = true ↔ ∃ fd, userStoreGetFd state.users name = .ok fd := by
  rw [online_iff]
  constructor
  · rintro ⟨user, member, named, online⟩
    exact ⟨user.socketFd, wellFormed.users.getFd_ok.mpr ⟨user, member, named, online, rfl⟩⟩
  · rintro ⟨fd, found⟩
    obtain ⟨user, member, named, online, _⟩ := wellFormed.users.getFd_ok.mp found
    exact ⟨user, member, named, online⟩

/-- A user of this name is logged in on the descriptor. -/
def LoggedIn (state : ServerState) (fd : Int) (name : CString) : Prop :=
  ∃ user ∈ state.users.users, user.onlineAt fd = true ∧ user.username.toCString = name

/-- A user is online when it is logged in somewhere. -/
theorem online_iff_loggedIn {state : ServerState} {name : CString} :
    state.online name = true ↔ ∃ fd, state.LoggedIn fd name := by
  rw [online_iff]
  constructor
  · rintro ⟨user, member, named, online⟩
    exact ⟨user.socketFd, user, member, by simp [User.onlineAt, online], named⟩
  · rintro ⟨fd, user, member, at_, named⟩
    simp only [User.onlineAt, Bool.and_eq_true] at at_
    exact ⟨user, member, named, at_.1⟩

/-- The number of online users. -/
def onlineCount (state : ServerState) : Nat := state.users.users.countP User.online

end ServerState

/-- The groups a user is a member of, in the order of the store. -/
def ServerState.memberships (state : ServerState) (name : CString) :
    List (FixedString groupIdMaxLen × FixedString groupNameMaxLen × FixedString usernameMaxLen) :=
  Roster.memberships state.groups.roster name

/-- The user was online before and is no longer. -/
def wentOffline (before after : ServerState) (name : CString) : Bool :=
  before.online name && !after.online name

/-- The accounts after some of them went offline. -/
def dropOffline (gone : CString → Bool) (users : List User) : List User :=
  users.map fun user => if gone user.username.toCString then user.offline else user

/-- The given users, all of them online, went offline and left every group; nothing else changed. -/
structure CascadeOf (gone : CString → Bool) (before after : ServerState) : Prop where
  /-- The stores are well formed afterwards. -/
  wellFormed : after.WellFormed
  /-- Only online users go. -/
  wasOnline : ∀ name, gone name = true → before.online name = true
  /-- Their accounts go offline and no other field of any account changes. -/
  users : after.users.users = dropOffline gone before.users.users
  /-- They depart from the roster of groups. -/
  roster : after.groups.roster = Roster.depart gone before.groups.roster
  /-- Group numbering continues where it was. -/
  nextId : after.groups.nextId = before.groups.nextId
  /-- The storage file is as it was. -/
  file : after.file = before.file
  /-- The open descriptors are as they were. -/
  connections : after.connections = before.connections
  /-- No connection was accepted. -/
  accepted : after.accepted = before.accepted

/-- Some online users went offline and left every group; nothing else changed. -/
def Cascade (before after : ServerState) : Prop := ∃ gone, CascadeOf gone before after

/-- A search for an online user under a name sees who went offline. -/
theorem CascadeOf.online {gone : CString → Bool} {before after : ServerState}
    (cascade : CascadeOf gone before after) (name : CString) :
    after.online name = (before.online name && !gone name) := by
  unfold ServerState.online
  rw [cascade.users, dropOffline, List.any_map]
  induction before.users.users with
  | nil => rfl
  | cons user users ih =>
    rw [List.any_cons, List.any_cons, ih, Bool.and_or_distrib_right]
    congr 1
    by_cases same : user.username.toCString = name
    · subst same
      cases left : gone user.username.toCString <;> simp [left, User.offline]
    · cases left : gone user.username.toCString <;> simp [left, same, User.offline]

/-- A cascade takes nobody online. -/
theorem CascadeOf.onlineCount_le {gone : CString → Bool} {before after : ServerState}
    (cascade : CascadeOf gone before after) : after.onlineCount ≤ before.onlineCount := by
  unfold ServerState.onlineCount
  rw [cascade.users, dropOffline, List.countP_map]
  apply List.countP_mono_left
  intro user _ online
  by_cases left : gone user.username.toCString = true
  · simp [left, User.offline] at online
  · simpa [left] using online

/-- A cascade that takes somebody offline lowers the number of online users. -/
theorem CascadeOf.onlineCount_lt {gone : CString → Bool} {before after : ServerState}
    (cascade : CascadeOf gone before after) {name : CString} (left : gone name = true) :
    after.onlineCount < before.onlineCount := by
  obtain ⟨user, member, rfl, online⟩ := ServerState.online_iff.mp (cascade.wasOnline name left)
  have monotone : ∀ users : List User,
      users.countP (User.online ∘ fun user =>
        if gone user.username.toCString then user.offline else user) ≤ users.countP User.online := by
    intro users
    apply List.countP_mono_left
    intro other _ online
    by_cases goes : gone other.username.toCString = true
    · simp [goes, User.offline] at online
    · simpa [goes] using online
  obtain ⟨first, rest, split⟩ := List.append_of_mem member
  have early := monotone first
  have late := monotone rest
  unfold ServerState.onlineCount
  rw [cascade.users, dropOffline, List.countP_map, split, List.countP_append, List.countP_append,
    List.countP_cons_of_pos online, List.countP_cons_of_neg (by simp [left, User.offline])]
  omega

/-- Nothing happened to a well-formed state. -/
theorem Cascade.refl {state : ServerState} (wellFormed : state.WellFormed) :
    Cascade state state := by
  refine ⟨fun _ => false, wellFormed, ?_, ?_, ?_, rfl, rfl, rfl, rfl⟩
  · intro name absurd
    contradiction
  · simp [dropOffline]
  · exact (Roster.depart_none wellFormed.groups.roster_inhabited).symm

/-- Two cascades in a row are a cascade. -/
theorem Cascade.trans {first second third : ServerState} (early : Cascade first second)
    (late : Cascade second third) : Cascade first third := by
  obtain ⟨gone, early⟩ := early
  obtain ⟨gone', late⟩ := late
  refine ⟨fun name => gone name || gone' name, late.wellFormed, ?_, ?_, ?_,
    late.nextId.trans early.nextId, late.file.trans early.file,
    late.connections.trans early.connections, late.accepted.trans early.accepted⟩
  · intro name left
    rcases Bool.or_eq_true_iff.mp left with goes | goes
    · exact early.wasOnline name goes
    · have middle := late.wasOnline name goes
      rw [early.online, Bool.and_eq_true] at middle
      exact middle.1
  · rw [late.users, early.users, dropOffline, dropOffline, dropOffline, List.map_map]
    apply List.map_congr_left
    intro user _
    cases goes : gone user.username.toCString <;>
      cases goes' : gone' user.username.toCString <;> simp [goes, goes', User.offline]
  · rw [late.roster, early.roster, Roster.depart_depart]

/-- The user found at a descriptor is online under the name that is returned. -/
theorem usernameByFd_some {state : ServerState} {fd : Int} {name : CString}
    (found : userStoreUsernameByFd state.users fd = some name) :
    ∃ user, (state.users.users.find? fun user => user.onlineAt fd) = some user ∧
      user.username.toCString = name ∧ user ∈ state.users.users ∧ user.online = true ∧
      user.socketFd = fd := by
  obtain ⟨user, search, rfl⟩ := Option.map_eq_some_iff.mp found
  have holds := List.find?_some search
  simp only [User.onlineAt, Bool.and_eq_true, decide_eq_true_eq] at holds
  exact ⟨user, search, rfl, List.mem_of_find?_eq_some search, holds.1, holds.2⟩

/-- The text of a cleanup, by the answer of its first operation. -/
theorem cleanupOfflineFd_eq (fd : Int) : cleanupOfflineFd fd =
    .perform (.userUsernameByFd fd) fun found =>
      match found with
      | none => .perform (.userLogoutFd fd) fun _ => .done ()
      | some name => .perform (.groupRemoveMember name) fun changes =>
        .perform (.userLogoutFd fd) fun _ => pushChanges changes := by
  unfold cleanupOfflineFd
  rw [perform_bind]
  congr 1
  funext found
  cases found <;> rfl

/-- The effect of a passive-offline cascade on the two stores, in terms of who went offline. -/
structure PassiveOffline (before after : ServerState) : Prop where
  /-- Who went offline is a member of no group. -/
  departed : ∀ name, wentOffline before after name = true →
    ∀ group ∈ after.groups.head, name ∉ group.memberNames
  /-- Who stayed online has the memberships it had. -/
  memberships : ∀ name, after.online name = true →
    after.memberships name = before.memberships name
  /-- Every group keeps its id, name and creator and its remaining members in order, and exactly the
  groups without a remaining member are gone. -/
  groups : after.groups.roster = Roster.depart (wentOffline before after) before.groups.roster
  /-- No account changes, except that those that went offline are offline. -/
  accounts : after.users.users = dropOffline (wentOffline before after) before.users.users

/-- Who went offline in a cascade is who it was about. -/
theorem CascadeOf.wentOffline_eq {gone : CString → Bool} {before after : ServerState}
    (cascade : CascadeOf gone before after) : wentOffline before after = gone := by
  funext name
  rw [wentOffline, cascade.online]
  cases left : gone name with
  | false => cases before.online name <;> rfl
  | true => rw [cascade.wasOnline name left]; rfl

/-- Every cascade has the effect of a passive-offline cascade. -/
theorem Cascade.passiveOffline {before after : ServerState} (cascade : Cascade before after) :
    PassiveOffline before after := by
  obtain ⟨gone, cascade⟩ := cascade
  have same := cascade.wentOffline_eq
  refine ⟨fun name left group listed inside => ?_, fun name online => ?_, ?_, ?_⟩
  · have entry : group.entry ∈ Roster.depart gone before.groups.roster := by
      rw [← cascade.roster]
      exact List.mem_map_of_mem listed
    rw [same] at left
    have stays := (Roster.depart_members entry inside).1
    rw [left] at stays
    contradiction
  · rw [cascade.online, Bool.and_eq_true, Bool.not_eq_true'] at online
    rw [ServerState.memberships, cascade.roster, Roster.memberships_stayed online.2]
    rfl
  · rw [same]
    exact cascade.roster
  · rw [same]
    exact cascade.users

section

variable [Sha256] {outcomes : Nat → Outcome}

/-- A login lasts across every operation, except the logout that finds its user at the descriptor. -/
theorem perform_loggedIn {state : ServerState} (wellFormed : state.WellFormed) {fd : Int}
    {name : CString} (here : state.LoggedIn fd name) (outcome : Outcome) (op : Operation) :
    (perform outcome op state).2.LoggedIn fd name ∨
      op = .userLogoutFd fd ∧ userStoreUsernameByFd state.users fd = some name := by
  obtain ⟨user, member, at_, named⟩ := here
  have online : user.online = true ∧ user.socketFd = fd := by simpa [User.onlineAt] using at_
  cases op with
  | userRegister username password =>
    refine .inl ⟨user, ?_, at_, named⟩
    change user ∈ (userStoreRegister outcome.registration state.users state.file username
      password).2.1.users
    obtain same | ⟨_, added, _, _, _, _, _, listed⟩ :=
      wellFormed.users.register outcome.registration state.file username password
    · rwa [same]
    · rw [listed]
      exact List.mem_cons_of_mem _ member
  | userLogin username password other =>
    refine .inl ⟨user, ?_, at_, named⟩
    change user ∈ (userStoreLogin outcome.digested state.users username password other).2.users
    obtain ⟨_, same⟩ | ⟨_, _, ⟨account, listed, called, offline, _⟩, users⟩ :=
      wellFormed.users.login outcome.digested username password other
    · rwa [same]
    · rw [users]
      refine List.mem_map.mpr ⟨user, member, if_neg fun entering => ?_⟩
      -- An account that logs in was offline.
      rw [wellFormed.users.unique member listed (entering.trans called.symm), offline] at online
      exact absurd online.1 Bool.false_ne_true
  | userLogoutFd other =>
    have users := (wellFormed.users.logoutFd other).2
    cases found : state.users.users.find? fun user => user.onlineAt other with
    | none =>
      rw [found] at users
      refine .inl ⟨user, ?_, at_, named⟩
      change user ∈ (userStoreLogoutFd state.users other).2.users
      rwa [users]
    | some first =>
      rw [found] at users
      by_cases same : user.username.toCString = first.username.toCString
      · have sole := wellFormed.users.unique member (List.mem_of_find?_eq_some found) same
        have there := List.find?_some found
        simp only [User.onlineAt, Bool.and_eq_true, decide_eq_true_eq] at there
        have fds : other = fd := by rw [← there.2, ← sole, online.2]
        rw [fds] at found ⊢
        exact .inr ⟨rfl, by rw [userStoreUsernameByFd, found, Option.map_some, ← same, named]⟩
      · refine .inl ⟨user, ?_, at_, named⟩
        change user ∈ (userStoreLogoutFd state.users other).2.users
        rw [users]
        exact List.mem_map.mpr ⟨user, member, if_neg same⟩
  | groupCreate _ _ _ | groupRemoveMember _ | close _ => exact .inl ⟨user, member, at_, named⟩
  | userGetFd _ | userOnlineList | userSnapshotOnlineFds _ | userUsernameByFd _ =>
    exact .inl ⟨user, member, at_, named⟩
  | groupGetSnapshot _ | groupBuildListPayload _ | send _ _ _ =>
    exact .inl ⟨user, member, at_, named⟩

/-- Who is logged in after an operation was so before, or has just logged in. -/
theorem loggedIn_of_perform {state : ServerState} (wellFormed : state.WellFormed)
    {outcome : Outcome} {op : Operation} {fd : Int} {name : CString}
    (here : (perform outcome op state).2.LoggedIn fd name) : state.LoggedIn fd name ∨
      ∃ password, op = .userLogin name password fd ∧
        (userStoreLogin outcome.digested state.users name password fd).1 = .ok := by
  obtain ⟨user, member, at_, named⟩ := here
  cases op with
  | userRegister username password =>
    change user ∈ (userStoreRegister outcome.registration state.users state.file username
      password).2.1.users at member
    obtain same | ⟨_, added, offline, _, _, _, _, listed⟩ :=
      wellFormed.users.register outcome.registration state.file username password
    · exact .inl ⟨user, same ▸ member, at_, named⟩
    · rw [listed] at member
      rcases List.mem_cons.mp member with rfl | old
      · simp [User.onlineAt, offline] at at_
      · exact .inl ⟨user, old, at_, named⟩
  | userLogin username password other =>
    change user ∈ (userStoreLogin outcome.digested state.users username password other).2.users
      at member
    obtain ⟨_, same⟩ | ⟨ok, _, _, users⟩ :=
      wellFormed.users.login outcome.digested username password other
    · exact .inl ⟨user, same ▸ member, at_, named⟩
    · rw [users] at member
      obtain ⟨original, old, rfl⟩ := List.mem_map.mp member
      by_cases entering : original.username.toCString = username
      · rw [if_pos entering] at at_ named
        have there : other = fd := of_decide_eq_true at_
        have called : username = name := entering.symm.trans named
        subst there called
        exact .inr ⟨password, rfl, ok⟩
      · rw [if_neg entering] at at_ named
        exact .inl ⟨original, old, at_, named⟩
  | userLogoutFd other =>
    change user ∈ (userStoreLogoutFd state.users other).2.users at member
    rw [(wellFormed.users.logoutFd other).2] at member
    split at member
    · exact .inl ⟨user, member, at_, named⟩
    · rename_i first _
      obtain ⟨original, old, rfl⟩ := List.mem_map.mp member
      by_cases same : original.username.toCString = first.username.toCString
      · simp [same, User.onlineAt, User.offline] at at_
      · rw [if_neg same] at at_ named
        exact .inl ⟨original, old, at_, named⟩
  | groupCreate _ _ _ | groupRemoveMember _ | close _ => exact .inl ⟨user, member, at_, named⟩
  | userGetFd _ | userOnlineList | userSnapshotOnlineFds _ | userUsernameByFd _ =>
    exact .inl ⟨user, member, at_, named⟩
  | groupGetSnapshot _ | groupBuildListPayload _ | send _ _ _ =>
    exact .inl ⟨user, member, at_, named⟩

/-- The two locked steps of a cleanup, one after the other, are a cascade of one user. -/
theorem removal_cascade {state : ServerState} (wellFormed : state.WellFormed) {fd : Int}
    {name : CString} (found : userStoreUsernameByFd state.users fd = some name)
    (outcome outcome' : Outcome) :
    CascadeOf (fun other => decide (other = name)) state
      (perform outcome' (.userLogoutFd fd) (perform outcome (.groupRemoveMember name) state).2).2 := by
  obtain ⟨user, search, rfl, member, online, _⟩ := usernameByFd_some found
  refine ⟨perform_wellFormed (perform_wellFormed wellFormed _ _) _ _, ?_, ?_, ?_, ?_, rfl, rfl, rfl⟩
  · intro other same
    rw [decide_eq_true_eq] at same
    subst same
    exact ServerState.online_iff.mpr ⟨user, member, rfl, online⟩
  · have users := (wellFormed.users.logoutFd fd).2
    rw [search] at users
    change (userStoreLogoutFd state.users fd).2.users = _
    rw [users]
    simp only [UserStore.change, dropOffline, decide_eq_true_eq]
  · exact wellFormed.groups.removeMember_roster _ _
  · exact GroupStore.removeMember_nextId _ _ _

/-- A cleanup of a descriptor on which nobody is logged in changes nothing. -/
theorem logoutFd_nobody {state : ServerState} {fd : Int}
    (nobody : userStoreUsernameByFd state.users fd = none) (outcome : Outcome) :
    (perform outcome (.userLogoutFd fd) state).2 = state := by
  have search : state.users.users.find? (fun user => user.onlineAt fd) = none :=
    Option.map_eq_none_iff.mp nobody
  rw [← UserStore.find?_chain, Option.map_eq_none_iff] at search
  change { state with users := (userStoreLogoutFd state.users fd).2 } = state
  rw [userStoreLogoutFd, search]

/-- The cleanups called at a depth return, as far as they start with fewer users online. -/
def CalleesReturn (outcomes : Nat → Outcome) (depth : Nat) : Prop :=
  ∀ fd (machine : ServerMachine), machine.state.WellFormed → machine.state.onlineCount < depth →
    ∃ final, runCall (serverSemantics outcomes) depth (.cleanup fd) machine = some final ∧
      Cascade machine.state final.state

/-- Code that only reads and calls cleanups returns when these do, and is a cascade. -/
theorem reading_run {depth : Nat} (calls : CalleesReturn outcomes depth) {α : Type}
    {program : Handler α} (reads : program.Only fun op => op.reads = true) (machine : ServerMachine)
    (wellFormed : machine.state.WellFormed) (count : machine.state.onlineCount < depth) :
    ∃ value final, run (serverSemantics outcomes) depth program machine = some (value, final) ∧
      Cascade machine.state final.state := by
  refine run_relate depth Cascade
    (fun state => state.WellFormed ∧ state.onlineCount < depth)
    (fun state good => Cascade.refl good.1) (fun _ _ _ => Cascade.trans) ?_ ?_ ?_ reads
    ⟨wellFormed, count⟩
  · rintro before after ⟨_, few⟩ ⟨gone, cascade⟩
    exact ⟨cascade.wellFormed, lt_of_le_of_lt cascade.onlineCount_le few⟩
  · intro turn op state read good
    change Cascade state (perform (outcomes turn) op state).2
    rw [perform_reads read]
    exact Cascade.refl good.1
  · rintro ⟨fd⟩ start good
    exact calls fd start good.1 good.2

/-- A cleanup returns when the cleanups it calls do. It is a cascade that takes the user it finds at
the descriptor offline. -/
theorem cleanupOfflineFd_run_of_calls {depth : Nat} (calls : CalleesReturn outcomes depth)
    {machine : ServerMachine} (wellFormed : machine.state.WellFormed) (fd : Int)
    (count : machine.state.onlineCount ≤ depth) :
    ∃ final, run (serverSemantics outcomes) depth (cleanupOfflineFd fd) machine = some ((), final) ∧
      Cascade machine.state final.state ∧
      ∀ name, userStoreUsernameByFd machine.state.users fd = some name →
        final.state.online name = false := by
  rw [cleanupOfflineFd_eq, run_perform, answer_userUsernameByFd]
  cases found : userStoreUsernameByFd machine.state.users fd with
  | none =>
    refine ⟨_, rfl, ?_, fun name missing => by contradiction⟩
    rw [after_state, after_reads machine rfl, logoutFd_nobody found]
    exact Cascade.refl wellFormed
  | some name =>
    simp only [run_perform]
    set looked := machine.after (serverSemantics outcomes) (.userUsernameByFd fd)
    set left := looked.after (serverSemantics outcomes) (.groupRemoveMember name)
    set removed := left.after (serverSemantics outcomes) (.userLogoutFd fd)
    have withdrawn : CascadeOf (fun other => decide (other = name)) machine.state removed.state :=
      removal_cascade wellFormed found (outcomes looked.trace.length) (outcomes left.trace.length)
    have fewer : removed.state.onlineCount < machine.state.onlineCount :=
      withdrawn.onlineCount_lt (decide_eq_true rfl)
    -- The changes are announced with one user fewer online.
    obtain ⟨⟨⟩, final, ran, announced⟩ := reading_run calls
      (pushChanges_only (fun _ => rfl) (fun _ _ _ _ => rfl) _) removed withdrawn.wellFormed
      (lt_of_lt_of_le fewer count)
    refine ⟨final, ran, Cascade.trans ⟨_, withdrawn⟩ announced, fun other same => ?_⟩
    obtain ⟨gone, later⟩ := announced
    rw [later.online, withdrawn.online, ← Option.some.inj same]
    simp

/-- A cleanup returns with at most as many nested cleanups as users are online, and is a cascade. -/
theorem cleanupOfflineFd_run (depth : Nat) {machine : ServerMachine}
    (wellFormed : machine.state.WellFormed) (fd : Int)
    (count : machine.state.onlineCount ≤ depth) :
    ∃ final, run (serverSemantics outcomes) depth (cleanupOfflineFd fd) machine = some ((), final) ∧
      Cascade machine.state final.state ∧
      ∀ name, userStoreUsernameByFd machine.state.users fd = some name →
        final.state.online name = false := by
  induction depth generalizing machine fd with
  | zero =>
    refine cleanupOfflineFd_run_of_calls (fun fd machine _ few => ?_) wellFormed fd count
    exact absurd few (Nat.not_lt_zero _)
  | succ depth ih =>
    refine cleanupOfflineFd_run_of_calls (fun fd machine holds few => ?_) wellFormed fd count
    obtain ⟨final, ran, cascade, _⟩ := ih holds fd (Nat.lt_succ_iff.mp few)
    refine ⟨final, ?_, cascade⟩
    rw [runCall]
    exact congrArg (Option.map Prod.snd) ran

/-- What a cleanup did when it has returned. -/
theorem cleanupOfflineFd_runs {machine final : ServerMachine} {fd : Int}
    (ran : (cleanupOfflineFd fd).Runs (serverSemantics outcomes) machine () final)
    (wellFormed : machine.state.WellFormed) :
    Cascade machine.state final.state ∧
      ∀ name, userStoreUsernameByFd machine.state.users fd = some name →
        final.state.online name = false := by
  obtain ⟨final', ran', effect⟩ := cleanupOfflineFd_run _ wellFormed fd le_rfl
  obtain ⟨_, rfl⟩ := Runs.unique ran ⟨_, ran'⟩
  exact effect

/-- Every piece of handler code returns. -/
theorem handler_returns (outcomes : Nat → Outcome) {α : Type} (program : Handler α)
    {machine : ServerMachine} (wellFormed : machine.state.WellFormed) :
    ∃ value final, program.Runs (serverSemantics outcomes) machine value final := by
  induction program generalizing machine with
  | done value => exact ⟨value, machine, (runs_done _ _ _ _ _).mpr ⟨rfl, rfl⟩⟩
  | perform op next ih =>
    have kept : (machine.after (serverSemantics outcomes) op).state.WellFormed :=
      perform_wellFormed wellFormed _ op
    obtain ⟨value, final, ran⟩ := ih (machine.answer (serverSemantics outcomes) op) kept
    exact ⟨value, final, ran⟩
  | call target next ih =>
    obtain ⟨fd⟩ := target
    obtain ⟨middle, called, ⟨_, cascade⟩, _⟩ := cleanupOfflineFd_run _ wellFormed fd le_rfl
    obtain ⟨value, final, ran⟩ := ih cascade.wellFormed
    exact ⟨value, final, (runs_call _ _ _ _ _ _).mpr ⟨middle, ⟨_, called⟩, ran⟩⟩

/-- An invariant that cascades keep, and each operation of a handler outside cleanups, is kept by
the handler. -/
theorem runs_maintains (invariant : ServerState → Prop) {allowed : Operation → Prop}
    (step : ∀ outcome op state, allowed op → state.WellFormed → invariant state →
      invariant (perform outcome op state).2)
    (cascades : ∀ before after, before.WellFormed → Cascade before after → invariant before →
      invariant after)
    {α : Type} {program : Handler α} (only : program.Only allowed) {machine final : ServerMachine}
    {value : α} (ran : program.Runs (serverSemantics outcomes) machine value final)
    (wellFormed : machine.state.WellFormed) (holds : invariant machine.state) :
    invariant final.state := by
  refine (ran.maintains (fun state => state.WellFormed ∧ invariant state) ?_ ?_ only
    ⟨wellFormed, holds⟩).2
  · intro turn op state permitted good
    exact ⟨perform_wellFormed good.1 _ op, step _ op state permitted good.1 good.2⟩
  · rintro ⟨fd⟩ before after called good
    exact ⟨runs_wellFormed called good.1,
      cascades _ _ good.1 (cleanupOfflineFd_runs called good.1).1 good.2⟩

/-- A cleanup calls another one, directly: each with its descriptor and the machine on which it
starts. -/
def CallsCleanup (outcomes : Nat → Outcome) (outer inner : Int × ServerMachine) : Prop :=
  Makes (serverSemantics outcomes) (cleanupOfflineFd outer.1) outer.2 (.cleanup inner.1) inner.2

/-- A cleanup that calls another one has taken the user it found at its descriptor offline first. -/
theorem CallsCleanup.afterLogout {outer inner : Int × ServerMachine}
    (calls : CallsCleanup outcomes outer inner) (wellFormed : outer.2.state.WellFormed) :
    inner.2.state.WellFormed ∧ inner.2.state.onlineCount < outer.2.state.onlineCount ∧
      ∃ name, userStoreUsernameByFd outer.2.state.users outer.1 = some name ∧
        wentOffline outer.2.state inner.2.state name = true := by
  obtain ⟨fd, machine⟩ := outer
  obtain ⟨target, start⟩ := inner
  unfold CallsCleanup at calls
  rw [cleanupOfflineFd_eq] at calls
  cases calls with
  | perform rest =>
  rw [answer_userUsernameByFd] at rest
  cases found : userStoreUsernameByFd machine.state.users fd with
  | none =>
    rw [found] at rest
    cases rest with
    | perform rest => cases rest
  | some name =>
    rw [found] at rest
    cases rest with
    | perform rest =>
    cases rest with
    | perform rest =>
    set looked := machine.after (serverSemantics outcomes) (.userUsernameByFd fd)
    set left := looked.after (serverSemantics outcomes) (.groupRemoveMember name)
    set removed := left.after (serverSemantics outcomes) (.userLogoutFd fd)
    have withdrawn : CascadeOf (fun other => decide (other = name)) machine.state removed.state :=
      removal_cascade wellFormed found (outcomes looked.trace.length) (outcomes left.trace.length)
    have fewer : removed.state.onlineCount < machine.state.onlineCount :=
      withdrawn.onlineCount_lt (decide_eq_true rfl)
    have wasOnline := withdrawn.wasOnline name (decide_eq_true rfl)
    have gone : removed.state.online name = false := by
      rw [withdrawn.online]
      simp
    -- The announcements only read, and the cleanups they call take more users offline.
    let Left : ServerState → Prop := fun state =>
      state.WellFormed ∧ state.onlineCount < machine.state.onlineCount ∧ state.online name = false
    have reading : ∀ turn op state, op.reads = true → Left state →
        Left ((serverSemantics outcomes).respond turn op state).2 := by
      intro turn op state read good
      change Left (perform (outcomes turn) op state).2
      rw [perform_reads read]
      exact good
    have cleaning : ∀ target (before after : ServerMachine),
        Runs (serverSemantics outcomes) ((serverSemantics outcomes).body target) before () after →
          Left before.state → Left after.state := by
      rintro ⟨other⟩ before after called ⟨holds, few, offline⟩
      obtain ⟨⟨_, cascade⟩, _⟩ := cleanupOfflineFd_runs called holds
      refine ⟨cascade.wellFormed, lt_of_le_of_lt cascade.onlineCount_le few, ?_⟩
      rw [cascade.online, offline]
      rfl
    have only : ∀ changes, (pushChanges changes).Only fun op => op.reads = true := fun changes =>
      pushChanges_only (fun _ => rfl) (fun _ _ _ _ => rfl) changes
    obtain ⟨kept, few, offline⟩ := rest.maintains Left reading cleaning (only _)
      ⟨withdrawn.wellFormed, fewer, gone⟩
    refine ⟨kept, few, name, rfl, ?_⟩
    rw [wentOffline, wasOnline, offline]
    rfl

/-- The cleanups that are called, at any depth, start on well-formed machines. -/
theorem CallsCleanup.wellFormed {outer inner : Int × ServerMachine}
    (chain : Relation.ReflTransGen (CallsCleanup outcomes) outer inner)
    (wellFormed : outer.2.state.WellFormed) : inner.2.state.WellFormed := by
  induction chain with
  | refl => exact wellFormed
  | tail _ calls ih => exact (calls.afterLogout ih).1

/-- In every state the server can reach and under any failures, `cleanup_offline_fd` returns, its
calls nested no deeper than there are users online, takes the user it finds at its descriptor offline,
and has the effect of a passive-offline cascade; and whatever cleanup calls another one on the way has
first taken the user it found offline, so that the other one starts with fewer users online. -/
theorem cleanupOfflineFd_passiveOffline {machine : ServerMachine}
    (reached : ServerReachable outcomes machine) (fd : Int) :
    (∃ final, run (serverSemantics outcomes) machine.state.onlineCount (cleanupOfflineFd fd) machine =
        some ((), final) ∧ PassiveOffline machine.state final.state ∧
        ∀ name, userStoreUsernameByFd machine.state.users fd = some name →
          wentOffline machine.state final.state name = true) ∧
      ∀ outer inner, Relation.ReflTransGen (CallsCleanup outcomes) (fd, machine) outer →
        CallsCleanup outcomes outer inner →
          inner.2.state.onlineCount < outer.2.state.onlineCount ∧
            ∃ name, userStoreUsernameByFd outer.2.state.users outer.1 = some name ∧
              wentOffline outer.2.state inner.2.state name = true := by
  have wellFormed := serverReachable_wellFormed reached
  refine ⟨?_, fun outer inner chain calls =>
    (calls.afterLogout (CallsCleanup.wellFormed chain wellFormed)).2⟩
  obtain ⟨final, ran, cascade, offline⟩ := cleanupOfflineFd_run _ wellFormed fd le_rfl
  refine ⟨final, ran, cascade.passiveOffline, fun name found => ?_⟩
  obtain ⟨user, _, named, member, online, _⟩ := usernameByFd_some found
  have before : machine.state.online name = true :=
    ServerState.online_iff.mpr ⟨user, member, named, online⟩
  rw [wentOffline, before, offline name found]
  rfl

end

section

attribute [local instance] sampleDigest

/-- Three users join. -/
def three : List Input :=
  joining 5 (CString.ofString "ann") ++ joining 6 (CString.ofString "ben") ++
    joining 7 (CString.ofString "cid")

/-- One of them asks for a group of all three. -/
def trioRequest : Packet :=
  groupCreateRequest (CString.ofString "team") [CString.ofString "ben", CString.ofString "cid"]
    (by decide +kernel)

/-- Three users join and one of them creates a group of all three. -/
def trio : List Input := three ++ [.packet 5 trioRequest]

/-- The run returns. -/
theorem trio_returns : (serveAll (failingAt [27]) 0 freshServer trio).isSome := by decide +kernel

/-- Three users with a group, one of whom cannot be told that a member has left. -/
def trioMachine : ServerMachine := (serveAll (failingAt [27]) 0 freshServer trio).get trio_returns

/-- The effect holds when a group of three loses one member and a second one while announcing it. -/
theorem cleanupOfflineFd_passiveOffline_trio :
    userStoreUsernameByFd trioMachine.state.users 5 = some (CString.ofString "ann") ∧
    (∃ final, run (serverSemantics (failingAt [27])) trioMachine.state.onlineCount
        (cleanupOfflineFd 5) trioMachine = some ((), final) ∧
      PassiveOffline trioMachine.state final.state ∧
      ∀ name, userStoreUsernameByFd trioMachine.state.users 5 = some name →
        wentOffline trioMachine.state final.state name = true) ∧
      ∀ outer inner, Relation.ReflTransGen (CallsCleanup (failingAt [27])) (5, trioMachine) outer →
        CallsCleanup (failingAt [27]) outer inner →
          inner.2.state.onlineCount < outer.2.state.onlineCount ∧
            ∃ name, userStoreUsernameByFd outer.2.state.users outer.1 = some name ∧
              wentOffline outer.2.state inner.2.state name = true :=
  ⟨by decide +kernel, cleanupOfflineFd_passiveOffline (sample_reachable trio_returns) 5⟩

end

end MultiUserChat
