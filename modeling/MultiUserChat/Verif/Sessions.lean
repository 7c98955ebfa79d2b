import MultiUserChat.Verif.Cascade
/-!
# The binding of users to descriptors

A session is an online user with its descriptor. Every operation but a login only ends sessions, so
`SessionBound` (at most one session on a descriptor, all of them on open connections) is kept by
everything except a login on a connection that already carries a session: `user_store_login` looks
at the user alone and never at the descriptor. In runs without such logins the binding holds in
every state, and a closed connection carries no session.
-/

namespace MultiUserChat

open Program

/-- The binding of users to descriptors. -/
structure ServerState.SessionBound (state : ServerState) : Prop where
  /-- No two online users have the same descriptor. -/
  sole : ∀ user ∈ state.users.users, ∀ other ∈ state.users.users, user.online = true →
    other.online = true → user.socketFd = other.socketFd → user = other
  /-- The descriptor of an online user is an open connection. -/
  connected : ∀ user ∈ state.users.users, user.online = true →
    (state.connectionAt user.socketFd).isSome
  /-- An offline user has no descriptor. -/
  detached : ∀ user ∈ state.users.users, user.online = false → user.socketFd = -1

/-- Ending sessions keeps the binding. -/
theorem ServerState.SessionBound.shrink {before after : ServerState} (bound : before.SessionBound)
    (wellFormed : after.WellFormed)
    (fewer : ∀ user ∈ after.users.users, user.online = true → user ∈ before.users.users)
    (connections : ∀ user ∈ after.users.users, user.online = true →
      (before.connectionAt user.socketFd).isSome → (after.connectionAt user.socketFd).isSome) :
    after.SessionBound where
  sole := fun user member other member' online online' same =>
    bound.sole user (fewer user member online) other (fewer other member' online') online online' same
  connected := fun user member online =>
    connections user member online (bound.connected user (fewer user member online) online)
  detached := fun user member => wellFormed.users.detached user (wellFormed.users.mem_users.mp member)

/-- Taking users offline starts no session. -/
theorem dropOffline_online {gone : CString → Bool} {users : List User} {user : User}
    (member : user ∈ dropOffline gone users) (online : user.online = true) :
    user ∈ users ∧ gone user.username.toCString = false := by
  obtain ⟨original, old, rfl⟩ := List.mem_map.mp member
  by_cases left : gone original.username.toCString = true
  · simp [left, User.offline] at online
  · rw [if_neg left]
    exact ⟨old, Bool.eq_false_iff.mpr left⟩

/-- A cascade keeps the binding. -/
theorem Cascade.sessionBound {before after : ServerState} (cascade : Cascade before after)
    (bound : before.SessionBound) : after.SessionBound := by
  obtain ⟨gone, cascade⟩ := cascade
  refine bound.shrink cascade.wellFormed (fun user member online => ?_) fun user _ _ => ?_
  · rw [cascade.users] at member
    exact (dropOffline_online member online).1
  · rw [ServerState.connectionAt, ServerState.connectionAt, cascade.connections]
    exact id

/-- Accepting a connection keeps the binding. -/
theorem accept_sessionBound {state : ServerState} {fd : Int} (wellFormed : state.WellFormed)
    (bound : state.SessionBound) : (state.accept fd).SessionBound := by
  have kept : (state.accept fd).WellFormed := ⟨wellFormed.users, wellFormed.groups⟩
  refine bound.shrink kept (fun user member _ => member) fun user _ _ open_ => ?_
  by_cases here : user.socketFd = fd
  · rw [here, ServerState.accept_connectionAt_self]
    rfl
  · rw [ServerState.accept_connectionAt here]
    exact open_

section

variable [Sha256] {outcomes : Nat → Outcome}

/-- An operation of a packet that is no login starts no session. -/
theorem perform_serves_online {op : Operation} (serves : op.serves = true) (outcome : Outcome)
    {state : ServerState} (wellFormed : state.WellFormed) {user : User}
    (member : user ∈ (perform outcome op state).2.users.users) (online : user.online = true) :
    user ∈ state.users.users := by
  cases op with
  | userRegister username password =>
    change user ∈ (userStoreRegister outcome.registration state.users state.file username
      password).2.1.users at member
    obtain same | ⟨_, added, offline, _, _, _, _, listed⟩ :=
      wellFormed.users.register outcome.registration state.file username password
    · exact same ▸ member
    · rw [listed] at member
      rcases List.mem_cons.mp member with rfl | old
      · rw [offline] at online
        contradiction
      · exact old
  | groupCreate creator name members => exact member
  | userLogin _ _ _ | userLogoutFd _ | groupRemoveMember _ | close _ => contradiction
  | userGetFd _ | userOnlineList | userSnapshotOnlineFds _ | userUsernameByFd _ => exact member
  | groupGetSnapshot _ | groupBuildListPayload _ | send _ _ _ => exact member

/-- An operation of a packet that is no login leaves the descriptors as they are. -/
theorem perform_serves_connections {op : Operation} (serves : op.serves = true) (outcome : Outcome)
    (state : ServerState) : (perform outcome op state).2.connections = state.connections := by
  cases op <;> first | rfl | contradiction

/-- An operation of a packet that is no login keeps the binding. -/
theorem perform_serves_sessionBound {op : Operation} (serves : op.serves = true)
    (outcome : Outcome) {state : ServerState} (wellFormed : state.WellFormed)
    (bound : state.SessionBound) : (perform outcome op state).2.SessionBound := by
  refine bound.shrink (perform_wellFormed wellFormed _ _)
    (fun user member online => perform_serves_online serves outcome wellFormed member online)
    fun user _ _ => ?_
  rw [ServerState.connectionAt, ServerState.connectionAt, perform_serves_connections serves]
  exact id

/-- Code without logins keeps the binding. -/
theorem runs_sessionBound {α : Type} {program : Handler α}
    (only : program.Only fun op => op.serves = true) {machine final : ServerMachine} {value : α}
    (ran : program.Runs (serverSemantics outcomes) machine value final)
    (wellFormed : machine.state.WellFormed) (bound : machine.state.SessionBound) :
    final.state.SessionBound :=
  runs_maintains ServerState.SessionBound
    (fun outcome _ _ serves holds => perform_serves_sessionBound serves outcome holds)
    (fun _ _ _ cascade => cascade.sessionBound) only ran wellFormed bound

/-- The packet would log its sender in: the account exists and is offline, and the password is
right. -/
def LoginAccepted (state : ServerState) (packet : Packet) : Prop :=
  ∃ user ∈ state.users.users, user.username.toCString = packet.senderName ∧ user.online = false ∧
    validPassword packet.dataText = true ∧
    verifyPassword true packet.dataText user.salt.toCString user.passwordHash.toCString = true

/-- A password that is verified is verified when the library's calls succeed. -/
theorem verifyPassword_digested {digested : Bool} {password salt expected : CString}
    (verified : verifyPassword digested password salt expected = true) :
    verifyPassword true password salt expected = true := by
  cases digested with
  | true => exact verified
  | false =>
    unfold verifyPassword at verified
    split at verified
    · contradiction
    · have refused : hashPassword false password salt = none := by
        unfold hashPassword
        cases hexToBytes salt saltBytes <;> rfl
      rw [refused] at verified
      contradiction

/-- A login on a connection without a session keeps the binding. -/
theorem perform_login_sessionBound (outcome : Outcome) {state : ServerState} {fd : Int}
    {packet : Packet} (wellFormed : state.WellFormed) (bound : state.SessionBound)
    (open_ : (state.connectionAt fd).isSome)
    (free : LoginAccepted state packet → ∀ user ∈ state.users.users, user.onlineAt fd = false) :
    (perform outcome (.userLogin packet.senderName packet.dataText fd)
      state).2.SessionBound := by
  have kept := perform_wellFormed wellFormed outcome
    (.userLogin packet.senderName packet.dataText fd)
  obtain ⟨_, same⟩ | ⟨_, _, ⟨account, listed, named, offline, password, verified⟩, users⟩ :=
    wellFormed.users.login outcome.digested packet.senderName packet.dataText fd
  · have unchanged : (perform outcome (.userLogin packet.senderName packet.dataText fd) state).2 =
        state := by
      change { state with users := (userStoreLogin outcome.digested state.users packet.senderName
        packet.dataText fd).2 } = state
      rw [same]
    rw [unchanged]
    exact bound
  · have empty := free ⟨account, listed, named, offline, password, verifyPassword_digested verified⟩
    -- An online user afterwards is the account that logged in or was online before.
    have cases_ : ∀ user ∈ (perform outcome (.userLogin packet.senderName packet.dataText fd)
        state).2.users.users, user.online = true →
        (user = UserStore.loggedIn fd account) ∨
          (user ∈ state.users.users ∧ user.socketFd ≠ fd) := by
      intro user member online
      change user ∈ (userStoreLogin outcome.digested state.users packet.senderName packet.dataText
        fd).2.users at member
      rw [users] at member
      obtain ⟨original, old, rfl⟩ := List.mem_map.mp member
      by_cases same : original.username.toCString = packet.senderName
      · rw [if_pos same]
        exact .inl (congrArg _ (wellFormed.users.unique old listed (same.trans named.symm)))
      · rw [if_neg same] at online ⊢
        refine .inr ⟨old, fun here => ?_⟩
        have absent := empty original old
        simp [User.onlineAt, online, here] at absent
    refine ⟨?_, ?_, fun user member =>
      kept.users.detached user (kept.users.mem_users.mp member)⟩
    · intro user member other member' online online' same
      obtain rfl | ⟨old, elsewhere⟩ := cases_ user member online <;>
        obtain rfl | ⟨old', elsewhere'⟩ := cases_ other member' online'
      · rfl
      · exact absurd same.symm elsewhere'
      · exact absurd same elsewhere
      · exact bound.sole user old other old' online online' same
    · intro user member online
      obtain rfl | ⟨old, _⟩ := cases_ user member online
      · exact open_
      · exact bound.connected user old online

/-- Handling a login on a connection without a session keeps the binding. -/
theorem handleLogin_sessionBound {machine final : ServerMachine} {fd : Int} {packet : Packet}
    (ran : (handleLogin fd packet).Runs (serverSemantics outcomes) machine () final)
    (wellFormed : machine.state.WellFormed) (bound : machine.state.SessionBound)
    (open_ : (machine.state.connectionAt fd).isSome)
    (free : LoginAccepted machine.state packet →
      ∀ user ∈ machine.state.users.users, user.onlineAt fd = false) :
    final.state.SessionBound := by
  unfold handleLogin at ran
  simp only [perform_bind, done_bind, runs_perform] at ran
  have entered := perform_login_sessionBound (outcomes machine.trace.length) wellFormed bound open_ free
  refine runs_sessionBound ?_ ran (perform_wellFormed wellFormed _ _) entered
  have plain : ∀ op : Operation, op.plain = true → op.serves = true :=
    fun op plain => op.serves_of_reads (op.reads_of_plain plain)
  split
  · exact response_only plain rfl
  · exact response_only plain rfl

/-- A cleanup of the only session on a descriptor leaves no session on it. -/
theorem cleanup_frees {machine final : ServerMachine} {fd : Int}
    (ran : (cleanupOfflineFd fd).Runs (serverSemantics outcomes) machine () final)
    (wellFormed : machine.state.WellFormed) (bound : machine.state.SessionBound) :
    ∀ user ∈ final.state.users.users, user.onlineAt fd = false := by
  obtain ⟨⟨gone, cascade⟩, freed⟩ := cleanupOfflineFd_runs ran wellFormed
  intro user member
  rw [Bool.eq_false_iff]
  intro here
  simp only [User.onlineAt, Bool.and_eq_true, decide_eq_true_eq] at here
  have old := member
  rw [cascade.users] at old
  have before := (dropOffline_online old here.1).1
  -- The search at the descriptor finds this user, as no other session is there.
  cases found : userStoreUsernameByFd machine.state.users fd with
  | none =>
    have nobody := List.find?_eq_none.mp (Option.map_eq_none_iff.mp found) user before
    simp [User.onlineAt, here] at nobody
  | some name =>
    obtain ⟨first, _, rfl, listed, online, at_⟩ := usernameByFd_some found
    obtain rfl := bound.sole first listed user before online here.1 (at_.trans here.2.symm)
    have offline := freed _ found
    simp only [ServerState.online, List.any_eq_false, Bool.and_eq_true, decide_eq_true_eq]
      at offline
    exact offline first member ⟨rfl, here.1⟩

/-- The end of a handler leaves the binding intact and no session on its descriptor. -/
theorem clientExit_sessionBound {machine final : ServerMachine} {fd : Int}
    (ran : (clientExit fd).Runs (serverSemantics outcomes) machine () final)
    (wellFormed : machine.state.WellFormed) (bound : machine.state.SessionBound) :
    final.state.SessionBound ∧ ∀ user ∈ final.state.users.users, user.onlineAt fd = false := by
  unfold clientExit at ran
  simp only [call_bind, done_bind, runs_call, runs_perform, runs_done] at ran
  obtain ⟨middle, cleaned, _, rfl⟩ := ran
  have kept := runs_wellFormed cleaned wellFormed
  have free := cleanup_frees cleaned wellFormed bound
  refine ⟨?_, free⟩
  refine ((cleanupOfflineFd_runs cleaned wellFormed).1.sessionBound bound).shrink
    (perform_wellFormed kept _ _) (fun user member _ => member) fun user member online open_ => ?_
  have elsewhere : user.socketFd ≠ fd := by
    intro here
    have absent := free user member
    simp [User.onlineAt, online, here] at absent
  change ((middle.state.close fd).connectionAt user.socketFd).isSome
  rw [ServerState.close_connectionAt elsewhere]
  exact open_

/-- A login that would be accepted arrives only where nobody is logged in. -/
def LoginsOnFreeConnections (state : ServerState) : Input → Prop
  | .packet fd packet => packet.type = MessageType.msgLogin.code → LoginAccepted state packet →
      ∀ user ∈ state.users.users, user.onlineAt fd = false
  | _ => True

/-- One input keeps the binding when it logs nobody in on a connection that carries a session. -/
theorem served_sessionBound {machine machine' : ServerMachine} {input : Input}
    (served : Served outcomes machine input machine') (wellFormed : machine.state.WellFormed)
    (bound : machine.state.SessionBound) (free : LoginsOnFreeConnections machine.state input) :
    machine'.state.SessionBound := by
  cases input with
  | connect fd =>
    obtain ⟨_, _, rfl⟩ := served_connect.mp served
    exact accept_sessionBound wellFormed bound
  | disconnect fd =>
    exact (clientExit_sessionBound (served_disconnect.mp served).2 wellFormed bound).1
  | packet fd packet =>
    obtain ⟨open_, ran⟩ := served_packet.mp served
    by_cases login : MessageType.ofCode? packet.type = some .msgLogin
    · have handled : processPacket fd packet = handleLogin fd packet := by
        rw [processPacket, login]
      rw [handled] at ran
      exact handleLogin_sessionBound ran wellFormed bound open_
        (free (MessageType.code_of_ofCode? login).symm)
    · exact runs_sessionBound (processPacket_only login) ran wellFormed bound

/-- In a run that logs nobody in on a connection that carries a session, users are bound to
descriptors in every state, and a connection that was closed carries no session. -/
theorem sessionBound_of_free_logins {machine : ServerMachine}
    (reached : Reachable Started (fun machine input machine' =>
      Served outcomes machine input machine' ∧ LoginsOnFreeConnections machine.state input)
      machine) :
    machine.state.SessionBound ∧ ∀ fd machine', Served outcomes machine (.disconnect fd) machine' →
      ∀ user ∈ machine'.state.users.users, user.onlineAt fd = false := by
  have wellFormed : machine.state.WellFormed :=
    serverReachable_wellFormed (reached.widen fun _ _ _ step => step.1)
  have bound : machine.state.SessionBound := by
    refine reached.invariant (fun machine => machine.state.SessionBound) (fun machine started => ?_)
      fun machine input machine' earlier holds step => ?_
    · obtain ⟨allocated, file, rfl⟩ := started
      obtain ⟨stores, offline⟩ := startState_wellFormed allocated file
      refine ⟨fun user member other _ online => ?_, fun user member online => ?_, fun user member =>
        stores.users.detached user (stores.users.mem_users.mp member)⟩
      · exact absurd online (by rw [offline user member]; simp)
      · exact absurd online (by rw [offline user member]; simp)
    · exact served_sessionBound step.1
        (serverReachable_wellFormed (earlier.widen fun _ _ _ step => step.1)) holds step.2
  refine ⟨bound, fun fd machine' served => ?_⟩
  exact (clientExit_sessionBound (served_disconnect.mp served).2 wellFormed bound).2

end

section

attribute [local instance] sampleDigest

/-- A run of one connection that registers and logs in meets the condition. -/
theorem sessionBound_of_free_logins_joining :
    ∃ machine : ServerMachine, machine.state.SessionBound ∧
      ∀ fd machine', Served (failingAt []) machine (.disconnect fd) machine' →
        ∀ user ∈ machine'.state.users.users, user.onlineAt fd = false :=
  ⟨_, sessionBound_of_free_logins
    (sample_next 0 (.packet 5 (loginRequest (CString.ofString "alice")))
      (sample_next 0 (.packet 5 (registerRequest (CString.ofString "alice")))
        (sample_next 0 (.connect 5) (.start freshServer_started) (by decide) trivial)
        (by decide) (fun login => absurd login (by decide)))
      (by decide) (fun _ _ => by decide))⟩

/-- Two accounts logged in on one connection, which is then closed. -/
def doubleLogin : List Input :=
  joining 5 (CString.ofString "alice") ++
    [.packet 5 (registerRequest (CString.ofString "bob")),
      .packet 5 (loginRequest (CString.ofString "bob")), .disconnect 5]

/-- The run returns. -/
theorem doubleLogin_returns : (serveAll (failingAt []) 1 freshServer doubleLogin).isSome := by
  decide

/-- After two logins on one connection and a disconnect, a user is online on a closed descriptor. -/
theorem sessionBound_doubleLogin : ¬ ∀ [Sha256] (outcomes : Nat → Outcome) (machine : ServerMachine),
    (∀ turn, (outcomes turn).delivered = true) → ServerReachable outcomes machine →
      machine.state.SessionBound := by
  intro claim
  have bound := claim (failingAt []) _ (fun _ => rfl) (sample_reachable doubleLogin_returns)
  have stale : (((serveAll (failingAt []) 1 freshServer doubleLogin).get
      doubleLogin_returns).state.users.users.any fun user => user.onlineAt 5) = true := by
    decide
  have closed : ((serveAll (failingAt []) 1 freshServer doubleLogin).get
      doubleLogin_returns).state.connectionAt 5 = none := by decide
  generalize (serveAll (failingAt []) 1 freshServer doubleLogin).get doubleLogin_returns = machine
    at bound stale closed
  obtain ⟨user, member, here⟩ := List.any_eq_true.mp stale
  simp only [User.onlineAt, Bool.and_eq_true, decide_eq_true_eq] at here
  have open_ := bound.connected user member here.1
  rw [here.2, closed] at open_
  contradiction

end

end MultiUserChat
