import MultiUserChat.Verif.Forwarding
import MultiUserChat.Verif.Interleaving
/-!
# Descriptors that are used later

A handler looks a user up, and sends on the number it found when the lock has long been released. The
user may have logged out by then, and the number may denote a new connection. The same holds for the
number of a failed send until the cleanup that follows has logged out. When nobody logs out whom some
thread is about to send to, and no descriptor is closed on which somebody is online or a failed send
is still being cleaned up after, every send reaches its user and no cleanup hits another connection.
-/

namespace MultiUserChat

open Program

/-- The user, and the descriptor, to which the thread forwards a packet next. -/
def Thread.forwards (thread : Thread) : Option (CString × Int) :=
  match thread.code with
  | .perform (.send fd _ (some username)) _ => some (username, fd)
  | _ => none

/-- The user that the thread removes from the groups or logs out next. -/
def Thread.drops (thread : Thread) (users : UserStore) : Option CString :=
  match thread.code with
  | .perform (.groupRemoveMember username) _ => some username
  | .perform (.userLogoutFd fd) _ => userStoreUsernameByFd users fd
  | _ => none

namespace ThreadedServer

/-- The descriptor denotes a connection on which the user is logged in. -/
def LoggedInAt (server : ThreadedServer) (fd : Int) (username : CString) : Prop :=
  server.state.LoggedIn fd username ∧ ∃ connection,
    server.sessions username = some connection ∧ server.state.connectionAt fd = some connection

/-- Packets for a user go out on a connection of the user, and a cleanup after a failed send drops no
user of a connection that was given the descriptor since. -/
structure AddressedRight (server : ThreadedServer) : Prop where
  /-- A packet is forwarded on a connection on which its user is logged in. -/
  forwarded : ∀ thread ∈ server.threads, ∀ username fd,
    thread.forwards = some (username, fd) → server.LoggedInAt fd username
  /-- A user dropped after a failed send belongs to the connection of that send, if to the one that
  the descriptor denotes now. -/
  dropped : ∀ thread ∈ server.threads, ∀ fd connection,
    thread.dropping = some (fd, connection) → ∀ username, thread.drops server.state.users =
      some username → ∀ current, server.sessions username = some current →
        server.state.connectionAt fd = some current ∨ server.state.LoggedIn fd username →
          connection = some current

end ThreadedServer

/-- The operation makes no address stale: it logs out nobody to whom a thread owes a send there, and
closes no descriptor on which somebody is online or that a thread is cleaning up after. -/
def Operation.KeepsAddresses (server : ThreadedServer) : Operation → Prop
  | .userLogoutFd fd => ∀ username, userStoreUsernameByFd server.state.users fd = some username →
      ∀ thread ∈ server.threads, ¬Owes thread.code (username, fd)
  | .close fd => userStoreUsernameByFd server.state.users fd = none ∧
      ∀ thread ∈ server.threads, ∀ connection, thread.dropping ≠ some (fd, connection)
  | _ => True

/-- The operation that a choice performs, if any, makes no address stale. -/
def ThreadedServer.KeepsAddresses (server : ThreadedServer) : Choice → Prop
  | .advance number _ => ∀ thread op next, server.threads[number]? = some thread →
      thread.code = .perform op next → op.KeepsAddresses server
  | _ => True

/-! ## The text of a thread -/

/-- Logins are on the thread's own descriptor, and nothing is closed. -/
def Operation.Own (fd : Int) : Operation → Prop
  | .userLogin _ _ other => other = fd
  | .close _ => False
  | _ => True

/-- Packets log in on the descriptor they arrived on and close nothing. -/
theorem processPacket_own (fd : Int) (packet : Packet) :
    (processPacket fd packet).Only (Operation.Own fd) := by
  by_cases login : MessageType.ofCode? packet.type = some .msgLogin
  · rw [processPacket, login]
    refine handleLogin_only (fun op plain => ?_) rfl
    cases op <;> trivial
  · refine (processPacket_only login).weaken fun op serves => ?_
    cases op <;> trivial

/-- Cleanups neither log in nor close. -/
theorem cleanupOfflineFd_own (fd other : Int) :
    (cleanupOfflineFd fd).Only (Operation.Own other) := by
  refine cleanupOfflineFd_only (fun op plain => ?_) fd (fun _ _ _ _ => trivial) (fun _ => trivial)
    trivial
  cases op <;> trivial

/-- What a thread relies on, given the shared state and its number. -/
structure Thread.Sound (state : ServerState) (number : Nat) (thread : Thread) : Prop where
  /-- Sends to users come from lookups. -/
  grounded : thread.code.Grounded Operation.SendsTo Finds
  /-- The last thing a leaving thread does is to close its descriptor. -/
  closes : thread.code.Closes (Operation.Own thread.fd) fun op =>
    op = .close thread.fd ∧ thread.leaving = true
  /-- Until then the descriptor denotes its connection. -/
  connected : thread.leaving = false ∨ thread.idle = false →
    state.connectionAt thread.fd = some number
  /-- A user to whom it owes a send is logged in on that descriptor. -/
  addressed : ∀ address, Owes thread.code address → state.LoggedIn address.2 address.1
  /-- The descriptor of a failed send denotes the connection it denoted then. -/
  dropping : ∀ fd connection, thread.dropping = some (fd, connection) → ∃ current,
    connection = some current ∧ state.connectionAt fd = some current

/-- What the threads and the state keep when no address goes stale. -/
structure ThreadedServer.Sound (server : ThreadedServer) : Prop where
  /-- The stores are well formed. -/
  wellFormed : server.state.WellFormed
  /-- Connections and threads have the same numbers. -/
  numbered : server.state.accepted = server.threads.length
  /-- Each thread is sound. -/
  threads : ∀ number (thread : Thread), server.threads[number]? = some thread →
    thread.Sound server.state number
  /-- A user is logged in on the descriptor of the connection of its login. -/
  sessions : ∀ fd username, server.state.LoggedIn fd username → ∃ connection,
    server.sessions username = some connection ∧ server.state.connectionAt fd = some connection

/-- A sound server addresses rightly. -/
theorem ThreadedServer.Sound.addressedRight {server : ThreadedServer} (sound : server.Sound) :
    server.AddressedRight := by
  refine ⟨fun thread member username fd forwards => ?_, fun thread member fd connection failed
    username drops current session here => ?_⟩
  · obtain ⟨number, serves⟩ := List.getElem?_of_mem member
    have owed : Owes thread.code (username, fd) := by
      unfold Thread.forwards at forwards
      split at forwards
      · rename_i performs
        cases forwards
        rw [performs]
        exact .inl ⟨_, rfl⟩
      · contradiction
    have login := (sound.threads number thread serves).addressed _ owed
    exact ⟨login, sound.sessions fd username login⟩
  · obtain ⟨number, serves⟩ := List.getElem?_of_mem member
    obtain ⟨earlier, rfl, still⟩ := (sound.threads number thread serves).dropping fd connection failed
    rcases here with denotes | login
    · rw [← still, denotes]
    · obtain ⟨other, same, denotes⟩ := sound.sessions fd username login
      rw [← still, denotes, ← same, session]

/-! ## Recording and connections -/

section

variable {state : ServerState} {thread : Thread} {op : Operation} {answer : Answer op}

/-- Recording does not change the descriptor. -/
@[simp]
theorem record_fd : (thread.record state op answer).fd = thread.fd := by
  unfold Thread.record
  split <;> first | rfl | (split <;> rfl)

/-- Recording does not change whether the thread is leaving. -/
@[simp]
theorem record_leaving : (thread.record state op answer).leaving = thread.leaving := by
  unfold Thread.record
  split <;> first | rfl | (split <;> rfl)

/-- A recorded failed send was recorded before, or is the one just performed. -/
theorem record_dropping {fd : Int} {connection : Option Nat}
    (failed : (thread.record state op answer).dropping = some (fd, connection)) :
    thread.dropping = some (fd, connection) ∨ ∃ packet username,
      op = .send fd packet (some username) ∧ connection = state.connectionAt fd := by
  unfold Thread.record at failed
  split at failed
  · split at failed
    · exact .inl failed
    · cases failed
      exact .inr ⟨_, _, rfl, rfl⟩
  · exact .inl failed
  · contradiction
  · exact .inl failed

/-- A finding answer tells of a login. -/
theorem finds_loggedIn [Sha256] {outcome : Outcome} (wellFormed : state.WellFormed)
    {address : CString × Int} (finds : Finds op (perform outcome op state).1 address) :
    state.LoggedIn address.2 address.1 := by
  cases op with
  | userGetFd username =>
    obtain ⟨rfl, found⟩ := finds
    obtain ⟨user, member, named, online, at_⟩ := wellFormed.users.getFd_ok.mp found
    exact ⟨user, member, by simp [User.onlineAt, online, at_], named⟩
  | userSnapshotOnlineFds exceptFd =>
    obtain ⟨user, member, rfl⟩ := List.mem_map.mp finds
    obtain ⟨listed, chosen⟩ := List.mem_filter.mp (List.mem_of_mem_take member)
    simp only [Bool.and_eq_true] at chosen
    exact ⟨user, listed, by simp [User.onlineAt, chosen.1.1], rfl⟩
  | _ => exact finds.elim

/-- Only closing a descriptor changes what it denotes. -/
theorem perform_connectionAt [Sha256] (outcome : Outcome) {fd : Int} (other : op ≠ .close fd) :
    (perform outcome op state).2.connectionAt fd = state.connectionAt fd := by
  cases op with
  | close closed => exact ServerState.close_connectionAt fun same => other (same ▸ rfl)
  | _ => rfl

/-- No operation of a handler accepts a connection. -/
theorem perform_accepted [Sha256] (outcome : Outcome) :
    (perform outcome op state).2.accepted = state.accepted := by
  cases op <;> rfl

/-- A user that is logged in gets no new session. -/
theorem recordSession_loggedIn [Sha256] (outcome : Outcome) (wellFormed : state.WellFormed) {fd : Int}
    {username : CString} (login : state.LoggedIn fd username) (number : Nat)
    (sessions : CString → Option Nat) :
    recordSession number sessions op (perform outcome op state).1 username = sessions username := by
  cases op with
  | userLogin name password other =>
    obtain ⟨refused, _⟩ | ⟨_, _, ⟨account, listed, named, offline, _⟩, _⟩ :=
      wellFormed.users.login outcome.digested name password other
    · exact congrFun (if_neg refused) username
    · simp only [recordSession]
      split
      · refine if_neg ?_
        rintro rfl
        -- An account that logs in was offline.
        obtain ⟨user, member, at_, called⟩ := login
        rw [wellFormed.users.unique member listed (called.trans named.symm)] at at_
        simp [User.onlineAt, offline] at at_
      · rfl
  | _ => rfl

end

/-! ## Steps -/

/-- A descriptor that the name search does not find has nobody on it. -/
theorem usernameByFd_none {state : ServerState} {fd : Int}
    (nobody : userStoreUsernameByFd state.users fd = none) (username : CString) :
    ¬state.LoggedIn fd username := by
  rintro ⟨user, member, at_, _⟩
  have all := List.find?_eq_none.mp (Option.map_eq_none_iff.mp nobody)
  exact all user member at_

/-- A thread that is not idle has not closed its descriptor. -/
theorem Thread.Sound.busy {state : ServerState} {number : Nat} {thread : Thread}
    (sound : thread.Sound state number) (busy : thread.idle = false) :
    state.connectionAt thread.fd = some number := sound.connected (.inr busy)

/-- What the sound threads know of the state survives when the descriptors and logins they rely on do. -/
theorem Thread.Sound.carry {before after : ServerState} {number : Nat} {thread : Thread}
    (sound : thread.Sound before number)
    (connected : thread.leaving = false ∨ thread.idle = false →
      after.connectionAt thread.fd = before.connectionAt thread.fd)
    (addressed : ∀ address, Owes thread.code address →
      before.LoggedIn address.2 address.1 → after.LoggedIn address.2 address.1)
    (dropping : ∀ fd connection, thread.dropping = some (fd, connection) →
      after.connectionAt fd = before.connectionAt fd) : thread.Sound after number where
  grounded := sound.grounded
  closes := sound.closes
  connected open_ := (connected open_).trans (sound.connected open_)
  addressed address owes := addressed address owes (sound.addressed address owes)
  dropping fd connection failed := by
    rw [dropping fd connection failed]
    exact sound.dropping fd connection failed

namespace ThreadedServer

/-- A thread of a list in which one was replaced is that one, or an old one with another number. -/
theorem getElem?_replaced {threads : List Thread} {number other : Nat} {replaced thread : Thread}
    (serves : (threads.set number replaced)[other]? = some thread) :
    other = number ∧ thread = replaced ∨ other ≠ number ∧ threads[other]? = some thread := by
  by_cases same : other = number
  · subst same
    rw [List.getElem?_set] at serves
    split at serves
    · split at serves
      · exact .inl ⟨rfl, (Option.some.inj serves).symm⟩
      · contradiction
    · contradiction
  · rw [List.getElem?_set_ne (Ne.symm same)] at serves
    exact .inr ⟨same, serves⟩

/-- A thread of a list to which one was added is an old one, or is that one with the next number. -/
theorem getElem?_added {threads : List Thread} {number : Nat} {added thread : Thread}
    (serves : (threads ++ [added])[number]? = some thread) :
    threads[number]? = some thread ∨ number = threads.length ∧ thread = added := by
  rw [List.getElem?_append] at serves
  split at serves
  · exact .inl serves
  · rename_i beyond
    obtain ⟨position, rfl⟩ := List.getElem?_eq_some_iff.mp serves
    rw [List.length_singleton] at position
    exact .inr ⟨by omega, List.getElem_singleton _⟩

/-- Replacing a thread by a sound one keeps the server sound. -/
theorem Sound.replace {server : ThreadedServer} (sound : server.Sound) {number : Nat}
    {replaced : Thread} (fits : replaced.Sound server.state number) :
    Sound { server with threads := server.threads.set number replaced } where
  wellFormed := sound.wellFormed
  numbered := sound.numbered.trans List.length_set.symm
  threads other thread serves := by
    obtain ⟨rfl, rfl⟩ | ⟨_, old⟩ := getElem?_replaced serves
    · exact fits
    · exact sound.threads other thread old
  sessions := sound.sessions

/-- A descriptor that is accepted was free, so that nothing that was relied on changes. -/
theorem Sound.accept {server : ThreadedServer} (sound : server.Sound) {fd : Int}
    (free : server.state.connectionAt fd = none) :
    Sound
      { server with
        state := server.state.accept fd
        threads := server.threads ++ [⟨fd, .done (), false, none, none⟩] } := by
  have same {other : Int} {connection : Nat}
      (used : server.state.connectionAt other = some connection) :
      (server.state.accept fd).connectionAt other = server.state.connectionAt other := by
    refine ServerState.accept_connectionAt ?_
    rintro rfl
    rw [free] at used
    contradiction
  refine ⟨⟨sound.wellFormed.users, sound.wellFormed.groups⟩, ?_, fun number thread serves => ?_,
    fun other username login => ?_⟩
  · simp [ServerState.accept, sound.numbered]
  · obtain old | ⟨rfl, rfl⟩ := getElem?_added serves
    · have earlier := sound.threads number thread old
      refine earlier.carry (fun open_ => same (earlier.connected open_)) (fun _ _ => id) ?_
      intro other connection failed
      obtain ⟨_, _, denotes⟩ := earlier.dropping other connection failed
      exact same denotes
    · refine ⟨trivial, trivial, fun _ => ?_, fun _ owes => owes.elim, fun _ _ failed => ?_⟩
      · rw [ServerState.accept_connectionAt_self, sound.numbered]
      · contradiction
  · obtain ⟨connection, session, denotes⟩ := sound.sessions other username login
    exact ⟨connection, session, (same denotes).trans denotes⟩

section

variable [Sha256]

/-- A login to whom some thread owes a send lasts across an operation that keeps addresses. -/
theorem keeps_loggedIn {server : ThreadedServer} (wellFormed : server.state.WellFormed)
    {op : Operation} (keeps : op.KeepsAddresses server) {thread : Thread}
    (member : thread ∈ server.threads) {address : CString × Int} (owes : Owes thread.code address)
    (login : server.state.LoggedIn address.2 address.1) (outcome : Outcome) :
    (perform outcome op server.state).2.LoggedIn address.2 address.1 := by
  obtain still | ⟨rfl, found⟩ := perform_loggedIn wellFormed login outcome op
  · exact still
  · exact absurd owes (keeps address.1 found thread member)

/-- A descriptor that a thread is cleaning up after lasts across an operation that keeps addresses. -/
theorem keeps_dropping {server : ThreadedServer} {op : Operation} (keeps : op.KeepsAddresses server)
    {thread : Thread} (member : thread ∈ server.threads) {fd : Int} {connection : Option Nat}
    (failed : thread.dropping = some (fd, connection)) (outcome : Outcome) :
    (perform outcome op server.state).2.connectionAt fd = server.state.connectionAt fd := by
  refine perform_connectionAt outcome ?_
  rintro rfl
  exact keeps.2 thread member connection failed

/-- The thread that performed an operation is sound. -/
theorem Sound.performed_thread {server : ThreadedServer} (sound : server.Sound) {number : Nat}
    {thread : Thread} {op : Operation} {next : Answer op → Handler Unit} (outcome : Outcome)
    (serves : server.threads[number]? = some thread) (performs : thread.code = .perform op next)
    (keeps : op.KeepsAddresses server) :
    (thread.after server.state op (perform outcome op server.state).1
      (next (perform outcome op server.state).1)).Sound (perform outcome op server.state).2 number := by
  have here := sound.threads number thread serves
  have member := List.mem_of_getElem? serves
  have denotes := here.busy (by simp [Thread.idle, performs])
  have grounded := here.grounded
  have closes := here.closes
  rw [performs] at grounded closes
  refine ⟨(grounded _).1, ?_, fun open_ => ?_, fun address owes => ?_, fun fd connection failed => ?_⟩
  · simp only [Thread.after, record_fd, record_leaving]
    rcases closes with ⟨_, later⟩ | ⟨_, ends⟩
    · exact later _
    · obtain ⟨_, ended⟩ := ends (perform outcome op server.state).1
      rw [ended]
      trivial
  · simp only [Thread.after, record_fd, record_leaving] at open_ ⊢
    rcases closes with ⟨own, _⟩ | ⟨⟨_, leaving⟩, ends⟩
    · rw [perform_connectionAt outcome, denotes]
      rintro rfl
      exact own
    · -- After the close the thread has ended, so nothing is asked of its descriptor.
      obtain ⟨_, ended⟩ := ends (perform outcome op server.state).1
      simp [leaving, ended, Thread.idle] at open_
  · rcases (grounded _).2 address owes with owed | finds
    · rw [← performs] at owed
      exact keeps_loggedIn sound.wellFormed keeps member owed (here.addressed address owed) outcome
    · have login := finds_loggedIn sound.wellFormed finds
      obtain still | ⟨rfl, _⟩ := perform_loggedIn sound.wellFormed login outcome op
      · exact still
      · exact finds.elim
  · obtain old | ⟨packet, username, rfl, rfl⟩ := record_dropping failed
    · rw [keeps_dropping keeps member old outcome]
      exact here.dropping fd connection old
    · have owed : Owes thread.code (username, fd) := performs ▸ .inl ⟨packet, rfl⟩
      obtain ⟨current, _, at_⟩ := sound.sessions fd username (here.addressed _ owed)
      exact ⟨current, at_, at_⟩

/-- An operation that keeps addresses keeps the server sound. -/
theorem Sound.performed {server : ThreadedServer} (sound : server.Sound) {number : Nat}
    {thread : Thread} {op : Operation} {next : Answer op → Handler Unit} (outcome : Outcome)
    (serves : server.threads[number]? = some thread) (performs : thread.code = .perform op next)
    (keeps : op.KeepsAddresses server) : (server.performed number thread outcome op next).Sound := by
  have here := sound.threads number thread serves
  have denotes := here.busy (by simp [Thread.idle, performs])
  have closes := here.closes
  rw [performs] at closes
  refine ⟨perform_wellFormed sound.wellFormed outcome op, ?_, fun other running found => ?_,
    fun fd username login => ?_⟩
  · exact (perform_accepted outcome).trans (sound.numbered.trans List.length_set.symm)
  · obtain ⟨rfl, rfl⟩ | ⟨different, old⟩ := getElem?_replaced found
    · exact sound.performed_thread outcome serves performs keeps
    · have earlier := sound.threads other running old
      have member := List.mem_of_getElem? old
      refine earlier.carry (fun open_ => ?_) (fun address owes login =>
        keeps_loggedIn sound.wellFormed keeps member owes login outcome)
        fun fd connection failed => keeps_dropping keeps member failed outcome
      refine perform_connectionAt outcome ?_
      rintro rfl
      -- A thread closes its own descriptor only, which denotes another connection.
      rcases closes with ⟨own, _⟩ | ⟨⟨same, _⟩, _⟩
      · exact own
      · injection same with descriptors
        have there := earlier.connected open_
        rw [descriptors, denotes] at there
        exact different (Option.some.inj there).symm
  · obtain before | ⟨password, rfl, accepted⟩ := loggedIn_of_perform sound.wellFormed login
    · obtain ⟨connection, session, at_⟩ := sound.sessions fd username before
      have unchanged : recordSession number server.sessions op (perform outcome op server.state).1
          username = server.sessions username :=
        recordSession_loggedIn outcome sound.wellFormed before number server.sessions
      refine ⟨connection, unchanged.trans session, (perform_connectionAt outcome ?_).trans at_⟩
      rintro rfl
      exact usernameByFd_none keeps.1 username before
    · rcases closes with ⟨own, _⟩ | ⟨⟨absurd, _⟩, _⟩
      · cases own
        refine ⟨number, ?_, denotes⟩
        exact (congrFun (if_pos accepted) username).trans (if_pos rfl)
      · contradiction

/-- In every interleaving whose steps make no address stale, packets reach their users, and a cleanup
after a failed send drops no user of another connection. -/
theorem addressedRight_of_kept {server : ThreadedServer}
    (reached : Reachable Started (fun server choice server' =>
      server.step choice = some server' ∧ server.KeepsAddresses choice) server) :
    server.AddressedRight := by
  refine Sound.addressedRight (reached.invariant Sound (fun server started => ?_)
    fun server choice server' _ sound taken => ?_)
  · obtain ⟨allocated, file, rfl⟩ := started
    obtain ⟨wellFormed, offline⟩ := startState_wellFormed allocated file
    refine ⟨wellFormed, rfl, fun number thread serves => by contradiction, ?_⟩
    rintro fd username ⟨user, member, at_, _⟩
    rw [User.onlineAt, offline user member] at at_
    contradiction
  · have keeps := taken.2
    cases step_move taken.1 with
    | accept possible free => exact sound.accept free
    | @receive number thread packet serves idle staying =>
      have here := sound.threads number thread serves
      refine sound.replace ⟨(processPacket_owesNothing _ _).grounded,
        (processPacket_own _ _).closes, fun _ => here.connected (.inl staying),
        fun address owes => absurd owes ((processPacket_owesNothing _ _).free address), here.dropping⟩
    | @hangUp number thread serves idle staying =>
      have here := sound.threads number thread serves
      refine sound.replace ⟨(clientExit_owesNothing _).grounded, ?_,
        fun _ => here.connected (.inl staying),
        fun address owes => absurd owes ((clientExit_owesNothing _).free address), here.dropping⟩
      exact .inr ⟨⟨rfl, rfl⟩, fun _ => ⟨(), rfl⟩⟩
    | @enter number thread fd next outcome serves calls =>
      have here := sound.threads number thread serves
      have grounded := here.grounded
      have closes := here.closes
      rw [calls] at grounded closes
      refine sound.replace ⟨(cleanupOfflineFd_owesNothing fd).grounded.bind (fun _ => grounded)
        fun _ _ _ => id, (cleanupOfflineFd_own fd _).closes_bind fun _ => closes,
        fun _ => here.busy (by simp [Thread.idle, calls]), fun address owes => ?_, here.dropping⟩
      refine here.addressed address ?_
      rw [Owes, calls]
      obtain early | ⟨_, late⟩ := inevitable_bind owes
      · exact absurd early ((cleanupOfflineFd_owesNothing fd).free address)
      · exact late
    | perform outcome serves performs =>
      exact sound.performed outcome serves performs (keeps _ _ _ serves performs)

end

/-- The choice performs no logout and no close. -/
def stays (server : ThreadedServer) : Choice → Bool
  | .advance number _ => server.threads[number]?.all fun thread =>
      match thread.code with
      | .perform (.userLogoutFd _) _ => false
      | .perform (.close _) _ => false
      | _ => true
  | _ => true

/-- A choice without logout and close makes no address stale. -/
theorem keepsAddresses_of_stays {server : ThreadedServer} {choice : Choice}
    (staying : server.stays choice = true) : server.KeepsAddresses choice := by
  cases choice with
  | advance number outcome =>
    intro thread op next serves performs
    simp only [stays, serves, Option.all_some, performs] at staying
    cases op <;> trivial
  | _ => trivial

section

attribute [local instance] sampleDigest

/-- A private message between the two sample users. -/
def greeting : Packet :=
  privateRequest (CString.ofString "ann") (CString.ofString "ben")

/-- Two users join, and one of them has been looked up for a message that is not yet sent. -/
def greetingLooksUp : List Choice :=
  enrolling 0 5 (CString.ofString "ann") ++ enrolling 1 6 (CString.ofString "ben") ++
    .receive 0 greeting :: goOn 0 1

/-- The run is possible without logout and close. -/
theorem greetingLooksUp_returns : (emptyServer.stepAll stays greetingLooksUp).isSome := by
  decide

/-- The message is about to be sent to its user. -/
theorem addressedRight_of_kept_greeting :
    ((emptyServer.stepAll stays greetingLooksUp).get greetingLooksUp_returns).AddressedRight :=
  addressedRight_of_kept ((stepAll_reachable (.start emptyServer_started)
    (Option.some_get greetingLooksUp_returns).symm).widen
      fun _ _ _ taken => ⟨taken.1, keepsAddresses_of_stays taken.2⟩)

/-- The user that was looked up leaves, and another user joins on the same descriptor. -/
def greetingOvertaken : List Choice :=
  greetingLooksUp ++ .hangUp 1 :: goOn 1 5 ++ enrolling 2 6 (CString.ofString "cid")

/-- The run is possible. -/
theorem greetingOvertaken_returns :
    (emptyServer.stepAll (fun _ _ => true) greetingOvertaken).isSome := by decide

/-- A message is about to be sent to a user on the connection of another one. -/
theorem addressedRight_overtaken : ¬ ∀ [Sha256] (server : ThreadedServer),
    server.ReachableBy → server.AddressedRight := by
  intro claim
  have right := claim _ ((stepAll_reachable (.start emptyServer_started)
    (Option.some_get greetingOvertaken_returns).symm).widen fun _ _ _ taken => taken.1)
  have forwards : (((emptyServer.stepAll (fun _ _ => true) greetingOvertaken).get
      greetingOvertaken_returns).threads[0]?.bind Thread.forwards) =
        some (CString.ofString "ben", 6) := by decide
  have offline : ((emptyServer.stepAll (fun _ _ => true) greetingOvertaken).get
      greetingOvertaken_returns).state.online (CString.ofString "ben") = false := by decide
  generalize (emptyServer.stepAll (fun _ _ => true) greetingOvertaken).get
    greetingOvertaken_returns = server at right forwards offline
  obtain ⟨thread, first, sends⟩ := Option.bind_eq_some_iff.mp forwards
  have login := (right.forwarded thread (List.mem_of_getElem? first) _ _ sends).1
  rw [ServerState.online_iff_loggedIn.mpr ⟨6, login⟩] at offline
  contradiction

end

end ThreadedServer

end MultiUserChat
