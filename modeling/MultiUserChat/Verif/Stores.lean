import MultiUserChat.Server.Run
import MultiUserChat.Verif.GroupStore
import MultiUserChat.Verif.UserStore
/-!
# The two stores during a run

Each atomic operation keeps the invariants of both stores, so they hold in every state the server
reaches. Most operations only read; `Operation.reads` names them, and code made of them alone leaves
the state to the procedures it calls.
-/

namespace MultiUserChat

open Program

/-- The invariants of the two stores. -/
structure ServerState.WellFormed (state : ServerState) : Prop where
  /-- The invariant of the user store. -/
  users : state.users.WellFormed
  /-- The invariant of the group store. -/
  groups : state.groups.WellFormed

/-- Operations that change nothing in the server. -/
def Operation.reads : Operation → Bool
  | .userGetFd _ | .userOnlineList | .userSnapshotOnlineFds _ | .userUsernameByFd _ => true
  | .groupGetSnapshot _ | .groupBuildListPayload _ => true
  | .send _ _ _ => true
  | _ => false

/-- Operations that do not touch the groups. -/
def Operation.keepsGroups : Operation → Bool
  | .groupCreate _ _ _ | .groupRemoveMember _ => false
  | _ => true

/-- The stores are well formed when the server starts, and nobody is online. -/
theorem startState_wellFormed (allocated : Nat → Bool) (file : List UInt8) :
    (startState allocated file).WellFormed ∧
      ∀ user ∈ (startState allocated file).users.users, user.online = false := by
  obtain ⟨users, offline⟩ := UserStore.wellFormed_init.loadLines
    (by simp [UserStore.users, UserStore.chain, userStoreInit]) allocated file.length file
  exact ⟨⟨users, GroupStore.wellFormed_init⟩, offline⟩

section

variable [Sha256]

/-- A reading operation leaves the state as it is. -/
theorem perform_reads {op : Operation} (reads : op.reads = true) (outcome : Outcome)
    (state : ServerState) : (perform outcome op state).2 = state := by
  cases op <;> first | rfl | contradiction

/-- An operation that does not touch the groups leaves them as they are. -/
theorem perform_keepsGroups {op : Operation} (keeps : op.keepsGroups = true) (outcome : Outcome)
    (state : ServerState) : (perform outcome op state).2.groups = state.groups := by
  cases op <;> first | rfl | contradiction

/-- Each operation keeps the invariants of the stores. -/
theorem perform_wellFormed {state : ServerState} (wellFormed : state.WellFormed)
    (outcome : Outcome) (op : Operation) : (perform outcome op state).2.WellFormed := by
  obtain ⟨users, groups⟩ := wellFormed
  cases op with
  | userRegister username password =>
    refine ⟨?_, groups⟩
    change (userStoreRegister outcome.registration state.users state.file username
      password).2.1.WellFormed
    obtain same | ⟨kept, _⟩ := users.register outcome.registration state.file username password
    · rw [same]
      exact users
    · exact kept
  | userLogin username password fd =>
    refine ⟨?_, groups⟩
    change (userStoreLogin outcome.digested state.users username password fd).2.WellFormed
    obtain ⟨_, same⟩ | ⟨_, kept, _⟩ := users.login outcome.digested username password fd
    · rw [same]
      exact users
    · exact kept
  | userLogoutFd fd => exact ⟨(users.logoutFd fd).1, groups⟩
  | groupCreate creator name members =>
    exact ⟨users, groups.create outcome.allocated creator name members⟩
  | groupRemoveMember username => exact ⟨users, groups.removeMember username groupEventMaxChanges⟩
  | userGetFd _ | userOnlineList | userSnapshotOnlineFds _ | userUsernameByFd _ =>
    exact ⟨users, groups⟩
  | groupGetSnapshot _ | groupBuildListPayload _ | send _ _ _ | close _ => exact ⟨users, groups⟩

variable {outcomes : Nat → Outcome}

@[simp]
theorem answer_userUsernameByFd (machine : ServerMachine) (fd : Int) :
    machine.answer (serverSemantics outcomes) (.userUsernameByFd fd) =
      userStoreUsernameByFd machine.state.users fd := rfl

@[simp]
theorem answer_userGetFd (machine : ServerMachine) (username : CString) :
    machine.answer (serverSemantics outcomes) (.userGetFd username) =
      userStoreGetFd machine.state.users username := rfl

@[simp]
theorem answer_userSnapshotOnlineFds (machine : ServerMachine) (fd : Int) :
    machine.answer (serverSemantics outcomes) (.userSnapshotOnlineFds fd) =
      userStoreSnapshotOnlineFds machine.state.users fd maxOnlineSnapshot := rfl

@[simp]
theorem answer_groupGetSnapshot (machine : ServerMachine) (groupId : CString) :
    machine.answer (serverSemantics outcomes) (.groupGetSnapshot groupId) =
      groupStoreGetSnapshot machine.state.groups groupId := rfl

@[simp]
theorem answer_groupCreate (machine : ServerMachine) (creator name : CString)
    (members : List CString) :
    machine.answer (serverSemantics outcomes) (.groupCreate creator name members) =
      (groupStoreCreate (outcomes machine.trace.length).allocated machine.state.groups creator name
        members).1 := rfl

@[simp]
theorem answer_send (machine : ServerMachine) (fd : Int) (packet : Packet)
    (target : Option CString) :
    machine.answer (serverSemantics outcomes) (.send fd packet target) =
      (outcomes machine.trace.length).delivered := rfl

/-- The state after an operation is computed from the state before it. -/
theorem after_state (machine : ServerMachine) (op : Operation) :
    (machine.after (serverSemantics outcomes) op).state =
      (perform (outcomes machine.trace.length) op machine.state).2 := rfl

/-- The state after a reading operation is the state before it. -/
theorem after_reads (machine : ServerMachine) {op : Operation} (reads : op.reads = true) :
    (machine.after (serverSemantics outcomes) op).state = machine.state :=
  perform_reads reads _ _

/-- A run of a handler keeps the invariants. -/
theorem runs_wellFormed {α : Type} {program : Handler α} {machine final : ServerMachine} {value : α}
    (ran : program.Runs (serverSemantics outcomes) machine value final)
    (wellFormed : machine.state.WellFormed) : final.state.WellFormed :=
  ran.preserves ServerState.WellFormed (fun _ op _ _ holds => perform_wellFormed holds _ op)
    (fun _ => only_true _) (only_true _) wellFormed

/-- The stores are well formed in every state the server reaches. -/
theorem serverReachable_wellFormed {machine : ServerMachine}
    (reached : ServerReachable outcomes machine) : machine.state.WellFormed := by
  refine reached.invariant (fun machine => machine.state.WellFormed) (fun machine started => ?_)
    fun machine input machine' _ holds served => ?_
  · obtain ⟨allocated, file, rfl⟩ := started
    exact (startState_wellFormed allocated file).1
  · cases input with
    | connect fd =>
      obtain ⟨_, _, rfl⟩ := served_connect.mp served
      exact ⟨holds.users, holds.groups⟩
    | packet fd packet => exact runs_wellFormed (served_packet.mp served).2 holds
    | disconnect fd => exact runs_wellFormed (served_disconnect.mp served).2 holds

end

/-! ## A sample run

Closed values for runs that can be computed: a digest that is the real one on the only input it is
applied to, an environment in which everything succeeds except the chosen sends, a server that has
loaded an empty storage file, and the requests of clients.
-/

/-- The SHA-256 digest of sixteen zero bytes followed by `pw`; other inputs are not used. -/
@[reducible]
def sampleDigest : Sha256 where
  digest bytes :=
    if bytes = List.replicate 16 0 ++ [112, 119] then
      ⟨[75, 193, 157, 122, 103, 94, 113, 78, 31, 212, 113, 90, 169, 193, 249, 185, 54, 188, 40, 80,
        185, 216, 118, 193, 208, 86, 56, 212, 224, 187, 182, 62], rfl⟩
    else List.Vector.replicate 32 0

/-- Everything succeeds; the random bytes are zero. -/
def sampleOutcome (delivered : Bool) : Outcome where
  delivered
  allocated := true
  digested := true
  random := some (List.Vector.replicate 16 0)
  appended := .completed

/-- The operations at the given turns fail if they are sends. -/
def failingAt (turns : List Nat) (turn : Nat) : Outcome := sampleOutcome (turn ∉ turns)

/-- A server that has loaded an empty storage file. -/
def freshServer : ServerMachine := ⟨startState (fun _ => true) [], []⟩

/-- The fresh server is one that has started. -/
theorem freshServer_started : Started freshServer := ⟨_, _, rfl⟩

/-- A packet as the clients build it with `packet_init`. -/
def request (type : MessageType) (sender receiver : CString) (data : List UInt8)
    (fits : data.length ≤ packetDataMax) : Packet :=
  (packetInit type.code sender receiver data).get (packetInit_isSome.mpr fits)

/-- The sample password. -/
def samplePassword : CString := CString.ofString "pw"

/-- The sample message. -/
def sampleText : CString := CString.ofString "hi"

/-- The sample message fits a packet. -/
theorem sampleText_fits : sampleText.terminated.length ≤ packetDataMax := by decide

/-- A registration with the sample password. -/
def registerRequest (name : CString) : Packet :=
  request .msgRegister name CString.empty samplePassword.terminated (by decide)

/-- A login with the sample password. -/
def loginRequest (name : CString) : Packet :=
  request .msgLogin name CString.empty samplePassword.terminated (by decide)

/-- A private message with the sample text. -/
def privateRequest (sender receiver : CString) : Packet :=
  request .msgPrivate sender receiver sampleText.terminated sampleText_fits

/-- The payload of a request to create a group. -/
def groupFields (name : CString) (members : List CString) : List UInt8 :=
  (name :: members).flatMap CString.terminated

/-- A request to create a group. -/
def groupCreateRequest (name : CString) (members : List CString)
    (fits : (groupFields name members).length ≤ packetDataMax) : Packet :=
  request .msgGroupCreate CString.empty CString.empty (groupFields name members) fits

/-- Connect and log in under a new account. -/
def joining (fd : Int) (name : CString) : List Input :=
  [.connect fd, .packet fd (registerRequest name), .packet fd (loginRequest name)]

/-- A computed step can be added to a run whose steps meet a further condition. -/
theorem sample_next [Sha256] {outcomes : Nat → Outcome} {guard : ServerMachine → Input → Prop}
    {machine : ServerMachine} (depth : Nat) (input : Input)
    (reached : Reachable Started (fun machine input machine' =>
      Served outcomes machine input machine' ∧ guard machine input) machine)
    (returns : (serve outcomes depth machine input).isSome) (meets : guard machine input) :
    Reachable Started (fun machine input machine' =>
      Served outcomes machine input machine' ∧ guard machine input)
      ((serve outcomes depth machine input).get returns) :=
  .next reached ⟨⟨depth, (Option.some_get returns).symm⟩, meets⟩

/-- A computed run from the fresh server reaches its last machine. -/
theorem sample_reachable [Sha256] {outcomes : Nat → Outcome} {depth : Nat} {inputs : List Input}
    (returns : (serveAll outcomes depth freshServer inputs).isSome) :
    ServerReachable outcomes ((serveAll outcomes depth freshServer inputs).get returns) :=
  serveAll_reachable (.start freshServer_started) (Option.some_get returns).symm

section

attribute [local instance] sampleDigest

/-- Two users join. -/
def couple : List Input := joining 5 (CString.ofString "ann") ++ joining 6 (CString.ofString "ben")

/-- The run returns. -/
theorem couple_returns : (serveAll (failingAt []) 0 freshServer couple).isSome := by decide

/-- The state that is reached. -/
def coupleMachine : ServerMachine := (serveAll (failingAt []) 0 freshServer couple).get couple_returns

example : coupleMachine.state.WellFormed :=
  serverReachable_wellFormed (sample_reachable couple_returns)

/-- One of them asks for a group of both. -/
def coupleRequest : Packet :=
  groupCreateRequest (CString.ofString "us") [CString.ofString "ben"] (by decide +kernel)

end

end MultiUserChat
