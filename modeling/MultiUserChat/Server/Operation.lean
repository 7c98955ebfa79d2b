import MultiUserChat.Common.GroupStore
import MultiUserChat.Common.User
import MultiUserChat.Library.ProgramRules
/-!
# The server's atomic operations

A handler thread acts on the shared state only through the locked operations of the two stores,
through `send_packet` and through `close`. `Operation` lists them with their arguments, `Answer`
gives what each returns, and `perform` executes one against the state with the outcomes the
environment chose for it.

`connections` is the kernel's table of open descriptors; each entry also has the number of the
`accept` that opened it, which tells two connections apart that were given the same descriptor.
-/

namespace MultiUserChat

/-- `MAX_ONLINE_SNAPSHOT` -/
abbrev maxOnlineSnapshot : Nat := 256

/-- `ServerState`, with the storage file and the open descriptors of the process. -/
structure ServerState where
  /-- The user store. -/
  users : UserStore
  /-- The group store. -/
  groups : GroupStore
  /-- Content of the file at the user store's storage path. -/
  file : List UInt8
  /-- Open client descriptors with the number of the connection each denotes. -/
  connections : List (Int × Nat)
  /-- Number of connections accepted so far. -/
  accepted : Nat

namespace ServerState

/-- The connection that a descriptor denotes, if it is open. -/
def connectionAt (state : ServerState) (fd : Int) : Option Nat := state.connections.lookup fd

/-- `accept` returned this descriptor. -/
def accept (state : ServerState) (fd : Int) : ServerState :=
  { state with
    connections := (fd, state.accepted) :: state.connections
    accepted := state.accepted + 1 }

/-- `close` of a descriptor. -/
def close (state : ServerState) (fd : Int) : ServerState :=
  { state with connections := state.connections.filter fun entry => entry.1 ≠ fd }

/-- Accepting a descriptor leaves the other descriptors as they are. -/
theorem accept_connectionAt {state : ServerState} {fd other : Int} (different : other ≠ fd) :
    (state.accept fd).connectionAt other = state.connectionAt other := by
  have unequal : (other == fd) = false := by simpa using different
  rw [connectionAt, accept, List.lookup_cons, unequal]
  rfl

/-- An accepted descriptor denotes the new connection. -/
@[simp]
theorem accept_connectionAt_self (state : ServerState) (fd : Int) :
    (state.accept fd).connectionAt fd = some state.accepted := by
  simp [connectionAt, accept]

/-- Closing a descriptor leaves the other descriptors as they are. -/
theorem close_connectionAt {state : ServerState} {fd other : Int} (different : other ≠ fd) :
    (state.close fd).connectionAt other = state.connectionAt other := by
  simp only [connectionAt, close]
  induction state.connections with
  | nil => rfl
  | cons entry connections ih =>
    by_cases closed : entry.1 = fd
    · have unequal : (other == entry.1) = false := by simpa [closed] using different
      rw [List.filter_cons_of_neg (by simpa using closed), ih, List.lookup_cons, unequal]
    · rw [List.filter_cons_of_pos (by simpa using closed), List.lookup_cons, List.lookup_cons, ih]

end ServerState

/-- One atomic action of a handler thread. -/
inductive Operation
  | userRegister (username password : CString)
  | userLogin (username password : CString) (fd : Int)
  | userLogoutFd (fd : Int)
  | userGetFd (username : CString)
  | userOnlineList
  | userSnapshotOnlineFds (exceptFd : Int)
  | userUsernameByFd (fd : Int)
  | groupCreate (creator name : CString) (members : List CString)
  | groupGetSnapshot (groupId : CString)
  | groupBuildListPayload (username : CString)
  | groupRemoveMember (username : CString)
  /-- `send_packet`. The target is the user whose descriptor the handler looked up, when it forwards
  to a user; the code does not pass it on. -/
  | send (fd : Int) (packet : Packet) (target : Option CString)
  | close (fd : Int)

/-- What an operation returns. -/
@[reducible]
def Answer : Operation → Type
  | .userRegister _ _ => UserResult
  | .userLogin _ _ _ => UserResult
  | .userLogoutFd _ => UserResult
  | .userGetFd _ => Except UserResult Int
  | .userOnlineList => Except UserResult CString
  | .userSnapshotOnlineFds _ => List (CString × Int)
  | .userUsernameByFd _ => Option CString
  | .groupCreate _ _ _ => Except GroupResult GroupSnapshot
  | .groupGetSnapshot _ => Except GroupResult GroupSnapshot
  | .groupBuildListPayload _ => Except GroupResult GroupPayload
  | .groupRemoveMember _ => List GroupChange
  | .send _ _ _ => Bool
  | .close _ => Unit

/-- What the environment chooses for one operation. -/
structure Outcome where
  /-- `send_packet` transmits the whole packet. -/
  delivered : Bool
  /-- An allocation in the operation succeeds. -/
  allocated : Bool
  /-- The digest library's calls succeed. -/
  digested : Bool
  /-- The bytes of `RAND_bytes`, absent when it fails. -/
  random : Option (List.Vector UInt8 saltBytes)
  /-- The fate of an appended record. -/
  appended : AppendOutcome

/-- The part of an outcome that a registration uses. -/
def Outcome.registration (outcome : Outcome) : RegisterOutcome :=
  ⟨outcome.random, outcome.digested, outcome.allocated, outcome.appended⟩

/-- Execute one operation. -/
def perform [Sha256] (outcome : Outcome) (op : Operation) (state : ServerState) :
    Answer op × ServerState :=
  match op with
  | .userRegister username password =>
    let (result, users, file) :=
      userStoreRegister outcome.registration state.users state.file username password
    (result, { state with users, file })
  | .userLogin username password fd =>
    let (result, users) := userStoreLogin outcome.digested state.users username password fd
    (result, { state with users })
  | .userLogoutFd fd =>
    let (result, users) := userStoreLogoutFd state.users fd
    (result, { state with users })
  | .userGetFd username => (userStoreGetFd state.users username, state)
  | .userOnlineList => (userStoreOnlineList state.users packetDataMax, state)
  | .userSnapshotOnlineFds exceptFd =>
    (userStoreSnapshotOnlineFds state.users exceptFd maxOnlineSnapshot, state)
  | .userUsernameByFd fd => (userStoreUsernameByFd state.users fd, state)
  | .groupCreate creator name members =>
    let (result, groups) := groupStoreCreate outcome.allocated state.groups creator name members
    (result, { state with groups })
  | .groupGetSnapshot groupId => (groupStoreGetSnapshot state.groups groupId, state)
  | .groupBuildListPayload username => (groupStoreBuildListPayload state.groups username, state)
  | .groupRemoveMember username =>
    let (_, changes, groups) := groupStoreRemoveMember state.groups username groupEventMaxChanges
    (changes, { state with groups })
  | .send _ _ _ => (outcome.delivered, state)
  | .close fd => ((), state.close fd)

end MultiUserChat
