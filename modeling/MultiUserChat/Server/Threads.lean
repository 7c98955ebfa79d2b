import MultiUserChat.Server.Run
/-!
# The server's threads

Every connection has a handler thread that runs `client_handler`. Any thread may perform its next
operation at any time, and each operation is atomic. A thread has the number of its connection, and
its code is what is left of the packet or the exit it is handling; between packets nothing is left.

`sessions`, `dropping` and `withdrawing` record what happened and influence nothing. They name the
connection on which a user logged in, the connection whose failed send a thread is cleaning up after,
and the user that a thread's cleanup has taken out of the groups and not yet logged out.
-/

namespace MultiUserChat

/-- A handler thread. -/
structure Thread where
  /-- The descriptor in its `ClientContext`. -/
  fd : Int
  /-- What is left to do before the next `recv_packet`. -/
  code : Handler Unit
  /-- `recv_packet` has failed. -/
  leaving : Bool
  /-- The descriptor of a failed send to a user and the connection it denoted then, until the cleanup
  that follows has logged out. -/
  dropping : Option (Int × Option Nat)
  /-- The user that a cleanup has taken out of the groups, until it has logged out. -/
  withdrawing : Option CString

/-- The shared state and the handler threads; the thread at an index serves the connection of that
number. -/
structure ThreadedServer where
  /-- The shared state. -/
  state : ServerState
  /-- The handler threads. -/
  threads : List Thread
  /-- The connection on which each user last logged in. -/
  sessions : CString → Option Nat

/-- What happens next. -/
inductive Choice
  /-- `accept` returns a descriptor, and a thread is started for it. -/
  | accept (fd : Int)
  /-- `recv_packet` returns a packet to a thread. -/
  | receive (thread : Nat) (packet : Packet)
  /-- `recv_packet` fails in a thread. -/
  | hangUp (thread : Nat)
  /-- A thread performs its next operation, or enters the cleanup it calls. -/
  | advance (thread : Nat) (outcome : Outcome)

namespace Thread

/-- The thread is waiting in `recv_packet`, or has ended. -/
def idle (thread : Thread) : Bool :=
  match thread.code with
  | .done _ => true
  | _ => false

/-- What is recorded about a thread that performs an operation in a state. -/
def record (thread : Thread) (state : ServerState) : (op : Operation) → Answer op → Thread
  | .send fd _ (some _), delivered =>
    if delivered = true then thread
    else { thread with dropping := some (fd, state.connectionAt fd) }
  | .groupRemoveMember username, _ => { thread with withdrawing := some username }
  | .userLogoutFd _, _ => { thread with dropping := none, withdrawing := none }
  | _, _ => thread

/-- The thread after an operation, with the code that is left. -/
def after (thread : Thread) (state : ServerState) (op : Operation) (answer : Answer op)
    (code : Handler Unit) : Thread :=
  { thread.record state op answer with code }

end Thread

/-- The sessions after a thread performed an operation. -/
def recordSession (number : Nat) (sessions : CString → Option Nat) :
    (op : Operation) → Answer op → CString → Option Nat
  | .userLogin username _ _, result =>
    if result = UserResult.ok then
      fun name => if name = username then some number else sessions name
    else sessions
  | _, _ => sessions

namespace ThreadedServer

/-- No handler is part-way through a packet or a cleanup. -/
def Quiet (server : ThreadedServer) : Prop := ∀ thread ∈ server.threads, thread.idle = true

/-- A server that has loaded some storage file and has no threads yet. -/
def Started (server : ThreadedServer) : Prop :=
  ∃ allocated file, server = ⟨startState allocated file, [], fun _ => none⟩

variable [Sha256]

/-- The server after a thread performed an operation. -/
def performed (server : ThreadedServer) (number : Nat) (thread : Thread) (outcome : Outcome)
    (op : Operation) (next : Answer op → Handler Unit) : ThreadedServer :=
  let (answer, state) := perform outcome op server.state
  { state
    threads := server.threads.set number (thread.after server.state op answer (next answer))
    sessions := recordSession number server.sessions op answer }

/-- A thread goes on: it performs an operation or enters a cleanup. -/
def advance (server : ThreadedServer) (number : Nat) (thread : Thread) (outcome : Outcome) :
    Option ThreadedServer :=
  match thread.code with
  | .done _ => none
  | .call (.cleanup fd) next =>
    let entered := { thread with code := cleanupOfflineFd fd >>= fun _ => next }
    some { server with threads := server.threads.set number entered }
  | .perform op next => some (server.performed number thread outcome op next)

/-- One step of the server. -/
def step (server : ThreadedServer) : Choice → Option ThreadedServer
  | .accept fd =>
    if 0 ≤ fd ∧ server.state.connectionAt fd = none then
      some
        { server with
          state := server.state.accept fd
          threads := server.threads ++ [⟨fd, .done (), false, none, none⟩] }
    else none
  | .receive number packet =>
    match server.threads[number]? with
    | none => none
    | some thread =>
      if thread.idle = true ∧ thread.leaving = false then
        let serving := { thread with code := processPacket thread.fd packet }
        some { server with threads := server.threads.set number serving }
      else none
  | .hangUp number =>
    match server.threads[number]? with
    | none => none
    | some thread =>
      if thread.idle = true ∧ thread.leaving = false then
        let exiting := { thread with code := clientExit thread.fd, leaving := true }
        some { server with threads := server.threads.set number exiting }
      else none
  | .advance number outcome =>
    match server.threads[number]? with
    | none => none
    | some thread => server.advance number thread outcome

/-- The states that some interleaving reaches. -/
def ReachableBy (server : ThreadedServer) : Prop :=
  Reachable Started (fun server choice server' => step server choice = some server') server

/-- Make a list of choices, each under a condition. -/
def stepAll (allowed : ThreadedServer → Choice → Bool) (server : ThreadedServer)
    (choices : List Choice) : Option ThreadedServer :=
  choices.foldlM (fun server choice => if allowed server choice then server.step choice else none)
    server

end ThreadedServer

end MultiUserChat
