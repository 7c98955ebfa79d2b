import MultiUserChat.Server.Threads
import MultiUserChat.Verif.Cascade
/-!
# Steps of an interleaving

`Move` lists what one step of the threaded server can do, guards included, so that an invariant is
checked case by case. A run that can be computed is a list of choices (`stepAll_reachable`).
-/

namespace MultiUserChat

open Program

namespace ThreadedServer

variable [Sha256]

/-- The effect of one step. -/
inductive Move (server : ThreadedServer) : Choice → ThreadedServer → Prop
  | accept {fd : Int} (possible : 0 ≤ fd) (free : server.state.connectionAt fd = none) :
      Move server (.accept fd)
        { server with
          state := server.state.accept fd
          threads := server.threads ++ [⟨fd, .done (), false, none, none⟩] }
  | receive {number : Nat} {thread : Thread} (packet : Packet)
      (serves : server.threads[number]? = some thread) (idle : thread.idle = true)
      (staying : thread.leaving = false) :
      Move server (.receive number packet)
        { server with
          threads := server.threads.set number
            { thread with code := processPacket thread.fd packet } }
  | hangUp {number : Nat} {thread : Thread} (serves : server.threads[number]? = some thread)
      (idle : thread.idle = true) (staying : thread.leaving = false) :
      Move server (.hangUp number)
        { server with
          threads := server.threads.set number
            { thread with code := clientExit thread.fd, leaving := true } }
  | enter {number : Nat} {thread : Thread} {fd : Int} {next : Handler Unit} (outcome : Outcome)
      (serves : server.threads[number]? = some thread)
      (calls : thread.code = .call (.cleanup fd) next) :
      Move server (.advance number outcome)
        { server with
          threads := server.threads.set number
            { thread with code := cleanupOfflineFd fd >>= fun _ => next } }
  | perform {number : Nat} {thread : Thread} {op : Operation} {next : Answer op → Handler Unit}
      (outcome : Outcome) (serves : server.threads[number]? = some thread)
      (performs : thread.code = .perform op next) :
      Move server (.advance number outcome) (server.performed number thread outcome op next)

/-- Every step is one of the moves. -/
theorem step_move {server server' : ThreadedServer} {choice : Choice}
    (taken : server.step choice = some server') : Move server choice server' := by
  cases choice with
  | accept fd =>
    simp only [step] at taken
    split at taken
    · rename_i possible
      cases taken
      exact .accept possible.1 possible.2
    · contradiction
  | receive number packet =>
    simp only [step] at taken
    split at taken
    · contradiction
    · rename_i thread serves
      split at taken
      · rename_i waits
        cases taken
        exact .receive packet serves waits.1 waits.2
      · contradiction
  | hangUp number =>
    simp only [step] at taken
    split at taken
    · contradiction
    · rename_i thread serves
      split at taken
      · rename_i waits
        cases taken
        exact .hangUp serves waits.1 waits.2
      · contradiction
  | advance number outcome =>
    simp only [step] at taken
    split at taken
    · contradiction
    · rename_i thread serves
      unfold advance at taken
      split at taken
      · contradiction
      · rename_i fd next calls
        cases taken
        exact .enter outcome serves calls
      · rename_i op next performs
        cases taken
        exact .perform outcome serves performs

/-- A computed run whose steps are all allowed is a run of allowed steps. -/
theorem stepAll_reachable {allowed : ThreadedServer → Choice → Bool} {server server' : ThreadedServer}
    {choices : List Choice}
    (reached : Reachable Started (fun server choice server' =>
      server.step choice = some server' ∧ allowed server choice = true) server)
    (taken : server.stepAll allowed choices = some server') :
    Reachable Started (fun server choice server' =>
      server.step choice = some server' ∧ allowed server choice = true) server' := by
  induction choices generalizing server with
  | nil => exact Option.some.inj taken ▸ reached
  | cons choice choices ih =>
    simp only [stepAll, List.foldlM_cons, Option.bind_eq_bind, Option.bind_eq_some_iff] at taken
    obtain ⟨middle, first, rest⟩ := taken
    split at first
    · rename_i permitted
      exact ih (.next reached ⟨first, permitted⟩) rest
    · contradiction

end ThreadedServer

/-- A threaded server that has loaded an empty storage file. -/
def emptyServer : ThreadedServer := ⟨startState (fun _ => true) [], [], fun _ => none⟩

/-- The empty server is one that has started. -/
theorem emptyServer_started : emptyServer.Started := ⟨_, _, rfl⟩

/-- A thread makes a number of steps in which everything succeeds. -/
def goOn (thread steps : Nat) : List Choice :=
  List.replicate steps (.advance thread (sampleOutcome true))

/-- The next thread is started for a connection, registers an account and logs in. -/
def enrolling (thread : Nat) (fd : Int) (name : CString) : List Choice :=
  .accept fd :: .receive thread (registerRequest name) :: goOn thread 2 ++
    .receive thread (loginRequest name) :: goOn thread 2

end MultiUserChat
