import MultiUserChat.Library.Transition
import MultiUserChat.Server.Handler
/-!
# The server handling one input at a time

Connections, packets and disconnects arrive in any order and each is handled to its end before the
next. All choices of the environment come from one function of the number of operations performed
so far; its `delivered` part is the pattern of failing sends. `serve` computes a step at a given
call depth, and `Served` says that a step returns.
-/

namespace MultiUserChat

/-- The server's state with everything performed on it. -/
abbrev ServerMachine : Type := Machine Operation Answer ServerState

/-- The descriptor and the packet of a successful send. -/
def delivery : Event Operation Answer → Option (Int × Packet)
  | ⟨.send fd packet _, delivered⟩ => if delivered = true then some (fd, packet) else none
  | _ => none

/-- What the operations between two machines of a run put on the wire, in order. -/
def deliveries (before after : ServerMachine) : List (Int × Packet) :=
  (after.trace.drop before.trace.length).filterMap delivery

/-- The operations between two machines are those appended to the trace. -/
theorem deliveries_eq {before after : ServerMachine} {events : List (Event Operation Answer)}
    (appended : after.trace = before.trace ++ events) :
    deliveries before after = events.filterMap delivery := by
  rw [deliveries, appended, List.drop_left]

/-- The meaning of handler code under one choice of outcomes. -/
def serverSemantics [Sha256] (outcomes : Nat → Outcome) :
    Semantics Operation Answer Procedure ServerState where
  respond turn op state := perform (outcomes turn) op state
  body
    | .cleanup fd => cleanupOfflineFd fd

/-- What can happen to the server. -/
inductive Input
  /-- `accept` returns a descriptor. -/
  | connect (fd : Int)
  /-- `recv_packet` returns a packet to the handler of a descriptor. -/
  | packet (fd : Int) (packet : Packet)
  /-- `recv_packet` fails in the handler of a descriptor. -/
  | disconnect (fd : Int)

/-- The state in which `main` enters its accept loop. -/
def startState (allocated : Nat → Bool) (file : List UInt8) : ServerState where
  users := (userStoreLoad true allocated file userStoreInit).2
  groups := groupStoreInit
  file := file
  connections := []
  accepted := 0

/-- A server that has loaded some storage file and has served nobody yet. -/
def Started (machine : ServerMachine) : Prop :=
  ∃ allocated file, machine = ⟨startState allocated file, []⟩

section

variable [Sha256] (outcomes : Nat → Outcome)

/-- Handle one input with at most the given nesting of calls. A connection gets a descriptor that is
not in use; packets and disconnects happen on open descriptors. -/
def serve (depth : Nat) (machine : ServerMachine) : Input → Option ServerMachine
  | .connect fd =>
    if 0 ≤ fd ∧ machine.state.connectionAt fd = none then
      some { machine with state := machine.state.accept fd }
    else none
  | .packet fd packet =>
    if (machine.state.connectionAt fd).isSome then
      ((processPacket fd packet).run (serverSemantics outcomes) depth machine).map Prod.snd
    else none
  | .disconnect fd =>
    if (machine.state.connectionAt fd).isSome then
      ((clientExit fd).run (serverSemantics outcomes) depth machine).map Prod.snd
    else none

/-- The input is possible, and handling it returns in the second machine. -/
def Served (machine : ServerMachine) (input : Input) (machine' : ServerMachine) : Prop :=
  ∃ depth, serve outcomes depth machine input = some machine'

/-- The server reaches the machine by some inputs, under these outcomes. -/
def ServerReachable (machine : ServerMachine) : Prop :=
  Reachable Started (Served outcomes) machine

/-- Handle a list of inputs. -/
def serveAll (depth : Nat) (machine : ServerMachine) (inputs : List Input) :
    Option ServerMachine :=
  inputs.foldlM (serve outcomes depth) machine

variable {outcomes}

@[simp]
theorem served_connect {machine machine' : ServerMachine} {fd : Int} :
    Served outcomes machine (.connect fd) machine' ↔
      0 ≤ fd ∧ machine.state.connectionAt fd = none ∧
        machine' = { machine with state := machine.state.accept fd } := by
  simp only [Served, serve]
  constructor
  · rintro ⟨_, taken⟩
    split at taken
    · rename_i possible
      exact ⟨possible.1, possible.2, (Option.some.inj taken).symm⟩
    · contradiction
  · rintro ⟨nonnegative, free, rfl⟩
    exact ⟨0, by rw [if_pos ⟨nonnegative, free⟩]⟩

/-- A guarded run that returns is a run. -/
private theorem guarded_run {machine machine' : ServerMachine} {program : Handler Unit}
    {possible : Prop} [Decidable possible] :
    (∃ depth, (if possible then
        (program.run (serverSemantics outcomes) depth machine).map Prod.snd else none) =
          some machine') ↔
      possible ∧ program.Runs (serverSemantics outcomes) machine () machine' := by
  by_cases open_ : possible
  · simp only [open_, ↓reduceIte, true_and, Option.map_eq_some_iff, Program.Runs]
    constructor
    · rintro ⟨depth, ⟨⟨⟩, reached⟩, ran, rfl⟩
      exact ⟨depth, ran⟩
    · rintro ⟨depth, ran⟩
      exact ⟨depth, _, ran, rfl⟩
  · simp [open_]

@[simp]
theorem served_packet {machine machine' : ServerMachine} {fd : Int} {packet : Packet} :
    Served outcomes machine (.packet fd packet) machine' ↔
      (machine.state.connectionAt fd).isSome ∧
        (processPacket fd packet).Runs (serverSemantics outcomes) machine () machine' :=
  guarded_run

@[simp]
theorem served_disconnect {machine machine' : ServerMachine} {fd : Int} :
    Served outcomes machine (.disconnect fd) machine' ↔
      (machine.state.connectionAt fd).isSome ∧
        (clientExit fd).Runs (serverSemantics outcomes) machine () machine' :=
  guarded_run

/-- A computed run reaches its last machine. -/
theorem serveAll_reachable {depth : Nat} {machine machine' : ServerMachine} {inputs : List Input}
    (reached : ServerReachable outcomes machine)
    (served : serveAll outcomes depth machine inputs = some machine') :
    ServerReachable outcomes machine' := by
  induction inputs generalizing machine with
  | nil => exact Option.some.inj served ▸ reached
  | cons input inputs ih =>
    simp only [serveAll, List.foldlM_cons, Option.bind_eq_bind, Option.bind_eq_some_iff] at served
    obtain ⟨middle, first, rest⟩ := served
    exact ih (.next reached ⟨depth, first⟩) rest

end

end MultiUserChat
