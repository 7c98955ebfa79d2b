import MultiUserChat.Verif.Cascade
/-!
# What a handler puts on the wire when every send succeeds

Runs only add to the trace, so the deliveries of a sequence are those of its parts. With no failing
send there is no cleanup, a text response is one packet to its descriptor, and a fan-out is one
packet to the descriptor of each listed member that is online, in the order of the list.
-/

namespace MultiUserChat

open Program

/-- The second machine is the first after some more operations. -/
def Extends (before after : ServerMachine) : Prop :=
  ∃ events, after.trace = before.trace ++ events

/-- Operations follow each other. -/
theorem Extends.trans {first second third : ServerMachine} (early : Extends first second)
    (late : Extends second third) : Extends first third := by
  obtain ⟨events, earlyEq⟩ := early
  obtain ⟨more, lateEq⟩ := late
  exact ⟨events ++ more, by rw [lateEq, earlyEq, List.append_assoc]⟩

@[simp]
theorem deliveries_self (machine : ServerMachine) : deliveries machine machine = [] := by
  simp [deliveries]

/-- Deliveries of a sequence are those of its parts. -/
theorem deliveries_append {first second third : ServerMachine} (early : Extends first second)
    (late : Extends second third) :
    deliveries first third = deliveries first second ++ deliveries second third := by
  obtain ⟨events, earlyEq⟩ := early
  obtain ⟨more, lateEq⟩ := late
  have whole : third.trace = first.trace ++ (events ++ more) := by
    rw [lateEq, earlyEq, List.append_assoc]
  rw [deliveries_eq whole, deliveries_eq earlyEq, deliveries_eq lateEq, List.filterMap_append]

/-- Every send from this machine on succeeds. -/
def SendsSucceed (outcomes : Nat → Outcome) (machine : ServerMachine) : Prop :=
  ∀ turn, machine.trace.length ≤ turn → (outcomes turn).delivered = true

/-- The next send succeeds. -/
theorem SendsSucceed.here {outcomes : Nat → Outcome} {machine : ServerMachine}
    (success : SendsSucceed outcomes machine) :
    (outcomes machine.trace.length).delivered = true := success _ le_rfl

/-- Sends succeed later as well. -/
theorem SendsSucceed.later {outcomes : Nat → Outcome} {machine final : ServerMachine}
    (success : SendsSucceed outcomes machine) (extends_ : Extends machine final) :
    SendsSucceed outcomes final := by
  obtain ⟨events, appended⟩ := extends_
  intro turn reached
  rw [appended, List.length_append] at reached
  exact success turn (by omega)

/-- The descriptor of a user, or -1 when there is no such user. -/
def ServerState.descriptorOf (state : ServerState) (name : CString) : Int :=
  ((state.users.users.find? fun user => user.username.toCString = name).map User.socketFd).getD (-1)

/-- The lookup of an online user returns its descriptor. -/
theorem getFd_online {state : ServerState} (wellFormed : state.WellFormed) {name : CString}
    (online : state.online name = true) :
    userStoreGetFd state.users name = .ok (state.descriptorOf name) ∧
      state.LoggedIn (state.descriptorOf name) name := by
  obtain ⟨user, member, named, here⟩ := ServerState.online_iff.mp online
  have found : (state.users.users.find? fun other => other.username.toCString = name) = some user := by
    cases search : state.users.users.find? fun other => other.username.toCString = name with
    | none => simpa [named] using List.find?_eq_none.mp search user member
    | some other =>
      have same : other.username.toCString = name := by simpa using List.find?_some search
      rw [wellFormed.users.unique (List.mem_of_find?_eq_some search) member (same.trans named.symm)]
  have fd : state.descriptorOf name = user.socketFd := by
    rw [ServerState.descriptorOf, found]
    rfl
  rw [fd]
  exact ⟨wellFormed.users.getFd_ok.mpr ⟨user, member, named, here, rfl⟩, user, member,
    by simp [User.onlineAt, here], named⟩

/-- One error was sent to the descriptor, and nothing else to anybody. -/
def RepliedError (before after : ServerMachine) (fd : Int) : Prop :=
  ∃ reply : Packet, reply.type = MessageType.msgError.code ∧
    deliveries before after = [(fd, reply)]

/-- A refusal after a silent part is a refusal. -/
theorem RepliedError.of_silent {machine middle final : ServerMachine} {fd : Int}
    (refused : RepliedError middle final fd)
    (silent : deliveries machine final = deliveries middle final) : RepliedError machine final fd := by
  rwa [RepliedError, silent]

/-- A single packet of another type is no error. -/
theorem not_repliedError {before after : ServerMachine} {fd : Int} {answer : Packet}
    (sent : deliveries before after = [(fd, answer)])
    (other : answer.type ≠ MessageType.msgError.code) : ¬ RepliedError before after fd := by
  rintro ⟨reply, error, only⟩
  rw [sent] at only
  obtain rfl : answer = reply := (Prod.mk.inj (List.cons.inj only).1).2
  exact other error

/-- When a list is sent if it fits and an error if it does not, each is sent exactly then. -/
theorem sent_iff {fits listed error : Prop} (settled : fits ∧ listed ∨ ¬ fits ∧ error)
    (apart : listed → ¬ error) : (listed ↔ fits) ∧ (error ↔ ¬ fits) := by
  rcases settled with ⟨small, sent⟩ | ⟨full, refused⟩
  · exact ⟨iff_of_true sent small, iff_of_false (apart sent) (not_not_intro small)⟩
  · exact ⟨iff_of_false (fun sent => apart sent refused) full, iff_of_true refused full⟩

/-- The messages of `user_result_message` fit in a packet. -/
theorem userResultMessage_short (result : UserResult) :
    (userResultMessage result).length + 1 ≤ packetDataMax := by
  cases result <;> decide

/-- The messages of `group_result_message` fit in a packet. -/
theorem groupResultMessage_short (result : GroupResult) :
    (groupResultMessage result).length + 1 ≤ packetDataMax := by
  cases result <;> decide +kernel

section

variable [Sha256] {outcomes : Nat → Outcome} {machine final : ServerMachine}

/-- An operation adds to the trace. -/
theorem extends_after (machine : ServerMachine) (op : Operation) :
    Extends machine (machine.after (serverSemantics outcomes) op) := ⟨_, rfl⟩

/-- A run adds to the trace. -/
theorem extends_of_runs {α : Type} {program : Handler α} {value : α}
    (ran : program.Runs (serverSemantics outcomes) machine value final) : Extends machine final := by
  obtain ⟨events, appended, _⟩ := ran.performed (fun _ => only_true _) (only_true _)
  exact ⟨events, appended⟩

/-- A successful send delivers its packet. -/
theorem deliveries_send {fd : Int} {packet : Packet} {target : Option CString}
    (success : (outcomes machine.trace.length).delivered = true) :
    deliveries machine (machine.after (serverSemantics outcomes) (.send fd packet target)) =
      [(fd, packet)] := by
  have one : (machine.after (serverSemantics outcomes) (.send fd packet target)).trace =
      machine.trace ++ [⟨.send fd packet target, (outcomes machine.trace.length).delivered⟩] := rfl
  rw [deliveries_eq one]
  simp [delivery, success]

/-- An operation that is no send delivers nothing. -/
theorem deliveries_other {op : Operation} (other : ∀ fd packet target, op ≠ .send fd packet target) :
    deliveries machine (machine.after (serverSemantics outcomes) op) = [] := by
  have one : (machine.after (serverSemantics outcomes) op).trace =
      machine.trace ++ [⟨op, machine.answer (serverSemantics outcomes) op⟩] := rfl
  rw [deliveries_eq one]
  cases op with
  | send fd packet target => exact absurd rfl (other fd packet target)
  | _ => rfl

/-- An operation that is no send adds nothing to what is delivered later. -/
theorem deliveries_silent {op : Operation}
    (later : Extends (machine.after (serverSemantics outcomes) op) final)
    (other : ∀ fd packet target, op ≠ .send fd packet target) :
    deliveries machine final = deliveries (machine.after (serverSemantics outcomes) op) final := by
  rw [deliveries_append (extends_after machine op) later, deliveries_other other, List.nil_append]

/-- After an operation that only looks something up, the state is as before, sends succeed as before,
and what a handler sends from there on is all that it sends. -/
theorem looked_up {α : Type} {program : Handler α} {value : α} {op : Operation}
    (success : SendsSucceed outcomes machine) (reads : op.reads = true)
    (other : ∀ fd packet target, op ≠ .send fd packet target)
    (ran : program.Runs (serverSemantics outcomes) (machine.after (serverSemantics outcomes) op)
      value final) :
    (machine.after (serverSemantics outcomes) op).state = machine.state ∧
      SendsSucceed outcomes (machine.after (serverSemantics outcomes) op) ∧
      deliveries machine final = deliveries (machine.after (serverSemantics outcomes) op) final :=
  ⟨after_reads machine reads, success.later (extends_after machine _),
    deliveries_silent (extends_of_runs ran) other⟩

/-- A text response is sent as it is, if it is sent. -/
theorem sendTextResponse_sent {fd : Int} {type : MessageType} {message : CString} {sent : Int × Packet}
    (ran : (sendTextResponse fd type message).Runs (serverSemantics outcomes) machine () final)
    (delivered : sent ∈ deliveries machine final) :
    sent.2.type = type.code ∧ sent.2.payload = message.terminated := by
  unfold sendTextResponse at ran
  split at ran
  · obtain ⟨_, rfl⟩ := (runs_done _ _ _ _ _).mp ran
    rw [deliveries_self] at delivered
    contradiction
  · rename_i packet text
    simp only [perform_bind, done_bind, pure_eq, runs_perform, runs_done] at ran
    obtain ⟨_, rfl⟩ := ran
    have one : (machine.after (serverSemantics outcomes) (.send fd packet none)).trace =
        machine.trace ++ [⟨.send fd packet none, (outcomes machine.trace.length).delivered⟩] := rfl
    rw [deliveries_eq one, List.mem_filterMap] at delivered
    obtain ⟨event, here, same⟩ := delivered
    obtain rfl := List.mem_singleton.mp here
    obtain ⟨_, same⟩ := Option.ite_none_right_eq_some.mp same
    obtain rfl := Option.some.inj same
    unfold packetSetText at text
    split at text
    · contradiction
    · obtain ⟨type_, _, _, content⟩ := packetInit_eq text
      exact ⟨type_, content⟩

/-- A successful text response is one packet with its type and text, to its descriptor. -/
theorem sendTextResponse_text {fd : Int} {type : MessageType} {message : CString}
    (success : SendsSucceed outcomes machine)
    (short : message.length + 1 ≤ packetDataMax)
    (ran : (sendTextResponse fd type message).Runs (serverSemantics outcomes) machine () final) :
    final.state = machine.state ∧ ∃ packet, packet.type = type.code ∧
      packet.payload = message.terminated ∧ deliveries machine final = [(fd, packet)] := by
  have fits : message.terminated.length ≤ packetDataMax := by
    rwa [CString.terminated_length]
  have accepted : (packetInit type.code serverName CString.empty message.terminated).isSome :=
    packetInit_isSome.mpr fits
  obtain ⟨packet, built⟩ := Option.isSome_iff_exists.mp accepted
  obtain ⟨same, _, _, content⟩ := packetInit_eq built
  have text : packetSetText type.code serverName CString.empty message = some packet := by
    rw [packetSetText, if_neg (Nat.not_lt.mpr short), built]
  unfold sendTextResponse at ran
  rw [text] at ran
  simp only [perform_bind, done_bind, pure_eq, runs_perform, runs_done] at ran
  obtain ⟨_, rfl⟩ := ran
  exact ⟨rfl, packet, same, content, deliveries_send success.here⟩

/-- A successful text response is one packet of its type to its descriptor. -/
theorem sendTextResponse_delivers {fd : Int} {type : MessageType} {message : CString}
    (success : SendsSucceed outcomes machine)
    (short : message.length + 1 ≤ packetDataMax)
    (ran : (sendTextResponse fd type message).Runs (serverSemantics outcomes) machine () final) :
    final.state = machine.state ∧ ∃ packet, packet.type = type.code ∧
      deliveries machine final = [(fd, packet)] := by
  obtain ⟨state, packet, same, _, sent⟩ := sendTextResponse_text success short ran
  exact ⟨state, packet, same, sent⟩

/-- A fan-out to members that are all online is one packet to each, in order, when every send
succeeds. -/
theorem sendToMembers_delivers {type : MessageType} {sender receiver : CString}
    {payload : GroupPayload} {packet : Packet}
    (success : SendsSucceed outcomes machine)
    (built : packetInit type.code sender receiver payload.data = some packet)
    {members : List CString} (wellFormed : machine.state.WellFormed)
    (online : ∀ member ∈ members, machine.state.online member = true)
    (ran : (sendToMembers type sender receiver payload members).Runs (serverSemantics outcomes)
      machine () final) :
    final.state = machine.state ∧ deliveries machine final =
      members.map fun member => (machine.state.descriptorOf member, packet) := by
  induction members generalizing machine with
  | nil =>
    obtain ⟨_, rfl⟩ := (runs_done _ _ _ _ _).mp ran
    exact ⟨rfl, deliveries_self _⟩
  | cons member members ih =>
    obtain ⟨here, others⟩ := List.forall_mem_cons.mp online
    obtain ⟨found, _⟩ := getFd_online wellFormed here
    unfold sendToMembers at ran
    simp only [perform_bind, done_bind, runs_perform, answer_userGetFd, found] at ran
    set looked := machine.after (serverSemantics outcomes) (.userGetFd member)
    have same : looked.state = machine.state := after_reads machine rfl
    have first : SendsSucceed outcomes looked := success.later (extends_after machine _)
    unfold sendGroupPayloadToFd at ran
    simp only [built, perform_bind, done_bind, runs_perform, answer_send, first.here, ↓reduceIte,
      pure_eq] at ran
    set sent := looked.after (serverSemantics outcomes)
      (.send (machine.state.descriptorOf member) packet (some member))
    have kept : sent.state = machine.state := (after_reads looked rfl).trans same
    have sound : sent.state.WellFormed := kept ▸ wellFormed
    have second : SendsSucceed outcomes sent := first.later (extends_after looked _)
    obtain ⟨state, rest⟩ := ih second sound (by rwa [kept]) ran
    refine ⟨state.trans kept, ?_⟩
    have one : deliveries looked sent = [(machine.state.descriptorOf member, packet)] :=
      deliveries_send first.here
    rw [deliveries_silent ((extends_after looked _).trans (extends_of_runs ran)) (by simp),
      deliveries_append (extends_after looked _) (extends_of_runs ran), one, rest, kept]
    rfl

end

end MultiUserChat
