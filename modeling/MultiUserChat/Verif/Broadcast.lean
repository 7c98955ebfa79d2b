import MultiUserChat.Verif.Addressing
import MultiUserChat.Verif.Announcement
import MultiUserChat.Verif.Sessions
/-!
# Whom a broadcast reaches

`handle_group` sends to the descriptors of a snapshot that ends after `MAX_ONLINE_SNAPSHOT` entries
and has one entry for each online user. A descriptor gets as many copies as the snapshot has entries
for it, so everybody else gets one copy exactly when the entries differ and nobody is left out.
-/

namespace MultiUserChat

open Program

/-! ## Descriptors are not negative -/

/-- Open descriptors and those of online users are not negative. -/
structure ServerState.Nonnegative (state : ServerState) : Prop where
  /-- The open descriptors. -/
  connections : ∀ entry ∈ state.connections, 0 ≤ entry.1
  /-- The descriptors of users. -/
  sessions : ∀ fd name, state.LoggedIn fd name → 0 ≤ fd

/-- The operation logs nobody in on a negative descriptor. -/
def Operation.LogsInAbove : Operation → Prop
  | .userLogin _ _ fd => 0 ≤ fd
  | _ => True

/-- An open descriptor is not negative. -/
theorem ServerState.Nonnegative.connected {state : ServerState} (holds : state.Nonnegative) {fd : Int}
    (open_ : (state.connectionAt fd).isSome) : 0 ≤ fd := by
  obtain ⟨entry, member, same⟩ := List.lookup_isSome_iff.mp open_
  exact (eq_of_beq same) ▸ holds.connections entry member

/-- Logins on descriptors that are not negative are of this kind. -/
theorem Operation.logsInAbove_of_own {fd : Int} (above : 0 ≤ fd) (op : Operation)
    (own : op.Own fd) : op.LogsInAbove := by
  cases op with
  | userLogin username password other =>
    obtain rfl : other = fd := own
    exact above
  | _ => trivial

section

variable [Sha256] {outcomes : Nat → Outcome}

/-- An operation keeps descriptors from being negative. -/
theorem perform_nonnegative {state : ServerState} (wellFormed : state.WellFormed)
    (holds : state.Nonnegative) (outcome : Outcome) {op : Operation} (above : op.LogsInAbove) :
    (perform outcome op state).2.Nonnegative := by
  refine ⟨?_, fun fd name login => ?_⟩
  · cases op with
    | close fd => exact fun entry member => holds.connections entry (List.mem_of_mem_filter member)
    | _ => exact holds.connections
  · obtain before | ⟨password, rfl, _⟩ := loggedIn_of_perform wellFormed login
    · exact holds.sessions fd name before
    · exact above

/-- A run of such operations keeps descriptors from being negative. -/
theorem runs_nonnegative {α : Type} {program : Handler α} (only : program.Only Operation.LogsInAbove)
    {machine final : ServerMachine} {value : α}
    (ran : program.Runs (serverSemantics outcomes) machine value final)
    (wellFormed : machine.state.WellFormed) (holds : machine.state.Nonnegative) :
    final.state.Nonnegative := by
  refine (ran.preserves (fun state => state.WellFormed ∧ state.Nonnegative)
    (fun turn op state above good => ⟨perform_wellFormed good.1 _ op,
      perform_nonnegative good.1 good.2 (outcomes turn) above⟩) ?_ only ⟨wellFormed, holds⟩).2
  rintro ⟨fd⟩
  exact (cleanupOfflineFd_own fd 0).weaken (Operation.logsInAbove_of_own le_rfl)

/-- In every reachable state descriptors are not negative. -/
theorem serverReachable_nonnegative {machine : ServerMachine}
    (reached : ServerReachable outcomes machine) : machine.state.Nonnegative := by
  refine reached.invariant (fun machine => machine.state.Nonnegative) (fun machine started => ?_)
    fun machine input machine' earlier holds served => ?_
  · obtain ⟨allocated, file, rfl⟩ := started
    refine ⟨fun entry member => absurd member List.not_mem_nil, fun fd name login => ?_⟩
    obtain ⟨user, member, here, _⟩ := login
    simp [User.onlineAt, (startState_wellFormed allocated file).2 user member] at here
  · have wellFormed := serverReachable_wellFormed earlier
    cases input with
    | connect fd =>
      obtain ⟨above, _, rfl⟩ := served_connect.mp served
      exact ⟨List.forall_mem_cons.mpr ⟨above, holds.connections⟩, holds.sessions⟩
    | packet fd packet =>
      obtain ⟨open_, ran⟩ := served_packet.mp served
      exact runs_nonnegative ((processPacket_own fd packet).weaken
        (Operation.logsInAbove_of_own (holds.connected open_))) ran wellFormed holds
    | disconnect fd =>
      obtain ⟨_, ran⟩ := served_disconnect.mp served
      have only : (clientExit fd).Only Operation.LogsInAbove := ⟨trivial, fun _ => trivial⟩
      exact runs_nonnegative only ran wellFormed holds

end

/-! ## The snapshot -/

/-- The descriptors of the online users that are not on this one, in list order. -/
def ServerState.otherDescriptors (state : ServerState) (fd : Int) : List Int :=
  (state.users.users.filter fun user => user.online && decide (user.socketFd ≠ fd)).map User.socketFd

/-- The other descriptors belong to online users that are not on the given one. -/
theorem ServerState.mem_otherDescriptors {state : ServerState} {fd target : Int} :
    target ∈ state.otherDescriptors fd ↔
      ∃ user ∈ state.users.users, user.online = true ∧ user.socketFd ≠ fd ∧
        user.socketFd = target := by
  simp [otherDescriptors, and_assoc]

/-- The given descriptor is not among them. -/
theorem ServerState.not_mem_otherDescriptors (state : ServerState) (fd : Int) :
    fd ∉ state.otherDescriptors fd := by
  rintro member
  obtain ⟨_, _, _, elsewhere, same⟩ := mem_otherDescriptors.mp member
  exact elsewhere same

/-- There are such users exactly when there are such descriptors. -/
theorem ServerState.exists_other {state : ServerState} {fd : Int} :
    (∃ user ∈ state.users.users, user.online = true ∧ user.socketFd ≠ fd) ↔
      state.otherDescriptors fd ≠ [] := by
  constructor
  · rintro ⟨user, listed, online, elsewhere⟩
    exact List.ne_nil_of_mem (mem_otherDescriptors.mpr ⟨user, listed, online, elsewhere, rfl⟩)
  · intro some_
    obtain ⟨target, member⟩ := List.exists_mem_of_ne_nil _ some_
    obtain ⟨user, listed, online, elsewhere, _⟩ := mem_otherDescriptors.mp member
    exact ⟨user, listed, online, elsewhere⟩

/-- The snapshot has the first of these descriptors. -/
theorem snapshot_descriptors {state : ServerState} (above : state.Nonnegative) (fd : Int) (most : Nat) :
    (userStoreSnapshotOnlineFds state.users fd most).map Prod.snd =
      (state.otherDescriptors fd).take most := by
  have same : (state.users.users.filter fun user =>
      user.online && decide (0 ≤ user.socketFd) && decide (user.socketFd ≠ fd)) =
        state.users.users.filter fun user => user.online && decide (user.socketFd ≠ fd) := by
    refine List.filter_congr fun user member => ?_
    cases online : user.online with
    | false => rfl
    | true =>
      have login : state.LoggedIn user.socketFd user.username.toCString :=
        ⟨user, member, by simp [User.onlineAt, online], rfl⟩
      simp [above.sessions _ _ login]
  rw [userStoreSnapshotOnlineFds, same, List.map_map, ServerState.otherDescriptors, List.map_take]
  rfl

/-- In a list of packets to descriptors, the entries for one descriptor are as many as the
descriptor's. -/
theorem filter_copies (targets : List Int) (target : Int) (packet : Packet) :
    ((targets.map fun fd => (fd, packet)).filter fun sent => sent.1 = target) =
      List.replicate (targets.count target) (target, packet) := by
  have tested : ((fun sent : Int × Packet => decide (sent.1 = target)) ∘ fun fd => (fd, packet)) =
      fun fd => decide (fd = target) := rfl
  rw [List.filter_map, tested, List.filter_eq, List.map_replicate]

/-- Each entry of a list occurs once in its front exactly when the front has no entry twice and the
rest nothing new. -/
theorem count_take_eq_one {α : Type} [DecidableEq α] {entries : List α} {most : Nat} :
    (∀ entry ∈ entries, (entries.take most).count entry = 1) ↔
      (entries.take most).Nodup ∧ ∀ entry ∈ entries.drop most, entry ∈ entries.take most := by
  constructor
  · intro once
    refine ⟨List.nodup_iff_count_le_one.mpr fun entry => ?_, fun entry late => ?_⟩
    · by_cases member : entry ∈ entries.take most
      · exact (once entry (List.mem_of_mem_take member)).le
      · rw [List.count_eq_zero_of_not_mem member]
        exact Nat.zero_le 1
    · have one := once entry (List.mem_of_mem_drop late)
      exact List.count_pos_iff.mp (by omega)
  · rintro ⟨distinct, covered⟩ entry member
    rw [← List.take_append_drop most entries, List.mem_append] at member
    exact List.count_eq_one_of_mem distinct (member.elim id (covered entry))

/-! ## The request -/

/-- Each connection of an online user other than the descriptor got the packet once and nothing else,
the descriptor did not get the packet, and it was told whether there is such a user. -/
structure BroadcastReaches (before after : ServerMachine) (fd : Int) (packet : Packet) : Prop where
  /-- Everybody else gets one copy. -/
  others : ∀ user ∈ before.state.users.users, user.online = true → user.socketFd ≠ fd →
    (deliveries before after).filter (fun sent => sent.1 = user.socketFd) = [(user.socketFd, packet)]
  /-- The sender's connection gets none. -/
  spared : (fd, packet) ∉ deliveries before after
  /-- The sender's connection gets one reply, which says whether there is somebody else. -/
  replied : ∃ reply, (deliveries before after).filter (fun sent => sent.1 = fd) = [(fd, reply)] ∧
    (reply.type = MessageType.msgOk.code ∨ reply.type = MessageType.msgError.code) ∧
    (reply.type = MessageType.msgOk.code ↔
      ∃ user ∈ before.state.users.users, user.online = true ∧ user.socketFd ≠ fd)

/-- No two of the first `MAX_ONLINE_SNAPSHOT` other online users share a descriptor, and each later
one shares the descriptor of one of them. -/
def BroadcastFits (state : ServerState) (fd : Int) : Prop :=
  ((state.otherDescriptors fd).take maxOnlineSnapshot).Nodup ∧
    ∀ target ∈ (state.otherDescriptors fd).drop maxOnlineSnapshot,
      target ∈ (state.otherDescriptors fd).take maxOnlineSnapshot

instance (state : ServerState) (fd : Int) : Decidable (BroadcastFits state fd) :=
  inferInstanceAs (Decidable (_ ∧ _))

/-- When no two users share a descriptor, the broadcast fits exactly when the snapshot has room for
all others. -/
theorem ServerState.SessionBound.broadcastFits_iff {state : ServerState} (wellFormed : state.WellFormed)
    (bound : state.SessionBound) (fd : Int) :
    BroadcastFits state fd ↔ (state.otherDescriptors fd).length ≤ maxOnlineSnapshot := by
  have distinct : (state.otherDescriptors fd).Nodup := by
    refine List.Nodup.map_on (fun user member other member' same => ?_)
      (wellFormed.users.users_distinct.of_map _ |>.filter _)
    simp only [List.mem_filter, Bool.and_eq_true] at member member'
    exact bound.sole user member.1 other member'.1 member.2.1 member'.2.1 same
  constructor
  · rintro ⟨_, covered⟩
    rw [← List.drop_eq_nil_iff]
    refine List.eq_nil_iff_forall_not_mem.mpr fun target late => ?_
    rw [← List.take_append_drop maxOnlineSnapshot (state.otherDescriptors fd)] at distinct
    exact List.disjoint_of_nodup_append distinct (covered target late) late
  · intro room
    rw [BroadcastFits, List.take_of_length_le room, List.drop_eq_nil_of_le room]
    exact ⟨distinct, fun target late => absurd late List.not_mem_nil⟩

/-- What the copies and the reply amount to. -/
theorem broadcastReaches_of_deliveries {before after : ServerMachine} {fd : Int}
    {packet reply : Packet} (type : packet.type = MessageType.msgGroup.code)
    (sent : deliveries before after =
      (((before.state.otherDescriptors fd).take maxOnlineSnapshot).map fun target =>
        (target, packet)) ++ [(fd, reply)])
    (answer : reply.type = (if before.state.otherDescriptors fd = [] then MessageType.msgError.code
      else MessageType.msgOk.code)) :
    BroadcastReaches before after fd packet ↔ BroadcastFits before.state fd := by
  have unaddressed : fd ∉ (before.state.otherDescriptors fd).take maxOnlineSnapshot := fun member =>
    before.state.not_mem_otherDescriptors fd (List.mem_of_mem_take member)
  have copies (target : Int) (elsewhere : target ≠ fd) :
      (deliveries before after).filter (fun sent => sent.1 = target) =
        List.replicate (((before.state.otherDescriptors fd).take maxOnlineSnapshot).count target)
          (target, packet) := by
    rw [sent, List.filter_append, filter_copies, List.filter_cons_of_neg (by simpa using Ne.symm elsewhere),
      List.filter_nil, List.append_nil]
  rw [BroadcastFits, ← count_take_eq_one]
  constructor
  · intro reaches target member
    obtain ⟨user, listed, online, elsewhere, rfl⟩ := ServerState.mem_otherDescriptors.mp member
    have one := reaches.others user listed online elsewhere
    rw [copies _ elsewhere] at one
    exact (List.length_replicate).symm.trans (congrArg List.length one)
  · intro once
    refine ⟨fun user listed online elsewhere => ?_, ?_, reply, ?_, ?_, ?_⟩
    · have member : user.socketFd ∈ before.state.otherDescriptors fd :=
        ServerState.mem_otherDescriptors.mpr ⟨user, listed, online, elsewhere, rfl⟩
      rw [copies _ elsewhere, once _ member]
      rfl
    · rw [sent, List.mem_append, not_or]
      refine ⟨fun copied => ?_, fun replied => ?_⟩
      · obtain ⟨target, inside, same⟩ := List.mem_map.mp copied
        obtain ⟨rfl, _⟩ := Prod.mk.inj same
        exact unaddressed inside
      · obtain ⟨_, rfl⟩ := Prod.mk.inj (List.mem_singleton.mp replied)
        rw [type] at answer
        split at answer <;> exact absurd answer (by decide)
    · rw [sent, List.filter_append, filter_copies, List.count_eq_zero_of_not_mem unaddressed]
      simp
    · split at answer
      · exact .inr answer
      · exact .inl answer
    · rw [ServerState.exists_other, answer]
      by_cases nobody : before.state.otherDescriptors fd = []
      · rw [if_pos nobody]
        exact iff_of_false (by decide) (not_not_intro nobody)
      · rw [if_neg nobody]
        exact iff_of_true rfl nobody

section

variable [Sha256] {outcomes : Nat → Outcome} {machine final : ServerMachine} {fd : Int}
  {packet : Packet}

/-- The loop sends the packet to each descriptor of the snapshot when every send succeeds. -/
theorem broadcast_delivers {fds : List (CString × Int)} (success : SendsSucceed outcomes machine)
    (ran : (broadcast packet fds).Runs (serverSemantics outcomes) machine () final) :
    final.state = machine.state ∧
      deliveries machine final = fds.map fun entry => (entry.2, packet) := by
  induction fds generalizing machine with
  | nil =>
    obtain ⟨_, rfl⟩ := (runs_done _ _ _ _ _).mp ran
    exact ⟨rfl, deliveries_self _⟩
  | cons entry fds ih =>
    obtain ⟨owner, target⟩ := entry
    unfold broadcast at ran
    simp only [perform_bind, done_bind, runs_perform, answer_send, success.here, ↓reduceIte]
      at ran
    set sent := machine.after (serverSemantics outcomes) (.send target packet (some owner))
    obtain ⟨state, rest⟩ := ih (success.later (extends_after machine _)) ran
    refine ⟨state.trans (after_reads machine rfl), ?_⟩
    have one : deliveries machine sent = [(target, packet)] := deliveries_send success.here
    rw [deliveries_append (extends_after machine _) (extends_of_runs ran), one, rest]
    rfl

/-- The handler sends the packet to the descriptors of the snapshot, then the reply. -/
theorem handleGroup_delivers (success : SendsSucceed outcomes machine)
    (above : machine.state.Nonnegative)
    (ran : (handleGroup fd packet).Runs (serverSemantics outcomes) machine () final) :
    final.state = machine.state ∧ ∃ reply : Packet,
      deliveries machine final =
        (((machine.state.otherDescriptors fd).take maxOnlineSnapshot).map fun target =>
          (target, packet)) ++ [(fd, reply)] ∧
      reply.type =
        (if machine.state.otherDescriptors fd = [] then MessageType.msgError.code
          else MessageType.msgOk.code) := by
  unfold handleGroup at ran
  simp only [perform_bind, done_bind, runs_perform] at ran
  have targets : List.map Prod.snd
      (machine.answer (serverSemantics outcomes) (.userSnapshotOnlineFds fd)) = _ :=
    snapshot_descriptors above fd maxOnlineSnapshot
  generalize machine.answer (serverSemantics outcomes) (.userSnapshotOnlineFds fd) = fds
    at targets ran
  set looked := machine.after (serverSemantics outcomes) (.userSnapshotOnlineFds fd)
  obtain ⟨same, later, silent⟩ := looked_up success rfl (by simp) ran
  have length := congrArg List.length targets
  rw [List.length_map, List.length_take] at length
  by_cases nobody : machine.state.otherDescriptors fd = []
  · rw [nobody, List.length_nil, Nat.min_zero] at length
    rw [if_pos length] at ran
    obtain ⟨state, reply, type, sent⟩ := sendTextResponse_delivers later (by decide) ran
    rw [nobody, if_pos rfl]
    exact ⟨state.trans same, reply, silent.trans sent, type⟩
  · have some_ : fds.length ≠ 0 := by
      have := List.length_pos_iff.mpr nobody
      rw [length]
      simp only [maxOnlineSnapshot]
      omega
    rw [if_neg some_] at ran
    obtain ⟨⟨⟩, middle, fanOut, answered⟩ := (runs_bind _ _ _ _ _ _).mp ran
    obtain ⟨kept, copies⟩ := broadcast_delivers later fanOut
    obtain ⟨state, reply, type, sent⟩ := sendTextResponse_delivers
      (later.later (extends_of_runs fanOut)) (by decide) answered
    refine ⟨(state.trans kept).trans same, reply, ?_, by rw [type, if_neg nobody]⟩
    rw [silent, deliveries_append (extends_of_runs fanOut) (extends_of_runs answered), copies, sent,
      ← targets, List.map_map]
    rfl

/-- In every reachable state, while sends succeed, a broadcast is handled to its end, and it reaches
everybody else exactly when it fits. -/
theorem broadcastReaches_iff (reached : ServerReachable outcomes machine)
    (success : SendsSucceed outcomes machine) (type : packet.type = MessageType.msgGroup.code) :
    ∃ final, (processPacket fd packet).Runs (serverSemantics outcomes) machine () final ∧
      (BroadcastReaches machine final fd packet ↔ BroadcastFits machine.state fd) := by
  obtain ⟨⟨⟩, final, ran⟩ :=
    handler_returns outcomes (processPacket fd packet) (serverReachable_wellFormed reached)
  refine ⟨final, ran, ?_⟩
  rw [processPacket, type, MessageType.ofCode?_code] at ran
  change (handleGroup fd packet).Runs _ _ _ _ at ran
  obtain ⟨_, reply, sent, answer⟩ :=
    handleGroup_delivers success (serverReachable_nonnegative reached) ran
  exact broadcastReaches_of_deliveries type sent answer

end

section

attribute [local instance] sampleDigest

/-- A broadcast of the sample text. -/
def groupRequest (sender : CString) : Packet :=
  request .msgGroup sender CString.empty sampleText.terminated sampleText_fits

/-- A broadcast reaches the other of two users. -/
theorem broadcastReaches_iff_couple : ∃ final,
    (processPacket 5 (groupRequest (CString.ofString "ann"))).Runs (serverSemantics (failingAt []))
        coupleMachine () final ∧
      BroadcastReaches coupleMachine final 5 (groupRequest (CString.ofString "ann")) := by
  have type : (groupRequest (CString.ofString "ann")).type = MessageType.msgGroup.code := by
    decide
  obtain ⟨final, ran, reaches⟩ :=
    broadcastReaches_iff (sample_reachable couple_returns) (fun _ _ => rfl) type
  exact ⟨final, ran, reaches.mpr (by decide)⟩

/-- Two users log in on one connection and a third on another. -/
def roommates : List Input :=
  joining 5 (CString.ofString "ann") ++
    [.packet 5 (registerRequest (CString.ofString "ben")),
      .packet 5 (loginRequest (CString.ofString "ben"))] ++ joining 6 (CString.ofString "cid")

/-- The run returns. -/
theorem roommates_returns : (serveAll (failingAt []) 0 freshServer roommates).isSome := by
  decide

/-- The state that is reached. -/
def roommatesMachine : ServerMachine :=
  (serveAll (failingAt []) 0 freshServer roommates).get roommates_returns

/-- The connection of two users gets two copies of what the third broadcasts. -/
theorem broadcastReaches_roommates : ¬ ∀ [Sha256] (outcomes : Nat → Outcome)
    (machine : ServerMachine) (fd : Int) (packet : Packet),
    ServerReachable outcomes machine → SendsSucceed outcomes machine →
      (machine.state.connectionAt fd).isSome → packet.type = MessageType.msgGroup.code →
      ∃ final, (processPacket fd packet).Runs (serverSemantics outcomes) machine () final ∧
        BroadcastReaches machine final fd packet := by
  intro claim
  have reached : ServerReachable (failingAt []) roommatesMachine :=
    sample_reachable roommates_returns
  have type : (groupRequest (CString.ofString "cid")).type = MessageType.msgGroup.code := by
    decide
  obtain ⟨final, ran, reaches⟩ := claim (failingAt []) roommatesMachine 6
    (groupRequest (CString.ofString "cid")) reached (fun _ _ => rfl) (by decide) type
  rw [processPacket, type, MessageType.ofCode?_code] at ran
  obtain ⟨_, reply, sent, answer⟩ :=
    handleGroup_delivers (fun _ _ => rfl) (serverReachable_nonnegative reached) ran
  have fits := (broadcastReaches_of_deliveries type sent answer).mp reaches
  exact absurd fits (by decide)

end

end MultiUserChat
