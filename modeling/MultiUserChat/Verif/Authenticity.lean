import MultiUserChat.Verif.Cascade
/-!
# Who a relayed packet claims to be from

Six message types carry one user's content to another. `handle_group_message` rebuilds the packet
with the user of the session as its sender. `handle_private`, `handle_group` and
`handle_file_packet` forward the received packet, sender field included, without asking who is
logged in on the connection. So a relayed packet is authentic exactly when the packet is not
forwarded at all or its own sender field names a user of the session.
-/

namespace MultiUserChat

open Program

/-- The handler finds somebody to forward the received packet to. -/
def Forwarded (state : ServerState) (fd : Int) (packet : Packet) : Prop :=
  match MessageType.ofCode? packet.type with
  | some .msgPrivate | some .msgFileBegin | some .msgFileChunk | some .msgFileEnd =>
    state.online packet.receiverName = true
  | some .msgGroup =>
    ∃ user ∈ state.users.users, user.online = true ∧ 0 ≤ user.socketFd ∧ user.socketFd ≠ fd
  | _ => False

/-- The sends of relayed packets name a user logged in on the descriptor. -/
def Honest (state : ServerState) (fd : Int) (op : Operation) : Prop :=
  ∀ target packet owner, op = .send target packet owner → packet.relayed = true →
    state.LoggedIn fd packet.senderName

/-- Plain operations relay nothing. -/
theorem honest_of_plain {state : ServerState} {fd : Int} (op : Operation) (plain : op.plain = true) :
    Honest state fd op := by
  rintro target packet owner rfl relayed
  rw [Packet.not_relayed_of_plain (Operation.packet_plain plain)] at relayed
  contradiction

/-- Announcements relay nothing. -/
theorem honest_of_event {state : ServerState} {fd : Int} (owner : CString) (target : Int)
    (packet : Packet) (event : packet.type = MessageType.msgGroupEvent.code) :
    Honest state fd (.send target packet (some owner)) := by
  rintro _ _ _ same relayed
  cases same
  rw [Packet.not_relayed_of_event event] at relayed
  contradiction

/-- Forwarding a packet of an honest sender is honest. -/
theorem honest_forward {state : ServerState} {fd : Int} {packet : Packet}
    (named : state.LoggedIn fd packet.senderName)
    (target : Int) (owner : Option CString) : Honest state fd (.send target packet owner) := by
  rintro _ _ _ same _
  cases same
  exact named

/-- The snapshot of descriptors is empty exactly when nobody else is online. -/
theorem snapshot_nonempty {state : ServerState} {fd : Int} :
    (userStoreSnapshotOnlineFds state.users fd maxOnlineSnapshot).length ≠ 0 ↔
      ∃ user ∈ state.users.users, user.online = true ∧ 0 ≤ user.socketFd ∧ user.socketFd ≠ fd := by
  rw [userStoreSnapshotOnlineFds, List.length_map, List.length_take, ne_eq, Nat.min_eq_zero_iff,
    not_or, List.length_eq_zero_iff, List.filter_eq_nil_iff]
  simp [and_assoc]

/-- Every relayed packet that was delivered between the machines names a user logged in on the
descriptor as its sender. -/
def DeliversHonestly (machine final : ServerMachine) (fd : Int) : Prop :=
  ∀ delivery ∈ deliveries machine final, delivery.2.relayed = true →
    machine.state.LoggedIn fd delivery.2.senderName

section

variable [Sha256]

/-- Whatever the environment does, every relayed packet that handling this packet delivers to
anybody names a user logged in on the descriptor as its sender. -/
def RelaysAuthentically (machine : ServerMachine) (fd : Int) (packet : Packet) : Prop :=
  ∀ (outcomes : Nat → Outcome) (final : ServerMachine),
    (processPacket fd packet).Runs (serverSemantics outcomes) machine () final →
      ∀ delivery ∈ deliveries machine final, delivery.2.relayed = true →
        machine.state.LoggedIn fd delivery.2.senderName

variable {outcomes : Nat → Outcome} {machine final : ServerMachine} {fd : Int} {packet : Packet}

/-- A run whose text sends honestly delivers honestly; cleanups relay nothing. -/
theorem deliveries_honest {start : ServerMachine} {program : Handler Unit}
    {events : List (Event Operation Answer)} (prefix_ : start.trace = machine.trace ++ events)
    (earlier : events.filterMap delivery = [])
    (only : program.Only (Honest machine.state fd))
    (ran : program.Runs (serverSemantics outcomes) start () final) :
    DeliversHonestly machine final fd := by
  obtain ⟨later, appended, honest⟩ := ran.performed (fun target => by
    obtain ⟨other⟩ := target
    exact cleanupOfflineFd_only honest_of_plain other honest_of_event nofun nofun) only
  have whole : final.trace = machine.trace ++ (events ++ later) := by
    rw [appended, prefix_, List.append_assoc]
  unfold DeliversHonestly
  rw [deliveries_eq whole, List.filterMap_append, earlier, List.nil_append]
  rintro ⟨target, sent⟩ member relayed
  obtain ⟨⟨op, answer⟩, performed, found⟩ := List.mem_filterMap.mp member
  cases op with
  | send other packet owner =>
    simp only [delivery] at found
    split at found
    · cases found
      exact honest _ performed target sent owner rfl relayed
    · contradiction
  | _ => contradiction

/-- A text response delivers nothing that is relayed, after operations that delivered nothing. -/
theorem response_honest {start : ServerMachine} {type : MessageType} {message : CString}
    {events : List (Event Operation Answer)} (ordinary : type.plain = true)
    (prefix_ : start.trace = machine.trace ++ events) (earlier : events.filterMap delivery = [])
    (ran : (sendTextResponse fd type message).Runs (serverSemantics outcomes) start () final) :
    DeliversHonestly machine final fd :=
  deliveries_honest prefix_ earlier (response_only honest_of_plain ordinary) ran

/-- Code without sends of the packet is honest from the start. -/
theorem honest_from_start {program : Handler Unit} (only : program.Only (Honest machine.state fd))
    (ran : program.Runs (serverSemantics outcomes) machine () final) :
    DeliversHonestly machine final fd :=
  deliveries_honest (List.append_nil _).symm rfl only ran

/-- Code that looks the receiver up and refuses when it is offline is authentic when the packet is
not forwarded or its sender is logged in. -/
theorem lookup_authentic {next : Except UserResult Int → Handler Unit}
    (refused : ∀ result, next (.error result) =
      sendTextResponse fd .msgError (userResultMessage result))
    (only : (∀ target owner, Honest machine.state fd (.send target packet owner)) →
      (Program.perform (.userGetFd packet.receiverName) next : Handler Unit).Only
        (Honest machine.state fd))
    (wellFormed : machine.state.WellFormed)
    (honest : machine.state.online packet.receiverName = true →
      machine.state.LoggedIn fd packet.senderName)
    (ran : (Program.perform (.userGetFd packet.receiverName) next : Handler Unit).Runs
      (serverSemantics outcomes) machine () final) :
    DeliversHonestly machine final fd := by
  by_cases reaches : machine.state.online packet.receiverName = true
  · exact honest_from_start (only (honest_forward (honest reaches))) ran
  · rw [runs_perform, answer_userGetFd] at ran
    cases found : userStoreGetFd machine.state.users packet.receiverName with
    | ok target =>
      exact absurd ((ServerState.online_iff_getFd wellFormed).mpr ⟨target, found⟩) reaches
    | error result =>
      rw [found, refused] at ran
      exact response_honest rfl rfl rfl ran

/-- `handle_group` is authentic when nobody else is online or its sender is logged in. -/
theorem handleGroup_authentic
    (honest : (∃ user ∈ machine.state.users.users, user.online = true ∧ 0 ≤ user.socketFd ∧
      user.socketFd ≠ fd) → machine.state.LoggedIn fd packet.senderName)
    (ran : (handleGroup fd packet).Runs (serverSemantics outcomes) machine () final) :
    DeliversHonestly machine final fd := by
  by_cases reaches : ∃ user ∈ machine.state.users.users, user.online = true ∧ 0 ≤ user.socketFd ∧
      user.socketFd ≠ fd
  · exact honest_from_start (handleGroup_only honest_of_plain (honest_forward (honest reaches))) ran
  · have nobody : (userStoreSnapshotOnlineFds machine.state.users fd maxOnlineSnapshot).length = 0 :=
      not_not.mp fun some_ => reaches (snapshot_nonempty.mp some_)
    unfold handleGroup at ran
    simp only [perform_bind, done_bind, runs_perform, answer_userSnapshotOnlineFds, nobody,
      ↓reduceIte] at ran
    exact response_honest rfl rfl rfl ran

/-- `handle_group_message` is authentic: the sender is the user of the session. -/
theorem handleGroupMessage_authentic
    (ran : (handleGroupMessage fd packet).Runs (serverSemantics outcomes) machine () final) :
    DeliversHonestly machine final fd := by
  unfold handleGroupMessage at ran
  simp only [perform_bind, done_bind, runs_perform, answer_userUsernameByFd] at ran
  cases found : userStoreUsernameByFd machine.state.users fd with
  | none =>
    rw [found] at ran
    exact response_honest rfl rfl rfl ran
  | some username =>
    rw [found] at ran
    obtain ⟨user, _, named, member, online, here⟩ := usernameByFd_some found
    have short : username.length < usernameMaxLen := named ▸ user.username.fits
    refine deliveries_honest rfl rfl (sendGroupMessageFor_only honest_of_plain ?_) ran
    rintro target message owner _ sender _ _ _ same _
    cases same
    refine ⟨user, member, by simp [User.onlineAt, online, here], ?_⟩
    rw [named, Packet.senderName, sender, ofBytes_copyFixedString short]

/-- Handling a packet relays authentically when the packet is not forwarded or its sender is logged
in on the descriptor. -/
theorem processPacket_authentic (wellFormed : machine.state.WellFormed)
    (honest : Forwarded machine.state fd packet → machine.state.LoggedIn fd packet.senderName)
    (ran : (processPacket fd packet).Runs (serverSemantics outcomes) machine () final) :
    DeliversHonestly machine final fd := by
  unfold Forwarded at honest
  unfold processPacket at ran
  have plain : ∀ op : Operation, op.plain = true → Honest machine.state fd op := honest_of_plain
  split at ran
  · exact honest_from_start (handleRegister_only plain nofun) ran
  · exact honest_from_start (handleLogin_only plain nofun) ran
  · exact honest_from_start (handleOnlineList_only plain fd) ran
  · rename_i type
    rw [type] at honest
    exact lookup_authentic (fun _ => rfl) (handlePrivate_only plain) wellFormed honest ran
  · rename_i type
    rw [type] at honest
    exact handleGroup_authentic honest ran
  · exact honest_from_start
      (handleGroupCreate_only plain honest_of_event fun _ _ => nofun) ran
  · exact honest_from_start (handleGroupList_only plain fd) ran
  · exact handleGroupMessage_authentic ran
  · rename_i type
    rw [type] at honest
    exact lookup_authentic (fun _ => rfl) (handleFilePacket_only plain) wellFormed honest ran
  · rename_i type
    rw [type] at honest
    exact lookup_authentic (fun _ => rfl) (handleFilePacket_only plain) wellFormed honest ran
  · rename_i type
    rw [type] at honest
    exact lookup_authentic (fun _ => rfl) (handleFilePacket_only plain) wellFormed honest ran
  · refine honest_from_start ?_ ran
    simp only [call_bind, done_bind, only_call]
    exact response_only plain rfl
  · exact honest_from_start (response_only plain rfl) ran
  · exact honest_from_start (response_only plain rfl) ran

/-- A packet that was sent successfully is among the deliveries. -/
theorem delivered_mem {start : ServerMachine} {program : Handler Unit} {target : Int}
    {owner : Option CString} {events : List (Event Operation Answer)}
    (prefix_ : start.trace = machine.trace ++ events)
    (success : (outcomes start.trace.length).delivered = true)
    (ran : program.Runs (serverSemantics outcomes)
      (start.after (serverSemantics outcomes) (.send target packet owner)) () final) :
    (target, packet) ∈ deliveries machine final := by
  obtain ⟨later, appended, _⟩ := ran.performed (fun _ => only_true _) (only_true _)
  have whole : final.trace = machine.trace ++ (events ++
      [⟨.send target packet owner, (outcomes start.trace.length).delivered⟩] ++ later) := by
    rw [appended, ← List.append_assoc, ← List.append_assoc, ← prefix_]
    rfl
  rw [deliveries_eq whole, success]
  simp [delivery]

/-- When every send succeeds, a forwarded packet is delivered as it came. -/
theorem processPacket_forwards (wellFormed : machine.state.WellFormed)
    (success : ∀ turn, (outcomes turn).delivered = true)
    (forwarded : Forwarded machine.state fd packet)
    (ran : (processPacket fd packet).Runs (serverSemantics outcomes) machine () final) :
    packet.relayed = true ∧ ∃ target, (target, packet) ∈ deliveries machine final := by
  have lookup : ∀ {next : Except UserResult Int → Handler Unit},
      machine.state.online packet.receiverName = true →
      (∀ target, ∃ rest, next (.ok target) =
        .perform (.send target packet (some packet.receiverName)) rest) →
      (Program.perform (.userGetFd packet.receiverName) next : Handler Unit).Runs
        (serverSemantics outcomes) machine () final →
      ∃ target, (target, packet) ∈ deliveries machine final := by
    intro next online sends ran
    obtain ⟨target, found⟩ := (ServerState.online_iff_getFd wellFormed).mp online
    obtain ⟨rest, shape⟩ := sends target
    rw [runs_perform, answer_userGetFd, found, shape, runs_perform] at ran
    exact ⟨target, delivered_mem rfl (success _) ran⟩
  unfold Forwarded at forwarded
  unfold processPacket at ran
  unfold Packet.relayed
  split at forwarded
  · rename_i type
    rw [type] at ran ⊢
    exact ⟨rfl, lookup forwarded (fun _ => ⟨_, rfl⟩) ran⟩
  · rename_i type
    rw [type] at ran ⊢
    exact ⟨rfl, lookup forwarded (fun _ => ⟨_, rfl⟩) ran⟩
  · rename_i type
    rw [type] at ran ⊢
    exact ⟨rfl, lookup forwarded (fun _ => ⟨_, rfl⟩) ran⟩
  · rename_i type
    rw [type] at ran ⊢
    exact ⟨rfl, lookup forwarded (fun _ => ⟨_, rfl⟩) ran⟩
  · rename_i type
    rw [type] at ran ⊢
    have somebody := snapshot_nonempty.mpr forwarded
    refine ⟨rfl, ?_⟩
    unfold handleGroup at ran
    simp only [perform_bind, done_bind, runs_perform, answer_userSnapshotOnlineFds, somebody,
      ↓reduceIte] at ran
    cases fds : userStoreSnapshotOnlineFds machine.state.users fd maxOnlineSnapshot with
    | nil => exact absurd (by rw [fds]; rfl) somebody
    | cons entry rest =>
      rw [fds, broadcast] at ran
      simp only [perform_bind, done_bind, runs_perform] at ran
      exact ⟨entry.2, delivered_mem rfl (success _) ran⟩
  · contradiction

/-- In a reachable state, handling a packet relays authentically exactly when the packet is not
forwarded or its sender field names a user logged in on the connection. -/
theorem relaysAuthentically_iff (reached : ServerReachable outcomes machine) (fd : Int)
    (packet : Packet) : RelaysAuthentically machine fd packet ↔
      (Forwarded machine.state fd packet → machine.state.LoggedIn fd packet.senderName) := by
  have wellFormed := serverReachable_wellFormed reached
  constructor
  · intro authentic forwarded
    -- An environment in which every send succeeds shows the forwarded packet.
    obtain ⟨⟨⟩, final, ran⟩ := handler_returns (fun _ => ⟨true, true, true, none, .completed⟩)
      (processPacket fd packet) wellFormed
    obtain ⟨relayed, target, delivered⟩ :=
      processPacket_forwards wellFormed (fun _ => rfl) forwarded ran
    exact authentic _ final ran (target, packet) delivered relayed
  · intro honest outcomes' final ran
    exact processPacket_authentic wellFormed honest ran

end

section

attribute [local instance] sampleDigest

/-- One user joins, and a second connection is opened on which nobody logs in. -/
def stranger : List Input := joining 5 (CString.ofString "ann") ++ [.connect 6]

/-- The run returns. -/
theorem stranger_returns : (serveAll (failingAt []) 0 freshServer stranger).isSome := by
  decide

/-- The state that is reached. -/
def strangerMachine : ServerMachine :=
  (serveAll (failingAt []) 0 freshServer stranger).get stranger_returns

/-- A message that names a user who is not there as its sender. -/
def forgedRequest : Packet :=
  privateRequest (CString.ofString "ben") (CString.ofString "ann")

/-- The condition decides for a message on a connection without a session. -/
theorem relaysAuthentically_iff_stranger :
    RelaysAuthentically strangerMachine 6 forgedRequest ↔
      (Forwarded strangerMachine.state 6 forgedRequest →
        strangerMachine.state.LoggedIn 6 forgedRequest.senderName) :=
  relaysAuthentically_iff (sample_reachable stranger_returns) 6 forgedRequest

/-- A connection on which nobody is logged in has a message delivered under a name of its choice. -/
theorem relaysAuthentically_stranger : ¬ ∀ [Sha256] (outcomes : Nat → Outcome)
    (machine : ServerMachine) (fd : Int) (packet : Packet), ServerReachable outcomes machine →
      (machine.state.connectionAt fd).isSome → RelaysAuthentically machine fd packet := by
  intro claim
  have reached : ServerReachable (failingAt []) strangerMachine := sample_reachable stranger_returns
  have authentic := claim (failingAt []) strangerMachine 6 forgedRequest reached (by decide)
  have wellFormed := serverReachable_wellFormed reached
  obtain ⟨⟨⟩, final, ran⟩ := handler_returns (failingAt []) (processPacket 6 forgedRequest) wellFormed
  have type : MessageType.ofCode? forgedRequest.type = some .msgPrivate := by decide
  have forwarded : Forwarded strangerMachine.state 6 forgedRequest := by
    rw [Forwarded, type]
    decide
  obtain ⟨relayed, target, delivered⟩ :=
    processPacket_forwards wellFormed (fun _ => rfl) forwarded ran
  obtain ⟨user, member, here, _⟩ := authentic _ final ran (target, forgedRequest) delivered relayed
  have nobody : ∀ user ∈ strangerMachine.state.users.users, user.onlineAt 6 = false := by
    decide
  rw [nobody user member] at here
  contradiction

end

end MultiUserChat
