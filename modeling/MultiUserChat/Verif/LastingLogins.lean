import MultiUserChat.Verif.Answers
/-!
# How long a login lasts

Only `user_store_logout_fd` ends a login, only `cleanup_offline_fd` calls it, and a handler calls that
for another connection than its own only after a failed send to it (`processPacket_justified`). So a
user stays logged in on a connection until it logs out there, its connection ends, or a send to it
fails (`Served.keeps`). A login that is answered by `MSG_OK` was accepted (`Served.enters`).
-/

namespace MultiUserChat

open Program

/-- The logout of a descriptor belongs to the cleanup of it. -/
def Procedure.Owns (target : Procedure) : Operation → Prop
  | .userLogoutFd fd => target = .cleanup fd
  | _ => False

/-- A send that fails permits the cleanup of its descriptor. -/
def FailedSend : (op : Operation) → Answer op → Procedure → Prop
  | .send fd _ _, delivered, target => delivered = false ∧ target = .cleanup fd
  | _, _, _ => False

/-- A text that cleans up only what was granted, and behind failed sends. -/
abbrev Justified {α : Type} (granted : Procedure → Prop) (program : Handler α) : Prop :=
  program.Permitted Procedure.Owns FailedSend granted

/-! ## The parts of the handlers -/

section

variable {granted : Procedure → Prop}

/-- A text response cleans up nothing. -/
theorem sendTextResponse_justified {fd : Int} {type : MessageType} {message : CString} :
    Justified granted (sendTextResponse fd type message) := by
  unfold sendTextResponse
  split
  · trivial
  · exact ⟨fun _ => False.elim, fun _ => trivial⟩

/-- A packet that is not sent is followed by a cleanup of its receiver. -/
theorem send_justified {fd : Int} {packet : Packet} {target : Option CString} {α : Type}
    {sent unsent : Handler α} (delivers : ∀ granted, Justified granted sent)
    (fails : ∀ granted, Justified granted unsent) :
    Justified granted (Program.perform (.send fd packet target) fun delivered =>
      if delivered = true then sent else Program.call (.cleanup fd) unsent) := by
  refine ⟨fun _ => False.elim, fun delivered => ?_⟩
  cases delivered with
  | false => exact ⟨.inr ⟨rfl, rfl⟩, fails _⟩
  | true => exact delivers _

/-- A payload that is not sent is followed by a cleanup. -/
theorem sendGroupPayloadToFd_justified {target : CString} {fd : Int} {type : MessageType}
    {sender receiver : CString} {payload : GroupPayload} :
    Justified granted (sendGroupPayloadToFd target fd type sender receiver payload) := by
  unfold sendGroupPayloadToFd
  split
  · rename_i refused
    have accepted : (packetInit type.code sender receiver payload.data).isSome :=
      packetInit_isSome.mpr payload.length_le
    rw [refused] at accepted
    contradiction
  · exact send_justified (fun _ => trivial) fun _ => trivial

/-- The fan-out cleans up behind failed sends. -/
theorem sendToMembers_justified {type : MessageType} {sender receiver : CString}
    {payload : GroupPayload} (members : List CString) :
    Justified granted (sendToMembers type sender receiver payload members) := by
  induction members generalizing granted with
  | nil => trivial
  | cons member members ih =>
    refine ⟨fun _ => False.elim, fun answer => ?_⟩
    cases answer with
    | error result => exact ih
    | ok fd => exact sendGroupPayloadToFd_justified.bind fun _ => ih

/-- An event push cleans up behind failed sends. -/
theorem pushGroupEvent_justified (event : CString) (snapshot : GroupSnapshot) :
    Justified granted (pushGroupEvent event snapshot) := by
  unfold pushGroupEvent
  split
  · exact sendToMembers_justified _
  · trivial

/-- Announcing changes cleans up behind failed sends. -/
theorem pushChanges_justified (changes : List GroupChange) :
    Justified granted (pushChanges changes) := by
  induction changes generalizing granted with
  | nil => trivial
  | cons change changes ih => exact (pushGroupEvent_justified _ _).bind fun _ => ih

/-- A broadcast cleans up behind failed sends. -/
theorem broadcast_justified {packet : Packet} (fds : List (CString × Int)) :
    Justified granted (broadcast packet fds) := by
  induction fds generalizing granted with
  | nil => trivial
  | cons entry fds ih =>
    refine ⟨fun _ => False.elim, fun delivered => ?_⟩
    cases delivered with
    | false => exact ⟨.inr ⟨rfl, rfl⟩, ih⟩
    | true => exact ih

/-- A cleanup that was granted logs its descriptor out. -/
theorem cleanupOfflineFd_justified {fd : Int} (own : granted (.cleanup fd)) :
    Justified granted (cleanupOfflineFd fd) := by
  rw [cleanupOfflineFd_eq]
  refine ⟨fun _ => False.elim, fun found => ?_⟩
  cases found with
  | none =>
    refine ⟨?_, fun _ => trivial⟩
    rintro target rfl
    exact .inl own
  | some name =>
    refine ⟨fun _ => False.elim, fun changes => ⟨?_, fun _ => pushChanges_justified changes⟩⟩
    rintro target rfl
    exact .inl (.inl own)

/-! ## The handlers -/

variable {fd : Int} {packet : Packet}

/-- A registration cleans up nothing. -/
theorem handleRegister_justified : Justified granted (handleRegister fd packet) := by
  unfold handleRegister
  simp only [perform_bind, done_bind]
  refine ⟨fun _ => False.elim, fun result => ?_⟩
  dsimp only
  split
  · exact sendTextResponse_justified
  · exact sendTextResponse_justified

/-- A login cleans up nothing. -/
theorem handleLogin_justified : Justified granted (handleLogin fd packet) := by
  unfold handleLogin
  simp only [perform_bind, done_bind]
  refine ⟨fun _ => False.elim, fun result => ?_⟩
  dsimp only
  split
  · exact sendTextResponse_justified
  · exact sendTextResponse_justified

/-- An online list request cleans up nothing. -/
theorem handleOnlineList_justified : Justified granted (handleOnlineList fd) := by
  unfold handleOnlineList
  simp only [perform_bind, done_bind]
  refine ⟨fun _ => False.elim, fun result => ?_⟩
  dsimp only
  split
  · exact sendTextResponse_justified
  · exact sendTextResponse_justified

/-- A private message cleans up its receiver when it is not sent. -/
theorem handlePrivate_justified : Justified granted (handlePrivate fd packet) := by
  unfold handlePrivate
  simp only [perform_bind, call_bind, done_bind]
  refine ⟨fun _ => False.elim, fun answer => ?_⟩
  dsimp only
  split
  · exact sendTextResponse_justified
  · exact send_justified (fun _ => sendTextResponse_justified) fun _ => sendTextResponse_justified

/-- A file packet cleans up its receiver when it is not sent. -/
theorem handleFilePacket_justified : Justified granted (handleFilePacket fd packet) := by
  unfold handleFilePacket
  simp only [perform_bind, call_bind, done_bind]
  refine ⟨fun _ => False.elim, fun answer => ?_⟩
  dsimp only
  split
  · exact sendTextResponse_justified
  refine send_justified (fun _ => ?_) fun _ => sendTextResponse_justified
  split
  · exact sendTextResponse_justified
  · trivial

/-- A public message cleans up behind failed sends. -/
theorem handleGroup_justified : Justified granted (handleGroup fd packet) := by
  unfold handleGroup
  simp only [perform_bind, done_bind]
  refine ⟨fun _ => False.elim, fun fds => ?_⟩
  dsimp only
  split
  · exact sendTextResponse_justified
  · exact (broadcast_justified fds).bind fun _ => sendTextResponse_justified

/-- Checking the members of a new group cleans up nothing. -/
theorem checkMembers_justified {username : CString} (members : List CString) (flag : Bool) :
    Justified granted (checkMembers fd username members flag) := by
  induction members generalizing granted flag with
  | nil => trivial
  | cons member members ih =>
    refine ⟨fun _ => False.elim, fun answer => ?_⟩
    cases answer with
    | ok fd => exact ih _
    | error result => exact sendTextResponse_justified.bind fun _ => trivial

/-- The creation of a group for a user cleans up behind failed sends. -/
theorem createGroupFor_justified {username : CString} :
    Justified granted (createGroupFor fd packet username) := by
  unfold createGroupFor
  split
  · split
    · exact sendTextResponse_justified
    refine (checkMembers_justified _ _).bind fun checked => ?_
    split
    · trivial
    · exact sendTextResponse_justified
    simp only [perform_bind, done_bind]
    refine ⟨fun _ => False.elim, fun created => ?_⟩
    dsimp only
    split
    · exact sendTextResponse_justified
    · exact (pushGroupEvent_justified _ _).bind fun _ => sendTextResponse_justified
  · exact sendTextResponse_justified

/-- The creation of a group cleans up behind failed sends. -/
theorem handleGroupCreate_justified : Justified granted (handleGroupCreate fd packet) := by
  unfold handleGroupCreate
  simp only [perform_bind, done_bind]
  refine ⟨fun _ => False.elim, fun answer => ?_⟩
  dsimp only
  split
  · exact sendTextResponse_justified
  · exact createGroupFor_justified

/-- A group list that is not sent is followed by a cleanup. -/
theorem handleGroupList_justified : Justified granted (handleGroupList fd) := by
  unfold handleGroupList
  simp only [perform_bind, done_bind]
  refine ⟨fun _ => False.elim, fun answer => ?_⟩
  dsimp only
  split
  · exact sendTextResponse_justified
  refine ⟨fun _ => False.elim, fun list => ?_⟩
  dsimp only
  split
  · exact sendTextResponse_justified
  rename_i username _ payload
  split
  · rename_i refused
    have accepted : (packetInit MessageType.msgGroupList.code serverName username
      payload.data).isSome := packetInit_isSome.mpr payload.length_le
    rw [refused] at accepted
    contradiction
  · exact send_justified (fun _ => trivial) fun _ => trivial

/-- A group message for a user cleans up behind failed sends. -/
theorem sendGroupMessageFor_justified {username : CString} :
    Justified granted (sendGroupMessageFor fd packet username) := by
  unfold sendGroupMessageFor
  split
  · exact sendTextResponse_justified
  split
  · exact sendTextResponse_justified
  simp only [perform_bind, done_bind]
  refine ⟨fun _ => False.elim, fun group => ?_⟩
  dsimp only
  split
  · exact sendTextResponse_justified
  split
  · exact sendTextResponse_justified
  split
  · exact (sendToMembers_justified _).bind fun _ => sendTextResponse_justified
  · exact sendTextResponse_justified

/-- A group message cleans up behind failed sends. -/
theorem handleGroupMessage_justified : Justified granted (handleGroupMessage fd packet) := by
  unfold handleGroupMessage
  simp only [perform_bind, done_bind]
  refine ⟨fun _ => False.elim, fun answer => ?_⟩
  dsimp only
  split
  · exact sendTextResponse_justified
  · exact sendGroupMessageFor_justified

/-- A packet is handled with cleanups of its own connection for a logout, and of other ones behind
failed sends. -/
theorem processPacket_justified : Justified
    (fun target => target = .cleanup fd ∧ packet.type = MessageType.msgLogout.code)
    (processPacket fd packet) := by
  unfold processPacket
  cases selected : MessageType.ofCode? packet.type with
  | none => exact sendTextResponse_justified
  | some type =>
    cases type with
    | msgRegister => exact handleRegister_justified
    | msgLogin => exact handleLogin_justified
    | msgOnlineList => exact handleOnlineList_justified
    | msgPrivate => exact handlePrivate_justified
    | msgGroup => exact handleGroup_justified
    | msgGroupCreate => exact handleGroupCreate_justified
    | msgGroupList => exact handleGroupList_justified
    | msgGroupMessage => exact handleGroupMessage_justified
    | msgFileBegin => exact handleFilePacket_justified
    | msgFileChunk => exact handleFilePacket_justified
    | msgFileEnd => exact handleFilePacket_justified
    | msgLogout =>
      simp only [call_bind, done_bind]
      exact ⟨⟨rfl, (MessageType.code_of_ofCode? selected).symm⟩, sendTextResponse_justified⟩
    | _ => exact sendTextResponse_justified

end

/-! ## Runs -/

section

variable [Sha256] {outcomes : Nat → Outcome}

/-- A cleanup may log its descriptor out. -/
theorem bodies_justified (target : Procedure) :
    Justified (· = target) ((serverSemantics outcomes).body target) := by
  cases target with
  | cleanup fd => exact cleanupOfflineFd_justified rfl

/-- A login lasts until its descriptor is logged out. -/
theorem runs_loggedIn {α : Type} {program : Handler α} {machine final : ServerMachine} {value : α}
    {fd : Int} {name : CString}
    (ran : program.Runs (serverSemantics outcomes) machine value final)
    (wellFormed : machine.state.WellFormed) (here : machine.state.LoggedIn fd name) :
    final.state.LoggedIn fd name ∨
      ∃ event ∈ final.trace.drop machine.trace.length, event.op = .userLogoutFd fd := by
  have relation := ran.relate (fun first second => ∃ events : List (Event Operation Answer),
    second.trace = first.trace ++ events ∧ (first.state.WellFormed → second.state.WellFormed ∧
      (first.state.LoggedIn fd name → second.state.LoggedIn fd name ∨
        ∃ event ∈ events, event.op = .userLogoutFd fd)))
    (fun machine => ⟨[], by simp, fun sound => ⟨sound, .inl⟩⟩) ?_ ?_ (fun _ => only_true _)
    (only_true _)
  · obtain ⟨events, whole, keeps⟩ := relation
    rw [whole, List.drop_left]
    exact (keeps wellFormed).2 here
  · rintro first second third ⟨early, earlyEq, before⟩ ⟨late, lateEq, after⟩
    refine ⟨early ++ late, by rw [lateEq, earlyEq, List.append_assoc], fun sound => ?_⟩
    obtain ⟨middle, first⟩ := before sound
    obtain ⟨last, second⟩ := after middle
    refine ⟨last, fun entered => ?_⟩
    rcases first entered with stays | ⟨event, member, left⟩
    · refine (second stays).imp_right fun ⟨event, member, left⟩ => ?_
      exact ⟨event, List.mem_append_right _ member, left⟩
    · exact .inr ⟨event, List.mem_append_left _ member, left⟩
  · intro op machine _
    refine ⟨[⟨op, machine.answer (serverSemantics outcomes) op⟩], rfl, fun sound => ?_⟩
    refine ⟨perform_wellFormed sound _ op, fun entered => ?_⟩
    refine (perform_loggedIn sound entered (outcomes machine.trace.length) op).imp_right ?_
    rintro ⟨left, _⟩
    exact ⟨_, List.mem_singleton_self _, left⟩

/-- A send to the descriptor has failed. -/
def FailsTo (fd : Int) (event : Event Operation Answer) : Prop :=
  ∃ packet target, event = ⟨.send fd packet target, false⟩

/-- A login lasts across a program that may not clean its connection up, when no send to it fails. -/
theorem justified_loggedIn {granted : Procedure → Prop} {α : Type} {program : Handler α}
    {machine final : ServerMachine} {value : α} {fd : Int} {name : CString}
    (justified : Justified granted program) (other : ¬granted (.cleanup fd))
    (ran : program.Runs (serverSemantics outcomes) machine value final)
    (wellFormed : machine.state.WellFormed) (here : machine.state.LoggedIn fd name) :
    final.state.LoggedIn fd name ∨
      ∃ event ∈ final.trace.drop machine.trace.length, FailsTo fd event := by
  refine (runs_loggedIn ran wellFormed here).imp_right ?_
  rintro ⟨⟨op, answer⟩, member, rfl⟩
  obtain ⟨events, whole, explained⟩ := ran.explained bodies_justified justified
  rw [whole, List.drop_left] at member ⊢
  rcases explained _ member (.cleanup fd) rfl with own | ⟨⟨op, answer⟩, found, gave⟩
  · exact absurd own other
  · cases op with
    | send target packet owner =>
      obtain ⟨failed, same⟩ := gave
      cases same
      cases failed
      exact ⟨_, found, packet, owner, rfl⟩
    | _ => exact gave.elim

/-- A user who is logged in on a connection stays so, unless it logs out there, its connection ends,
or a send to it fails. -/
theorem Served.keeps {machine machine' : ServerMachine} {input : Input}
    (served : Served outcomes machine input machine') (wellFormed : machine.state.WellFormed)
    {fd : Int} {name : CString} (here : machine.state.LoggedIn fd name)
    (stays : input ≠ .disconnect fd)
    (remains : ∀ packet, input = .packet fd packet → packet.type ≠ MessageType.msgLogout.code) :
    machine'.state.LoggedIn fd name ∨
      ∃ event ∈ machine'.trace.drop machine.trace.length, FailsTo fd event := by
  cases input with
  | connect target =>
    obtain ⟨_, _, rfl⟩ := served_connect.mp served
    exact .inl here
  | packet target packet =>
    refine justified_loggedIn processPacket_justified ?_ (served_packet.mp served).2 wellFormed here
    rintro ⟨same, logout⟩
    cases same
    exact remains packet rfl logout
  | disconnect target =>
    have justified : Justified (· = .cleanup target) (clientExit target) :=
      ⟨rfl, fun _ => False.elim, fun _ => trivial⟩
    refine justified_loggedIn justified ?_ (served_disconnect.mp served).2 wellFormed here
    intro same
    cases same
    exact stays rfl

/-- A login that is accepted logs its user in. -/
theorem perform_login_loggedIn {outcome : Outcome} {state : ServerState}
    (wellFormed : state.WellFormed) {username password : CString} {fd : Int}
    (accepted : (perform outcome (.userLogin username password fd) state).1 = .ok) :
    (perform outcome (.userLogin username password fd) state).2.LoggedIn fd username := by
  rcases wellFormed.users.login outcome.digested username password fd with
    ⟨refused, _⟩ | ⟨_, _, ⟨user, member, named, _⟩, users⟩
  · exact absurd accepted refused
  · have entered : UserStore.loggedIn fd user ∈
        (userStoreLogin outcome.digested state.users username password fd).2.users := by
      rw [users]
      exact List.mem_map.mpr ⟨user, member, if_pos named⟩
    exact ⟨_, entered, decide_eq_true rfl, named⟩

/-- A text response sends one packet of its type, or nothing, and changes nothing. -/
theorem sendTextResponse_runs {machine final : ServerMachine} {fd : Int} {type : MessageType}
    {message : CString}
    (ran : (sendTextResponse fd type message).Runs (serverSemantics outcomes) machine () final) :
    final.state = machine.state ∧ ∃ events, final.trace = machine.trace ++ events ∧
      ∀ event ∈ events, ∃ packet, event.op = .send fd packet none ∧ packet.type = type.code := by
  unfold sendTextResponse at ran
  split at ran
  · obtain ⟨_, rfl⟩ := (runs_done _ _ _ _ _).mp ran
    exact ⟨rfl, [], by simp, by simp⟩
  · rename_i packet built
    unfold packetSetText at built
    split at built
    · contradiction
    · simp only [perform_bind, done_bind, pure_eq, runs_perform, runs_done] at ran
      obtain ⟨_, rfl⟩ := ran
      refine ⟨rfl, _, rfl, fun event member => ?_⟩
      rw [List.mem_singleton.mp member]
      exact ⟨packet, rfl, (packetInit_eq built).1⟩

/-- When `MSG_OK` is sent to a connection whose login is handled, its user is logged in there. -/
theorem Served.enters {machine machine' : ServerMachine} {fd : Int} {packet : Packet}
    (served : Served outcomes machine (.packet fd packet) machine')
    (wellFormed : machine.state.WellFormed) (login : packet.type = MessageType.msgLogin.code)
    {reply : Packet} {target : Option CString} {delivered : Bool}
    (sent : ⟨.send fd reply target, delivered⟩ ∈ machine'.trace.drop machine.trace.length)
    (ok : reply.type = MessageType.msgOk.code) :
    machine'.state.LoggedIn fd packet.senderName := by
  obtain ⟨_, ran⟩ := served_packet.mp served
  have handled : processPacket fd packet = handleLogin fd packet := by
    rw [processPacket, login, MessageType.ofCode?_code]
  rw [handled] at ran
  unfold handleLogin at ran
  simp only [perform_bind, done_bind, runs_perform] at ran
  split at ran
  · rename_i accepted
    obtain ⟨same, _⟩ := sendTextResponse_runs ran
    rw [same]
    exact perform_login_loggedIn wellFormed accepted
  · -- A login that is refused is answered by `MSG_ERROR`.
    obtain ⟨_, events, whole, errors⟩ := sendTextResponse_runs ran
    rw [whole, Machine.after, List.append_assoc, List.drop_left, List.singleton_append] at sent
    rcases List.mem_cons.mp sent with impossible | later
    · cases impossible
    · obtain ⟨_, same, error⟩ := errors _ later
      cases same
      rw [ok] at error
      contradiction

end

end MultiUserChat
