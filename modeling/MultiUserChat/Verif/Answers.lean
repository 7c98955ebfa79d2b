import MultiUserChat.Library.ProgramText
import MultiUserChat.Verif.Delivery
/-!
# The replies of the server

`MSG_OK` and `MSG_ERROR` are only ever sent to the connection whose packet is being handled. Most
packets are answered by exactly one of them. An online list or a group list is answered by one of
them only when it fails, and a file header or chunk only when it cannot be forwarded
(`processPacket_replies`). No other operation of the server sends either.
-/

namespace MultiUserChat

open Program

/-- `MSG_OK` or `MSG_ERROR`. -/
def MessageType.reply : MessageType → Bool
  | .msgOk | .msgError => true
  | _ => false

/-- The packet is `MSG_OK` or `MSG_ERROR`. -/
def Packet.reply (packet : Packet) : Bool := (MessageType.ofCode? packet.type).any (·.reply)

/-- Types of packets that are always answered by a reply. -/
def MessageType.replied : MessageType → Bool
  | .msgOnlineList | .msgGroupList | .msgFileBegin | .msgFileChunk => false
  | _ => true

/-- The packet is always answered by a reply. -/
def Packet.replied (packet : Packet) : Bool := (MessageType.ofCode? packet.type).all (·.replied)

/-- A packet of a type is a reply when the type is. -/
theorem Packet.reply_of_type {packet : Packet} {type : MessageType}
    (same : packet.type = type.code) : packet.reply = type.reply := by
  rw [Packet.reply, same, MessageType.ofCode?_code, Option.any_some]

/-- A reply is sent. -/
def Operation.Replies (op : Operation) : Prop :=
  ∃ fd packet target, op = .send fd packet target ∧ packet.reply = true

/-- A reply is sent to a descriptor. -/
def Operation.RepliesTo (fd : Int) (op : Operation) : Prop :=
  ∃ packet, op = .send fd packet none ∧ packet.reply = true

/-- A packet that is no reply may be sent to anybody. -/
theorem send_not_replies {fd : Int} {packet : Packet} {target : Option CString}
    (other : packet.reply = false) : ¬(Operation.send fd packet target).Replies := by
  rintro ⟨_, _, _, same, reply⟩
  cases same
  rw [other] at reply
  contradiction

/-- An operation that is no send sends no reply. -/
theorem not_replies {op : Operation} (other : ∀ fd packet target, op ≠ .send fd packet target) :
    ¬op.Replies := fun ⟨fd, packet, target, same, _⟩ => other fd packet target same

/-- A text that sends at most one reply, to the descriptor, and exactly one if it must. -/
abbrev RepliesOnce {α : Type} (fd : Int) (must : Prop) (program : Handler α) : Prop :=
  program.Once Operation.Replies (Operation.RepliesTo fd) must

/-- A text that sends no reply. -/
abbrev NoReply {α : Type} (program : Handler α) : Prop := program.Only fun op => ¬op.Replies

/-! ## The parts of the handlers -/

/-- A text response of a reply type is one reply, when its message fits. -/
theorem sendTextResponse_once {fd : Int} {type : MessageType} {message : CString} {must : Prop}
    (reply : type.reply = true) (short : must → message.length + 1 ≤ packetDataMax) :
    RepliesOnce fd must (sendTextResponse fd type message) := by
  unfold sendTextResponse
  split
  · rename_i refused
    intro needed
    have fits : message.terminated.length ≤ packetDataMax := by
      rw [CString.terminated_length]
      exact short needed
    have accepted : (packetInit type.code serverName CString.empty message.terminated).isSome :=
      packetInit_isSome.mpr fits
    rw [packetSetText, if_neg (Nat.not_lt.mpr (short needed))] at refused
    rw [refused] at accepted
    contradiction
  · rename_i packet built
    unfold packetSetText at built
    split at built
    · contradiction
    · refine .inl ⟨⟨packet, rfl, ?_⟩, fun _ => trivial⟩
      rw [Packet.reply_of_type (packetInit_eq built).1, reply]

/-- A text response of another type is no reply. -/
theorem sendTextResponse_noReply {fd : Int} {type : MessageType} {message : CString}
    (other : type.reply = false) : NoReply (sendTextResponse fd type message) :=
  sendTextResponse_only fun _ same => send_not_replies ((Packet.reply_of_type same).trans other)

/-- The fan-out of a type that is no reply sends none. -/
theorem sendToMembers_noReply {type : MessageType} {sender receiver : CString}
    {payload : GroupPayload} (other : type.reply = false) (members : List CString) :
    NoReply (sendToMembers type sender receiver payload members) :=
  sendToMembers_only (fun _ => not_replies (by simp))
    (fun _ _ _ built =>
      send_not_replies ((Packet.reply_of_type (packetInit_eq built).1).trans other)) members

/-- An event push sends no reply. -/
theorem pushGroupEvent_noReply (event : CString) (snapshot : GroupSnapshot) :
    NoReply (pushGroupEvent event snapshot) :=
  pushGroupEvent_only (fun _ => not_replies (by simp))
    (fun _ _ _ same => send_not_replies (Packet.reply_of_type same)) event snapshot

/-- A cleanup sends no reply. -/
theorem cleanupOfflineFd_noReply (fd : Int) : NoReply (cleanupOfflineFd fd) := by
  unfold cleanupOfflineFd
  simp only [perform_bind, done_bind, only_perform]
  refine ⟨not_replies (by simp), fun found => ?_⟩
  cases found with
  | none => exact ⟨not_replies (by simp), fun _ => trivial⟩
  | some name =>
    exact ⟨not_replies (by simp), fun changes => ⟨not_replies (by simp), fun _ =>
      pushChanges_only (fun _ => not_replies (by simp))
        (fun _ _ _ same => send_not_replies (Packet.reply_of_type same)) _⟩⟩

/-- The check of the members of a new group replies when it refuses. -/
theorem checkMembers_once {fd : Int} {username : CString} {must : Prop} {α : Type}
    {rest : Option Bool → Handler α} (accepted : ∀ flag, RepliesOnce fd must (rest (some flag)))
    (refused : NoReply (rest none)) (members : List CString) (flag : Bool) :
    RepliesOnce fd must (checkMembers fd username members flag >>= rest) := by
  induction members generalizing flag with
  | nil => exact accepted flag
  | cons member members ih =>
    refine .inr ⟨not_replies (by simp), fun answer => ?_⟩
    cases answer with
    | ok fd => exact ih _
    | error result =>
      change RepliesOnce fd must ((sendTextResponse fd .msgError _ >>= fun _ => pure none) >>= rest)
      rw [LawfulMonad.bind_assoc]
      exact (sendTextResponse_once rfl fun _ => by decide).bind fun _ => refused

/-! ## The handlers -/

section

variable {fd : Int} {packet : Packet}

/-- A registration replies once. -/
theorem handleRegister_once : RepliesOnce fd True (handleRegister fd packet) := by
  unfold handleRegister
  simp only [perform_bind, done_bind]
  refine .inr ⟨not_replies (by simp), fun result => ?_⟩
  dsimp only
  split
  · exact sendTextResponse_once rfl fun _ => by decide
  · exact sendTextResponse_once rfl fun _ => userResultMessage_short result

/-- A login replies once. -/
theorem handleLogin_once : RepliesOnce fd True (handleLogin fd packet) := by
  unfold handleLogin
  simp only [perform_bind, done_bind]
  refine .inr ⟨not_replies (by simp), fun result => ?_⟩
  dsimp only
  split
  · exact sendTextResponse_once rfl fun _ => by decide
  · exact sendTextResponse_once rfl fun _ => userResultMessage_short result

/-- An online list request replies when it fails. -/
theorem handleOnlineList_once : RepliesOnce fd False (handleOnlineList fd) := by
  unfold handleOnlineList
  simp only [perform_bind, done_bind]
  refine .inr ⟨not_replies (by simp), fun answer => ?_⟩
  dsimp only
  split
  · exact (sendTextResponse_noReply rfl).once id
  · exact sendTextResponse_once rfl False.elim

/-- A private message replies once. -/
theorem handlePrivate_once (other : packet.reply = false) :
    RepliesOnce fd True (handlePrivate fd packet) := by
  unfold handlePrivate
  simp only [perform_bind, done_bind]
  refine .inr ⟨not_replies (by simp), fun answer => ?_⟩
  dsimp only
  split
  · exact sendTextResponse_once rfl fun _ => userResultMessage_short _
  · refine .inr ⟨send_not_replies other, fun delivered => ?_⟩
    dsimp only
    split
    · exact sendTextResponse_once rfl fun _ => by decide
    · simp only [call_bind, done_bind]
      exact sendTextResponse_once rfl fun _ => by decide

/-- A public message replies once. -/
theorem handleGroup_once (other : packet.reply = false) :
    RepliesOnce fd True (handleGroup fd packet) := by
  unfold handleGroup
  simp only [perform_bind, done_bind]
  refine .inr ⟨not_replies (by simp), fun fds => ?_⟩
  dsimp only
  split
  · exact sendTextResponse_once rfl fun _ => by decide
  · exact Only.once_bind (broadcast_only (fun _ _ => send_not_replies other) fds) fun _ =>
      sendTextResponse_once rfl fun _ => by decide

/-- The creation of a group for a user replies once. -/
theorem createGroupFor_once {username : CString} :
    RepliesOnce fd True (createGroupFor fd packet username) := by
  unfold createGroupFor
  split
  · split
    · exact sendTextResponse_once rfl fun _ => by decide
    refine checkMembers_once (fun flag => ?_) ?_ _ _
    · cases flag with
      | false => exact sendTextResponse_once rfl fun _ => by decide
      | true =>
        simp only [perform_bind, done_bind]
        refine .inr ⟨not_replies (by simp), fun created => ?_⟩
        dsimp only
        split
        · exact sendTextResponse_once rfl fun _ => groupResultMessage_short _
        · exact (pushGroupEvent_noReply _ _).once_bind fun _ =>
            sendTextResponse_once rfl fun _ => by decide
    · trivial
  · exact sendTextResponse_once rfl fun _ => by decide

/-- The creation of a group replies once. -/
theorem handleGroupCreate_once : RepliesOnce fd True (handleGroupCreate fd packet) := by
  unfold handleGroupCreate
  simp only [perform_bind, done_bind]
  refine .inr ⟨not_replies (by simp), fun answer => ?_⟩
  dsimp only
  split
  · exact sendTextResponse_once rfl fun _ => by decide
  · exact createGroupFor_once

/-- A group list request replies when it fails. -/
theorem handleGroupList_once : RepliesOnce fd False (handleGroupList fd) := by
  unfold handleGroupList
  simp only [perform_bind, done_bind]
  refine .inr ⟨not_replies (by simp), fun answer => ?_⟩
  dsimp only
  split
  · exact sendTextResponse_once rfl False.elim
  refine .inr ⟨not_replies (by simp), fun list => ?_⟩
  dsimp only
  split
  · exact sendTextResponse_once rfl False.elim
  split
  · exact id
  · rename_i built
    have other := Packet.reply_of_type (packetInit_eq built).1
    refine .inr ⟨send_not_replies other, fun delivered => ?_⟩
    dsimp only
    split <;> exact id

/-- A group message for a user replies once. -/
theorem sendGroupMessageFor_once {username : CString} :
    RepliesOnce fd True (sendGroupMessageFor fd packet username) := by
  unfold sendGroupMessageFor
  split
  · exact sendTextResponse_once rfl fun _ => by decide
  split
  · exact sendTextResponse_once rfl fun _ => by decide
  simp only [perform_bind, done_bind]
  refine .inr ⟨not_replies (by simp), fun group => ?_⟩
  dsimp only
  split
  · exact sendTextResponse_once rfl fun _ => groupResultMessage_short _
  split
  · exact sendTextResponse_once rfl fun _ => groupResultMessage_short _
  split
  · exact (sendToMembers_noReply rfl _).once_bind fun _ =>
      sendTextResponse_once rfl fun _ => by decide
  · exact sendTextResponse_once rfl fun _ => groupResultMessage_short _

/-- A group message replies once. -/
theorem handleGroupMessage_once : RepliesOnce fd True (handleGroupMessage fd packet) := by
  unfold handleGroupMessage
  simp only [perform_bind, done_bind]
  refine .inr ⟨not_replies (by simp), fun answer => ?_⟩
  dsimp only
  split
  · exact sendTextResponse_once rfl fun _ => by decide
  · exact sendGroupMessageFor_once

/-- A file packet replies once when it is the end of a file, and otherwise when it fails. -/
theorem handleFilePacket_once (other : packet.reply = false) :
    RepliesOnce fd (packet.type = MessageType.msgFileEnd.code) (handleFilePacket fd packet) := by
  unfold handleFilePacket
  simp only [perform_bind, done_bind]
  refine .inr ⟨not_replies (by simp), fun answer => ?_⟩
  dsimp only
  split
  · exact sendTextResponse_once rfl fun _ => userResultMessage_short _
  refine .inr ⟨send_not_replies other, fun delivered => ?_⟩
  dsimp only
  split
  · split
    · exact sendTextResponse_once rfl fun _ => by decide
    · rename_i inner
      exact inner
  · simp only [call_bind, done_bind]
    exact sendTextResponse_once rfl fun _ => by decide

/-- A packet is answered by at most one reply, to its connection, and by exactly one unless it is an
online list or group list request or a file header or chunk. -/
theorem processPacket_once : RepliesOnce fd (packet.replied = true) (processPacket fd packet) := by
  unfold processPacket Packet.replied
  have other {type : MessageType} (selected : MessageType.ofCode? packet.type = some type)
      (relayed : type.reply = false) : packet.reply = false := by
    rw [Packet.reply, selected, Option.any_some, relayed]
  have expects {must must' : Prop} {program : Handler Unit} (same : must' ↔ must)
      (once : RepliesOnce fd must' program) : RepliesOnce fd must program := propext same ▸ once
  have file {type : MessageType} (selected : MessageType.ofCode? packet.type = some type)
      (relayed : type.reply = false) (last : type = .msgFileEnd ↔ type.replied = true) :
      RepliesOnce fd (type.replied = true) (handleFilePacket fd packet) := by
    refine expects (Iff.trans ?_ last) (handleFilePacket_once (other selected relayed))
    rw [← MessageType.code_of_ofCode? selected]
    exact ⟨fun same => Option.some.inj (by
      rw [← MessageType.ofCode?_code type, same, MessageType.ofCode?_code]), fun same => by rw [same]⟩
  cases selected : MessageType.ofCode? packet.type with
  | none => exact sendTextResponse_once rfl fun _ => by decide
  | some type =>
    cases type with
    | msgRegister => exact expects (by decide) handleRegister_once
    | msgLogin => exact expects (by decide) handleLogin_once
    | msgOnlineList => exact expects (by decide) handleOnlineList_once
    | msgPrivate => exact expects (by decide) (handlePrivate_once (other selected rfl))
    | msgGroup => exact expects (by decide) (handleGroup_once (other selected rfl))
    | msgGroupCreate => exact expects (by decide) handleGroupCreate_once
    | msgGroupList => exact expects (by decide) handleGroupList_once
    | msgGroupMessage => exact expects (by decide) handleGroupMessage_once
    | msgFileBegin => exact file selected rfl (by decide)
    | msgFileChunk => exact file selected rfl (by decide)
    | msgFileEnd => exact file selected rfl (by decide)
    | msgLogout =>
      simp only [call_bind, done_bind]
      exact sendTextResponse_once rfl fun _ => by decide
    | _ => exact sendTextResponse_once rfl fun _ => by decide

end

section

variable [Sha256] {outcomes : Nat → Outcome}

/-- No procedure that is called sends a reply. -/
theorem bodies_noReply (target : Procedure) :
    NoReply ((serverSemantics outcomes).body target) := by
  cases target with
  | cleanup fd => exact cleanupOfflineFd_noReply fd

/-- The operations with which an input is handled: replies are sent to the connection of a packet and
nowhere else, at most one of them, and exactly one when the packet is always answered. -/
theorem Served.replies {machine machine' : ServerMachine} {input : Input}
    (served : Served outcomes machine input machine') :
    ∃ front middle back, machine'.trace = machine.trace ++ (front ++ middle ++ back) ∧
      (∀ event ∈ front, ¬event.op.Replies) ∧ (∀ event ∈ back, ¬event.op.Replies) ∧
      (middle = [] ∧ (∀ fd packet, input = .packet fd packet → packet.replied = false) ∨
        ∃ fd packet event, input = .packet fd packet ∧ middle = [event] ∧ event.op.RepliesTo fd) := by
  cases input with
  | connect fd =>
    obtain ⟨_, _, rfl⟩ := served_connect.mp served
    exact ⟨[], [], [], by simp, by simp, by simp, .inl ⟨rfl, by simp⟩⟩
  | packet fd packet =>
    obtain ⟨front, middle, back, whole, before, after, one⟩ :=
      Runs.once bodies_noReply processPacket_once (served_packet.mp served).2
    refine ⟨front, middle, back, whole, before, after, one.imp ?_ ?_⟩
    · rintro ⟨rfl, may⟩
      refine ⟨rfl, fun _ _ same => ?_⟩
      cases same
      simpa using may
    · rintro ⟨event, rfl, own⟩
      exact ⟨fd, packet, event, rfl, rfl, own⟩
  | disconnect fd =>
    have silent : NoReply (clientExit fd) := ⟨not_replies (by simp), fun _ => trivial⟩
    obtain ⟨events, whole, others⟩ :=
      Runs.performed bodies_noReply silent (served_disconnect.mp served).2
    exact ⟨events, [], [], by rw [whole]; simp, others, by simp, .inl ⟨rfl, by simp⟩⟩

end

end MultiUserChat
