import MultiUserChat.Verif.Stores
/-!
# What the text of each handler contains

For the shared parts of the handlers, the operations they can perform, stated for an arbitrary
predicate on operations. An invariant that is checked for these operations holds across the handler
whatever the answers are.
-/

namespace MultiUserChat

open Program

/-- Message types that carry one user's content to another. -/
def MessageType.relayed : MessageType → Bool
  | .msgPrivate | .msgGroup | .msgGroupMessage => true
  | .msgFileBegin | .msgFileChunk | .msgFileEnd => true
  | _ => false

/-- The packet carries one user's content to another. -/
def Packet.relayed (packet : Packet) : Bool := (MessageType.ofCode? packet.type).any (·.relayed)

/-- Message types that neither carry a user's content nor announce a group. -/
def MessageType.plain : MessageType → Bool
  | .msgGroupEvent => false
  | type => !type.relayed

/-- The packet neither carries a user's content nor announces a group. -/
def Packet.plain (packet : Packet) : Bool := (MessageType.ofCode? packet.type).all (·.plain)

/-- Reading operations whose sends are for no looked-up user, carry no user's content and announce
no group. -/
def Operation.plain : Operation → Bool
  | .send _ packet target => target.isNone && packet.plain
  | op => op.reads

/-- The packet of a plain send is plain. -/
theorem Operation.packet_plain {fd : Int} {packet : Packet} {target : Option CString}
    (plain : (Operation.send fd packet target).plain = true) : packet.plain = true :=
  (Bool.and_eq_true_iff.mp plain).2

/-- A plain operation only reads. -/
theorem Operation.reads_of_plain {op : Operation} (plain : op.plain = true) : op.reads = true := by
  cases op <;> first | rfl | exact plain

/-- The operations of packets other than a login, outside cleanups. -/
def Operation.serves : Operation → Bool
  | .userRegister _ _ | .groupCreate _ _ _ => true
  | op => op.reads

/-- A reading operation may occur in any packet. -/
theorem Operation.serves_of_reads {op : Operation} (reads : op.reads = true) :
    op.serves = true := by
  cases op <;> first | rfl | exact reads

/-- A packet of a plain type is plain. -/
theorem Packet.plain_of_type {packet : Packet} {type : MessageType} (same : packet.type = type.code)
    (plain : type.plain = true) : packet.plain = true := by
  rw [Packet.plain, same, MessageType.ofCode?_code, Option.all_some, plain]

/-- A plain packet is not relayed. -/
theorem Packet.not_relayed_of_plain {packet : Packet} (plain : packet.plain = true) :
    packet.relayed = false := by
  unfold Packet.plain at plain
  unfold Packet.relayed
  cases selected : MessageType.ofCode? packet.type with
  | none => rfl
  | some type =>
    rw [selected, Option.all_some] at plain
    rw [Option.any_some]
    cases type <;> first | rfl | contradiction

/-- A plain packet announces no group. -/
theorem Packet.not_event_of_plain {packet : Packet} (plain : packet.plain = true) :
    packet.type ≠ MessageType.msgGroupEvent.code := by
  intro event
  rw [Packet.plain, event, MessageType.ofCode?_code, Option.all_some] at plain
  contradiction

/-- An announcement is not relayed. -/
theorem Packet.not_relayed_of_event {packet : Packet}
    (event : packet.type = MessageType.msgGroupEvent.code) : packet.relayed = false := by
  rw [Packet.relayed, event, MessageType.ofCode?_code]
  rfl

section

variable {allowed : Operation → Prop}

/-- A text response sends one packet of its type to its descriptor, and nothing else. -/
theorem sendTextResponse_only {fd : Int} {type : MessageType} {message : CString}
    (sending : ∀ packet, packet.type = type.code → allowed (.send fd packet none)) :
    (sendTextResponse fd type message).Only allowed := by
  unfold sendTextResponse
  split
  · trivial
  · rename_i packet built
    unfold packetSetText at built
    split at built
    · contradiction
    · exact ⟨sending packet (packetInit_eq built).1, fun _ => trivial⟩

/-- A payload is sent in one packet with the given type, names and data. -/
theorem sendGroupPayloadToFd_only {target : CString} {fd : Int} {type : MessageType}
    {sender receiver : CString} {payload : GroupPayload}
    (sending : ∀ packet, packetInit type.code sender receiver payload.data = some packet →
      allowed (.send fd packet (some target))) :
    (sendGroupPayloadToFd target fd type sender receiver payload).Only allowed := by
  unfold sendGroupPayloadToFd
  split
  · trivial
  · rename_i packet built
    refine ⟨sending packet built, fun delivered => ?_⟩
    cases delivered <;> trivial

/-- The fan-out looks members up and sends the one packet. -/
theorem sendToMembers_only {type : MessageType} {sender receiver : CString} {payload : GroupPayload}
    (lookup : ∀ name, allowed (.userGetFd name))
    (sending : ∀ target fd packet, packetInit type.code sender receiver payload.data = some packet →
      allowed (.send fd packet (some target))) (members : List CString) :
    (sendToMembers type sender receiver payload members).Only allowed := by
  induction members with
  | nil => trivial
  | cons member members ih =>
    refine ⟨lookup member, fun answer => ?_⟩
    cases answer with
    | error result => exact ih
    | ok fd =>
      change (sendGroupPayloadToFd member fd type sender receiver payload >>=
        fun _ => sendToMembers type sender receiver payload members).Only allowed
      exact only_bind (sendGroupPayloadToFd_only (sending member fd)) fun _ => ih

/-- An event push looks members up and sends packets of type `MSG_GROUP_EVENT`. -/
theorem pushGroupEvent_only (lookup : ∀ name, allowed (.userGetFd name))
    (sending : ∀ target fd packet, packet.type = MessageType.msgGroupEvent.code →
      allowed (.send fd packet (some target))) (event : CString) (snapshot : GroupSnapshot) :
    (pushGroupEvent event snapshot).Only allowed := by
  unfold pushGroupEvent
  split
  · exact sendToMembers_only lookup
      (fun target fd packet built => sending target fd packet (packetInit_eq built).1) _
  · trivial

/-- Announcing changes is a sequence of event pushes. -/
theorem pushChanges_only (lookup : ∀ name, allowed (.userGetFd name))
    (sending : ∀ target fd packet, packet.type = MessageType.msgGroupEvent.code →
      allowed (.send fd packet (some target))) (changes : List GroupChange) :
    (pushChanges changes).Only allowed := by
  induction changes with
  | nil => trivial
  | cons change changes ih =>
    exact only_bind (pushGroupEvent_only lookup sending _ _) fun _ => ih

/-- A broadcast sends the packet as it came. -/
theorem broadcast_only {packet : Packet}
    (forwarding : ∀ target owner, allowed (.send target packet owner))
    (fds : List (CString × Int)) : (broadcast packet fds).Only allowed := by
  induction fds with
  | nil => trivial
  | cons entry fds ih =>
    refine ⟨forwarding _ _, fun delivered => ?_⟩
    cases delivered with
    | true => exact ih
    | false => exact ih

end

/-! ## The handlers -/

section

variable {allowed : Operation → Prop} (plain : ∀ op, op.plain = true → allowed op)
include plain

/-- A text response of a plain type is plain. -/
theorem response_only {fd : Int} {type : MessageType} {message : CString}
    (ordinary : type.plain = true) : (sendTextResponse fd type message).Only allowed :=
  sendTextResponse_only fun _ same => plain _ (Packet.plain_of_type same ordinary)

/-- A cleanup removes a member, logs out and announces. -/
theorem cleanupOfflineFd_only (fd : Int)
    (announcing : ∀ target fd packet, packet.type = MessageType.msgGroupEvent.code →
      allowed (.send fd packet (some target))) (removing : ∀ name, allowed (.groupRemoveMember name))
    (leaving : allowed (.userLogoutFd fd)) : (cleanupOfflineFd fd).Only allowed := by
  unfold cleanupOfflineFd
  simp only [perform_bind, done_bind, only_perform]
  refine ⟨plain _ rfl, fun found => ?_⟩
  cases found with
  | none => exact ⟨leaving, fun _ => trivial⟩
  | some name => exact ⟨removing name, fun changes => ⟨leaving, fun _ =>
      pushChanges_only (fun _ => plain _ rfl) announcing _⟩⟩

/-- A registration registers and answers. -/
theorem handleRegister_only {fd : Int} {packet : Packet}
    (registering : allowed (.userRegister packet.senderName packet.dataText)) :
    (handleRegister fd packet).Only allowed := by
  unfold handleRegister
  simp only [perform_bind, done_bind, only_perform]
  refine ⟨registering, fun result => ?_⟩
  split
  · exact response_only plain rfl
  · exact response_only plain rfl

/-- A login logs in and answers. -/
theorem handleLogin_only {fd : Int} {packet : Packet}
    (entering : allowed (.userLogin packet.senderName packet.dataText fd)) :
    (handleLogin fd packet).Only allowed := by
  unfold handleLogin
  simp only [perform_bind, done_bind, only_perform]
  refine ⟨entering, fun result => ?_⟩
  split
  · exact response_only plain rfl
  · exact response_only plain rfl

/-- An online list request is plain. -/
theorem handleOnlineList_only (fd : Int) : (handleOnlineList fd).Only allowed := by
  unfold handleOnlineList
  simp only [perform_bind, done_bind, only_perform]
  refine ⟨plain _ rfl, fun answer => ?_⟩
  split
  · exact response_only plain rfl
  · exact response_only plain rfl

/-- A private packet is sent as it came. -/
theorem handlePrivate_only {fd : Int} {packet : Packet}
    (forwarding : ∀ target owner, allowed (.send target packet owner)) :
    (handlePrivate fd packet).Only allowed := by
  unfold handlePrivate
  simp only [perform_bind, done_bind, only_perform]
  refine ⟨plain _ rfl, fun answer => ?_⟩
  split
  · exact response_only plain rfl
  · refine ⟨forwarding _ _, fun delivered => ?_⟩
    dsimp only
    split
    · exact response_only plain rfl
    · simp only [call_bind, done_bind, only_call]
      exact response_only plain rfl

/-- A file packet is sent as it came. -/
theorem handleFilePacket_only {fd : Int} {packet : Packet}
    (forwarding : ∀ target owner, allowed (.send target packet owner)) :
    (handleFilePacket fd packet).Only allowed := by
  unfold handleFilePacket
  simp only [perform_bind, done_bind, only_perform]
  refine ⟨plain _ rfl, fun answer => ?_⟩
  split
  · exact response_only plain rfl
  · refine ⟨forwarding _ _, fun delivered => ?_⟩
    dsimp only
    split
    · split
      · exact response_only plain rfl
      · trivial
    · simp only [call_bind, done_bind, only_call]
      exact response_only plain rfl

/-- A public message is sent as it came. -/
theorem handleGroup_only {fd : Int} {packet : Packet}
    (forwarding : ∀ target owner, allowed (.send target packet owner)) :
    (handleGroup fd packet).Only allowed := by
  unfold handleGroup
  simp only [perform_bind, done_bind, only_perform]
  refine ⟨plain _ rfl, fun fds => ?_⟩
  split
  · exact response_only plain rfl
  · exact only_bind (broadcast_only forwarding fds) fun _ => response_only plain rfl

/-- Checking the members of a new group is plain. -/
theorem checkMembers_only (fd : Int) (username : CString) (members : List CString) (flag : Bool) :
    (checkMembers fd username members flag).Only allowed := by
  induction members generalizing flag with
  | nil => trivial
  | cons member members ih =>
    unfold checkMembers
    simp only [perform_bind, done_bind, only_perform]
    refine ⟨plain _ rfl, fun answer => ?_⟩
    split
    · exact ih _
    · exact only_bind (response_only plain rfl) fun _ => trivial

/-- A creation creates one group, announces it and is plain otherwise. -/
theorem createGroupFor_only {fd : Int} {packet : Packet} {username : CString}
    (announcing : ∀ target fd packet, packet.type = MessageType.msgGroupEvent.code →
      allowed (.send fd packet (some target)))
    (creating : ∀ name members, allowed (.groupCreate username name members)) :
    (createGroupFor fd packet username).Only allowed := by
  unfold createGroupFor
  split
  · split
    · exact response_only plain rfl
    · refine only_bind (checkMembers_only plain fd _ _ _) fun checked => ?_
      split
      · trivial
      · exact response_only plain rfl
      · simp only [perform_bind, done_bind, only_perform]
        refine ⟨creating _ _, fun created => ?_⟩
        split
        · exact response_only plain rfl
        · exact only_bind (pushGroupEvent_only (fun _ => plain _ rfl) announcing _ _) fun _ =>
            response_only plain rfl
  · exact response_only plain rfl

/-- A creation creates one group for the user of the session. -/
theorem handleGroupCreate_only {fd : Int} {packet : Packet}
    (announcing : ∀ target fd packet, packet.type = MessageType.msgGroupEvent.code →
      allowed (.send fd packet (some target)))
    (creating : ∀ creator name members, allowed (.groupCreate creator name members)) :
    (handleGroupCreate fd packet).Only allowed := by
  unfold handleGroupCreate
  simp only [perform_bind, done_bind, only_perform]
  refine ⟨plain _ rfl, fun answer => ?_⟩
  split
  · exact response_only plain rfl
  · exact createGroupFor_only plain announcing (creating _)

/-- A group list request is plain. -/
theorem handleGroupList_only (fd : Int) : (handleGroupList fd).Only allowed := by
  unfold handleGroupList
  simp only [perform_bind, done_bind, only_perform]
  refine ⟨plain _ rfl, fun answer => ?_⟩
  split
  · exact response_only plain rfl
  · refine ⟨plain _ rfl, fun list => ?_⟩
    dsimp only
    split
    · exact response_only plain rfl
    · split
      · trivial
      · rename_i built
        refine ⟨plain _ (Packet.plain_of_type (packetInit_eq built).1 rfl), fun delivered => ?_⟩
        dsimp only
        split <;> trivial

/-- A group message is rebuilt with its user as the sender and sent to the members. -/
theorem sendGroupMessageFor_only {fd : Int} {packet : Packet} {username : CString}
    (forwarding : ∀ target message owner, message.type = MessageType.msgGroupMessage.code →
      message.sender = copyFixedString username → allowed (.send target message owner)) :
    (sendGroupMessageFor fd packet username).Only allowed := by
  unfold sendGroupMessageFor
  split
  · exact response_only plain rfl
  split
  · exact response_only plain rfl
  simp only [perform_bind, done_bind, only_perform]
  refine ⟨plain _ rfl, fun group => ?_⟩
  split
  · exact response_only plain rfl
  split
  · exact response_only plain rfl
  split
  · exact only_bind (sendToMembers_only (fun _ => plain _ rfl)
      (fun target _ packet built =>
        forwarding _ _ _ (packetInit_eq built).1 (packetInit_eq built).2.1) _)
      fun _ => response_only plain rfl
  · exact response_only plain rfl

/-- A group message is sent for the user of the session. -/
theorem handleGroupMessage_only {fd : Int} {packet : Packet}
    (forwarding : ∀ target message owner, message.type = MessageType.msgGroupMessage.code →
      allowed (.send target message owner)) :
    (handleGroupMessage fd packet).Only allowed := by
  unfold handleGroupMessage
  simp only [perform_bind, done_bind, only_perform]
  refine ⟨plain _ rfl, fun answer => ?_⟩
  split
  · exact response_only plain rfl
  · exact sendGroupMessageFor_only plain fun _ _ _ type _ => forwarding _ _ _ type

end

/-- A packet that is no login performs only operations that serve. -/
theorem processPacket_only {fd : Int} {packet : Packet}
    (other : MessageType.ofCode? packet.type ≠ some .msgLogin) :
    (processPacket fd packet).Only fun op => op.serves = true := by
  have plain : ∀ op : Operation, op.plain = true → op.serves = true :=
    fun op plain => op.serves_of_reads (op.reads_of_plain plain)
  unfold processPacket
  split
  · exact handleRegister_only plain rfl
  · contradiction
  · exact handleOnlineList_only plain fd
  · exact handlePrivate_only plain fun _ _ => rfl
  · exact handleGroup_only plain fun _ _ => rfl
  · exact handleGroupCreate_only plain (fun _ _ _ _ => rfl) fun _ _ _ => rfl
  · exact handleGroupList_only plain fd
  · exact handleGroupMessage_only plain fun _ _ _ _ => rfl
  · exact handleFilePacket_only plain fun _ _ => rfl
  · exact handleFilePacket_only plain fun _ _ => rfl
  · exact handleFilePacket_only plain fun _ _ => rfl
  · simp only [call_bind, done_bind, only_call]
    exact response_only plain rfl
  · exact response_only plain rfl
  · exact response_only plain rfl

end MultiUserChat
