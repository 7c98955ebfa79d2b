import MultiUserChat.Library.ProgramText
import MultiUserChat.Verif.HandlerText
/-!
# What handlers have looked up and not yet sent

Between the lookup of a user's descriptor and the send on it, a handler holds a bare number. It owes a
send to that user there: whatever the answers are, it will send. No handler owes anything when it
starts, and what it comes to owe is what the last lookup or snapshot returned.
-/

namespace MultiUserChat

open Program

/-- The operation sends on the descriptor for the user. -/
def Operation.SendsTo (address : CString × Int) (op : Operation) : Prop :=
  ∃ packet, op = .send address.2 packet (some address.1)

/-- The answer says that the user is logged in on the descriptor. -/
def Finds : (op : Operation) → Answer op → CString × Int → Prop
  | .userGetFd username, found, address => username = address.1 ∧ found = .ok address.2
  | .userSnapshotOnlineFds _, entries, address => address ∈ entries
  | _, _, _ => False

/-- The code will send on the descriptor for the user, whatever the answers are. -/
def Owes {α : Type} (code : Handler α) (address : CString × Int) : Prop :=
  code.Inevitable (Operation.SendsTo address)

/-- The code owes no send, and will owe one only after an answer that finds its user there. -/
def OwesNothing {α : Type} (code : Handler α) : Prop :=
  code.Unpromised Operation.SendsTo Finds

/-- The code owes at most a send to one user, and otherwise is as one that owes nothing. -/
structure OwesAtMost (address : CString × Int) {α : Type} (code : Handler α) : Prop where
  /-- What the code will owe later is found in an answer. -/
  grounded : code.Grounded Operation.SendsTo Finds
  /-- The one send that may be owed. -/
  sole : ∀ other, Owes code other → other = address

instance (op : Operation) : Nonempty (Answer op) :=
  match op with
  | .userRegister _ _ | .userLogin _ _ _ | .userLogoutFd _ => ⟨UserResult.ok⟩
  | .userGetFd _ => ⟨Except.error .errIo⟩
  | .userOnlineList => ⟨Except.error .errIo⟩
  | .userSnapshotOnlineFds _ => ⟨([] : List (CString × Int))⟩
  | .userUsernameByFd _ => ⟨(none : Option CString)⟩
  | .groupCreate _ _ _ => ⟨Except.error .errInvalid⟩
  | .groupGetSnapshot _ => ⟨Except.error .errInvalid⟩
  | .groupBuildListPayload _ => ⟨Except.error .errInvalid⟩
  | .groupRemoveMember _ => ⟨([] : List GroupChange)⟩
  | .send _ _ _ => ⟨false⟩
  | .close _ => ⟨()⟩

section

variable {α β : Type}

/-- A plain operation is for no user. -/
theorem Operation.not_sendsTo_of_plain (op : Operation) (plain : op.plain = true)
    (address : CString × Int) : ¬op.SendsTo address := by
  rintro ⟨packet, rfl⟩
  contradiction

/-- An operation that is no send is for no user. -/
theorem Operation.not_sendsTo_of_silent {op : Operation}
    (silent : ∀ fd packet target, op ≠ .send fd packet target) (address : CString × Int) :
    ¬op.SendsTo address :=
  fun ⟨packet, same⟩ => silent address.2 packet (some address.1) same

/-- Returning owes nothing. -/
theorem done_owesNothing (value : α) : OwesNothing (.done value : Handler α) :=
  unpromised_done value

/-- A call before code that owes nothing. -/
theorem call_owesNothing {target : Procedure} {next : Handler α} (later : OwesNothing next) :
    OwesNothing (.call target next) := unpromised_call.mpr later

/-- Code whose sends are for no user owes nothing. -/
theorem owesNothing_of_only {code : Handler α}
    (only : code.Only fun op => ∀ address, ¬op.SendsTo address) : OwesNothing code :=
  only.unpromised

/-- A text response owes nothing. -/
theorem response_owesNothing {fd : Int} {type : MessageType} {message : CString} :
    OwesNothing (sendTextResponse fd type message) :=
  owesNothing_of_only (sendTextResponse_only fun _ _ _ owes => by
    obtain ⟨_, absurd⟩ := owes
    cases absurd)

/-- Owing at most one send and then owing nothing is owing at most that send. -/
theorem OwesAtMost.bind {address : CString × Int} {code : Handler α} {rest : α → Handler β}
    (first : OwesAtMost address code) (later : ∀ value, OwesNothing (rest value)) :
    OwesAtMost address (code >>= rest) := by
  refine ⟨first.grounded.bind (fun value => (later value).grounded)
    fun key value _ owes => absurd owes ((later value).free key), fun other owes => ?_⟩
  rcases inevitable_bind owes with early | ⟨value, late⟩
  · exact first.sole other early
  · exact absurd late ((later value).free other)

/-- Code that owes nothing owes at most any send. -/
theorem OwesNothing.atMost {code : Handler α} (nothing : OwesNothing code)
    (address : CString × Int) : OwesAtMost address code :=
  ⟨nothing.grounded, fun other owes => absurd owes (nothing.free other)⟩

/-- A send to a user before code that owes nothing. -/
theorem send_owesAtMost {fd : Int} {packet : Packet} {username : CString}
    {next : Bool → Handler α} (later : ∀ delivered, OwesNothing (next delivered)) :
    OwesAtMost (username, fd) (.perform (.send fd packet (some username)) next) := by
  refine ⟨fun delivered => ⟨(later delivered).grounded, fun key owes =>
    absurd owes ((later delivered).free key)⟩, fun other owes => ?_⟩
  rcases owes with ⟨_, same⟩ | always
  · cases same
    rfl
  · exact absurd (always true) ((later true).free other)

/-- A lookup owes nothing when the code after it owes at most a send to the user that was found. -/
theorem lookup_owesNothing {username : CString} {next : Except UserResult Int → Handler α}
    (refused : ∀ result, OwesNothing (next (.error result)))
    (found : ∀ fd, OwesAtMost (username, fd) (next (.ok fd))) :
    OwesNothing (.perform (.userGetFd username) next) := by
  refine unpromised_perform (Operation.not_sendsTo_of_plain _ rfl) (fun answer => ?_)
    (fun answer key owes => ?_) ⟨.error .errOffline, (refused _).free⟩
  · cases answer with
    | error result => exact (refused result).grounded
    | ok fd => exact (found fd).grounded
  · cases answer with
    | error result => exact absurd owes ((refused result).free key)
    | ok fd =>
      cases (found fd).sole key owes
      exact ⟨rfl, rfl⟩

/-- An operation that is no send, before code that owes nothing. -/
theorem perform_owesNothing {op : Operation} {next : Answer op → Handler α}
    (silent : ∀ fd packet target, op ≠ .send fd packet target)
    (later : ∀ answer, OwesNothing (next answer)) : OwesNothing (.perform op next) :=
  unpromised_perform_of_later (Operation.not_sendsTo_of_silent silent) later

end

/-! ## The handlers -/

/-- Sending a payload owes at most that send. -/
theorem sendGroupPayloadToFd_owesAtMost (target : CString) (fd : Int) (type : MessageType)
    (sender receiver : CString) (payload : GroupPayload) :
    OwesAtMost (target, fd) (sendGroupPayloadToFd target fd type sender receiver payload) := by
  unfold sendGroupPayloadToFd
  split
  · exact (call_owesNothing (done_owesNothing ())).atMost _
  · refine send_owesAtMost fun delivered => ?_
    cases delivered with
    | true => exact done_owesNothing ()
    | false => exact call_owesNothing (done_owesNothing ())

/-- The fan-out owes nothing between two members. -/
theorem sendToMembers_owesNothing (type : MessageType) (sender receiver : CString)
    (payload : GroupPayload) (members : List CString) :
    OwesNothing (sendToMembers type sender receiver payload members) := by
  induction members with
  | nil => exact done_owesNothing ()
  | cons member members ih =>
    refine lookup_owesNothing (fun _ => ih) fun fd => ?_
    exact (sendGroupPayloadToFd_owesAtMost member fd type sender receiver payload).bind fun _ => ih

/-- An event push owes nothing. -/
theorem pushGroupEvent_owesNothing (event : CString) (snapshot : GroupSnapshot) :
    OwesNothing (pushGroupEvent event snapshot) := by
  unfold pushGroupEvent
  split
  · exact sendToMembers_owesNothing _ _ _ _ _
  · exact done_owesNothing ()

/-- Announcing changes owes nothing. -/
theorem pushChanges_owesNothing (changes : List GroupChange) : OwesNothing (pushChanges changes) := by
  induction changes with
  | nil => exact done_owesNothing ()
  | cons change changes ih => exact (pushGroupEvent_owesNothing _ _).bind fun _ => ih

/-- A cleanup owes nothing. -/
theorem cleanupOfflineFd_owesNothing (fd : Int) : OwesNothing (cleanupOfflineFd fd) := by
  unfold cleanupOfflineFd
  simp only [perform_bind, done_bind]
  refine perform_owesNothing nofun fun found => ?_
  cases found with
  | none => exact perform_owesNothing nofun fun _ => done_owesNothing ()
  | some username =>
    refine perform_owesNothing nofun fun changes => ?_
    refine perform_owesNothing nofun fun _ => ?_
    exact pushChanges_owesNothing changes

/-- A broadcast owes a send to each listed user and nothing else. -/
theorem broadcast_owes {packet : Packet} {fds : List (CString × Int)} {address : CString × Int} :
    Owes (broadcast packet fds) address ↔ address ∈ fds := by
  induction fds with
  | nil => exact iff_of_false id List.not_mem_nil
  | cons entry fds ih =>
    rw [List.mem_cons]
    constructor
    · rintro (⟨_, same⟩ | always)
      · injection same with there _ owner
        exact .inl (Prod.ext (Option.some.inj owner).symm there.symm)
      · exact .inr (ih.mp (always true))
    · rintro (rfl | listed)
      · exact .inl ⟨packet, rfl⟩
      · refine .inr fun delivered => ?_
        cases delivered with
        | true => exact ih.mpr listed
        | false => exact ih.mpr listed

/-- A broadcast comes to owe nothing that it did not owe from the start. -/
theorem broadcast_grounded (packet : Packet) (fds : List (CString × Int)) :
    (broadcast packet fds).Grounded Operation.SendsTo Finds := by
  induction fds with
  | nil => trivial
  | cons entry fds ih =>
    intro delivered
    cases delivered with
    | true => exact ⟨ih, fun key owes => .inl (broadcast_owes.mpr
        (List.mem_cons_of_mem _ (broadcast_owes.mp owes)))⟩
    | false => exact ⟨ih, fun key owes => .inl (broadcast_owes.mpr
        (List.mem_cons_of_mem _ (broadcast_owes.mp owes)))⟩

/-- A broadcast request owes nothing before its snapshot. -/
theorem handleGroup_owesNothing (fd : Int) (packet : Packet) : OwesNothing (handleGroup fd packet) := by
  unfold handleGroup
  simp only [perform_bind, done_bind]
  refine unpromised_perform (Operation.not_sendsTo_of_plain _ rfl) (fun fds => ?_)
    (fun fds key owes => ?_)
    ⟨[], fun key => ?_⟩
  · split
    · exact response_owesNothing.grounded
    · exact (broadcast_grounded packet fds).bind (fun _ => response_owesNothing.grounded)
        fun _ _ _ => id
  · split at owes
    · exact absurd owes (response_owesNothing.free key)
    · rcases inevitable_bind owes with listed | ⟨_, absurd⟩
      · exact broadcast_owes.mp listed
      · exact (response_owesNothing.free key absurd).elim
  · rw [if_pos List.length_nil]
    exact response_owesNothing.free key

/-- A private message owes nothing before its lookup. -/
theorem handlePrivate_owesNothing (fd : Int) (packet : Packet) :
    OwesNothing (handlePrivate fd packet) := by
  unfold handlePrivate
  simp only [perform_bind, done_bind]
  refine lookup_owesNothing (fun _ => response_owesNothing) fun target =>
    send_owesAtMost fun delivered => ?_
  split
  · exact response_owesNothing
  · simp only [call_bind, done_bind]
    exact call_owesNothing response_owesNothing

/-- A file packet owes nothing before its lookup. -/
theorem handleFilePacket_owesNothing (fd : Int) (packet : Packet) :
    OwesNothing (handleFilePacket fd packet) := by
  unfold handleFilePacket
  simp only [perform_bind, done_bind]
  refine lookup_owesNothing (fun _ => response_owesNothing) fun target =>
    send_owesAtMost fun delivered => ?_
  split
  · split
    · exact response_owesNothing
    · exact done_owesNothing ()
  · simp only [call_bind, done_bind]
    exact call_owesNothing response_owesNothing

/-- A request to create a group owes nothing. -/
theorem createGroupFor_owesNothing (fd : Int) (packet : Packet) (username : CString) :
    OwesNothing (createGroupFor fd packet username) := by
  have plain := Operation.not_sendsTo_of_plain
  unfold createGroupFor
  split
  · split
    · exact response_owesNothing
    · refine (owesNothing_of_only (checkMembers_only plain fd username _ _)).bind fun checked => ?_
      split
      · exact done_owesNothing ()
      · exact response_owesNothing
      · simp only [perform_bind, done_bind]
        refine perform_owesNothing nofun fun created => ?_
        split
        · exact response_owesNothing
        · exact (pushGroupEvent_owesNothing _ _).bind fun _ => response_owesNothing
  · exact response_owesNothing

/-- A group message owes nothing before its lookups. -/
theorem sendGroupMessageFor_owesNothing (fd : Int) (packet : Packet) (username : CString) :
    OwesNothing (sendGroupMessageFor fd packet username) := by
  unfold sendGroupMessageFor
  split
  · exact response_owesNothing
  split
  · exact response_owesNothing
  simp only [perform_bind, done_bind]
  refine perform_owesNothing nofun fun found => ?_
  split
  · exact response_owesNothing
  split
  · exact response_owesNothing
  split
  · exact (sendToMembers_owesNothing _ _ _ _ _).bind fun _ => response_owesNothing
  · exact response_owesNothing

/-- No handler owes a send when it starts. -/
theorem processPacket_owesNothing (fd : Int) (packet : Packet) :
    OwesNothing (processPacket fd packet) := by
  have plain := Operation.not_sendsTo_of_plain
  unfold processPacket
  split
  · exact owesNothing_of_only (handleRegister_only plain (Operation.not_sendsTo_of_silent nofun))
  · exact owesNothing_of_only (handleLogin_only plain (Operation.not_sendsTo_of_silent nofun))
  · exact owesNothing_of_only (handleOnlineList_only plain fd)
  · exact handlePrivate_owesNothing fd packet
  · exact handleGroup_owesNothing fd packet
  · unfold handleGroupCreate
    simp only [perform_bind, done_bind]
    refine perform_owesNothing nofun fun found => ?_
    split
    · exact response_owesNothing
    · exact createGroupFor_owesNothing _ _ _
  · exact owesNothing_of_only (handleGroupList_only plain fd)
  · unfold handleGroupMessage
    simp only [perform_bind, done_bind]
    refine perform_owesNothing nofun fun found => ?_
    split
    · exact response_owesNothing
    · exact sendGroupMessageFor_owesNothing _ _ _
  · exact handleFilePacket_owesNothing fd packet
  · exact handleFilePacket_owesNothing fd packet
  · exact handleFilePacket_owesNothing fd packet
  · simp only [call_bind, done_bind]
    exact call_owesNothing response_owesNothing
  · exact response_owesNothing
  · exact response_owesNothing

/-- The exit of a handler owes nothing. -/
theorem clientExit_owesNothing (fd : Int) : OwesNothing (clientExit fd) := by
  unfold clientExit
  exact call_owesNothing (perform_owesNothing nofun fun _ => done_owesNothing ())

end MultiUserChat
