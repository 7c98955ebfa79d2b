import MultiUserChat.Verif.AcceptedText
import MultiUserChat.Verif.OnlineList
import MultiUserChat.Verif.PayloadFormat
/-!
# Addressing the users that are shown online

The server admits names with white space at their ends, and the gateway shows them as they are. It
trims the names that it is asked to address, so it addresses exactly the users whose names have none.
-/

namespace MultiUserChat

open Program Web

/-! ## Lists that are sent -/

/-- A gateway session shows a user from a list of the online users that the server has sent. -/
inductive ShownOnline [Sha256] (outcomes : Nat → Outcome) (machine : ServerMachine) : Text → Prop
  | listed {fd : Int} {packet answer : Packet} {final : ServerMachine} {session : ClientSession}
      {users : List Text} {shown : Text}
      (asked : packet.type = MessageType.msgOnlineList.code)
      (ran : (processPacket fd packet).Runs (serverSemantics outcomes) machine () final)
      (list : answer.type = MessageType.msgOnlineList.code)
      (sent : (fd, answer) ∈ deliveries machine final)
      (received : session.handlePacket (packetOfFrame (wire answer)) =
        some (session.send (.onlineList users)))
      (member : shown ∈ users) : ShownOnline outcomes machine shown

/-- The users that a session shows are among those that the list was made of. -/
theorem shown_mem_names {session : ClientSession} {answer : Packet} {names : List CString}
    {users : List Text} (list : answer.type = MessageType.msgOnlineList.code)
    (content : answer.payload = (onlineText names).terminated)
    (readable : ∀ name ∈ names, name.Readable)
    (valid : ∀ name ∈ names, validUsername name = true)
    (received : session.handlePacket (packetOfFrame (wire answer)) =
      some (session.send (.onlineList users))) : ∀ shown ∈ users, shown ∈ names.map textOf := by
  have shows_ {users' : List Text} (handled : session.handlePacket (packetOfFrame (wire answer)) =
      some (session.send (.onlineList users'))) : users = users' := by
    rw [received] at handled
    simpa [ClientSession.send] using handled
  by_cases alone : names = [nobodyOnline]
  · -- The list of this one name reads as the list of none.
    have none_ : onlineText names = onlineText [] := by
      rw [alone]
      decide
    rw [shows_ (handlePacket_onlineList session list (none_ ▸ content) (by simp) (by simp) (by simp))]
    simp
  · rw [shows_ (handlePacket_onlineList session list content readable valid alone)]
    exact fun _ => id

section

variable [Sha256] {outcomes : Nat → Outcome} {machine : ServerMachine}

/-- A user who is shown online is online under the name that is shown. -/
theorem ShownOnline.online {shown : Text} (displayed : ShownOnline outcomes machine shown)
    (reached : ServerReachable outcomes machine)
    (readable : ∀ name, machine.state.online name = true → name.Readable) :
    ∃ name, machine.state.online name = true ∧ validUsername name = true ∧ textOf name = shown := by
  obtain @⟨fd, packet, answer, final, session, users, _, asked, ran, list, sent, received, member⟩ :=
    displayed
  have wellFormed := serverReachable_wellFormed reached
  obtain ⟨_, online⟩ := onlineNames_spec wellFormed
  rw [processPacket, asked, MessageType.ofCode?_code] at ran
  change (handleOnlineList fd).Runs _ _ _ _ at ran
  unfold handleOnlineList at ran
  simp only [perform_bind, done_bind, runs_perform, answer_userOnlineList] at ran
  rw [deliveries_silent (extends_of_runs ran) (by simp)] at sent
  rw [userStoreOnlineList_eq machine.state.users (by decide)] at ran
  by_cases fits : OnlineListFits machine.state
  · rw [if_pos (show (lines false _).length < _ from fits)] at ran
    obtain ⟨_, content⟩ := sendTextResponse_sent ran sent
    have listed := shown_mem_names list content
      (fun name inside => readable name ((online name).mp inside))
      (fun _ => onlineNames_valid wellFormed) received shown member
    obtain ⟨name, inside, rfl⟩ := List.mem_map.mp listed
    exact ⟨name, (online name).mp inside, onlineNames_valid wellFormed inside, rfl⟩
  · rw [if_neg (show ¬ (lines false _).length < _ from fits)] at ran
    obtain ⟨type, _⟩ := sendTextResponse_sent ran sent
    rw [list] at type
    exact absurd type (by decide)

/-- The online users are shown when their list fits and sends succeed, unless the only one is named
like the sentence. -/
theorem shownOnline_of_fits (reached : ServerReachable outcomes machine)
    (success : SendsSucceed outcomes machine)
    (readable : ∀ name, machine.state.online name = true → name.Readable)
    (fits : OnlineListFits machine.state)
    (distinguished : onlineNames machine.state.users.users ≠ [nobodyOnline]) {name : CString}
    (online : machine.state.online name = true) : ShownOnline outcomes machine (textOf name) := by
  have asked : onlineListRequest.type = MessageType.msgOnlineList.code := by decide
  obtain ⟨final, ran, _, listed, _⟩ :=
    @onlineListed_iff _ outcomes machine 0 _ reached success readable asked
  obtain ⟨answer, list, sent, shows_⟩ := listed.mpr fits
  obtain ⟨users, received, _, members⟩ := shows_ distinguished
  exact .listed asked ran list (sent ▸ List.mem_singleton_self _) (received {})
    ((members _).mpr ⟨name, online, rfl⟩)

end

namespace Web

/-! ## Names and their texts -/

/-- A text shows a name that the server has admitted. -/
structure Shows (shown : Text) (name : CString) : Prop where
  /-- The name is valid. -/
  valid : validUsername name = true
  /-- It is in UTF-8. -/
  readable : name.Readable
  /-- The text is the name. -/
  text : textOf name = shown

variable {session session' : ClientSession} {socket : Nat} {shown : Text} {name : CString}

/-- The text is written as the bytes of the name. -/
theorem Shows.encode (shows_ : Shows shown name) : Utf8.encode shown = name.bytes := by
  rw [← shows_.text, shows_.readable.encode_textOf]

/-- The text has no NUL. -/
theorem Shows.nulFree (shows_ : Shows shown name) : 0 ∉ shown := by
  rw [← Utf8.zero_mem_encode, shows_.encode]
  exact name.nulFree

/-- The text is read as the name. -/
theorem Shows.written (shows_ : Shows shown name) : wireName shown = name :=
  CString.ext ((ofBytes_encode_iff.mpr shows_.nulFree).trans shows_.encode)

/-- The gateway's rule for receivers accepts the text. -/
theorem Shows.peer (shows_ : Shows shown name) : validatePeerName shown = none := by
  have valid := shows_.valid
  simp only [validUsername, CString.length, CString.contains, ← shows_.encode, Bool.and_eq_true,
    decide_eq_true_eq, Bool.not_eq_true', List.contains_eq_mem, decide_eq_false_iff_not, ne_eq,
    List.length_eq_zero_iff, Utf8.encode_eq_nil] at valid
  obtain ⟨⟨⟨given, fits⟩, colon⟩, line⟩ := valid
  rw [validatePeerName, if_neg]
  simp only [not_or, ge_iff_le, Nat.not_le]
  exact ⟨given, fits, mt (@Utf8.ascii_mem_encode 0x3a (by decide) _).mpr colon,
    mt (@Utf8.ascii_mem_encode 0xa (by decide) _).mpr line⟩

/-- White space is told from other characters also where lone surrogates are replaced. -/
theorem whiteSpace_scalar (point : Nat) : whiteSpace (Utf8.scalar point) = whiteSpace point := by
  unfold Utf8.scalar
  split
  · rfl
  · rename_i lone
    have replaced : whiteSpace Utf8.replacement = false := by decide
    unfold Utf8.Scalar at lone
    rw [replaced, eq_comm]
    simp only [whiteSpace, List.mem_cons, List.not_mem_nil, or_false, Bool.or_eq_false_iff,
      decide_eq_false_iff_not, Bool.and_eq_false_imp, decide_eq_true_eq]
    omega

/-- What was trimmed before it was written shows as a name without white space at its ends. -/
theorem Shows.trimmed (shows_ : Shows shown name) {text : Text} (nulFree : 0 ∉ trim text)
    (written : wireName (trim text) = name) : trim shown = shown := by
  have points : shown = (trim text).map Utf8.scalar := by
    rw [← shows_.text, textOf, ← written, ← Utf8.decode_encode]
    exact congrArg Utf8.decode (ofBytes_encode_iff.mpr nulFree)
  rw [points, trim_map whiteSpace_scalar, trim_trim]

/-- A text is trimmed at both ends. -/
theorem trim_inside (text : Text) : trim text <:+: text :=
  (List.rdropWhile_prefix whiteSpace (text.dropWhile whiteSpace)).isInfix.trans
    (List.dropWhile_suffix whiteSpace).isInfix

/-- There is no NUL in it after trimming. -/
theorem Shows.nulFree_trim (shows_ : Shows shown name) : 0 ∉ trim shown :=
  fun inside => shows_.nulFree ((trim_inside shown).subset inside)

/-! ## What is written -/

/-- Telling the browser writes nothing. -/
theorem not_writes_send {type : MessageType} {packet : Packet} (notice : Notice) :
    ¬Writes session (session.send notice) socket type packet := by
  rintro ⟨written, _⟩
  exact absurd (List.self_eq_append_right.mp written) (List.cons_ne_nil _ _)

/-- What is written to a trimmed name, or refused with it, goes to the user that is shown exactly when
trimming leaves the name as it is. -/
theorem Shows.addressed_iff (shows_ : Shows shown name) {type : MessageType}
    (accepted : validatePeerName (trim shown) = none → ∃ packet,
      Writes session session' socket type packet ∧ packet.receiverName = wireName (trim shown))
    (refused : ∀ error, validatePeerName (trim shown) = some error →
      session' = session.sendError error) :
    (∃ packet, Writes session session' socket type packet ∧ packet.receiverName = name) ↔
      trim shown = shown := by
  constructor
  · rintro ⟨packet, writes, receiver⟩
    cases peer : validatePeerName (trim shown) with
    | none =>
      obtain ⟨packet', writes', written⟩ := accepted peer
      obtain rfl := writes.unique writes'
      exact shows_.trimmed shows_.nulFree_trim (written.symm.trans receiver)
    | some error =>
      rw [refused error peer] at writes
      exact absurd writes (not_writes_send _)
  · intro same
    obtain ⟨packet, writes, written⟩ := accepted (same.symm ▸ shows_.peer)
    exact ⟨packet, writes, by rw [written, same, shows_.written]⟩

/-- The session sends its packet of a private message to a user. -/
def PrivateAddressed (session : ClientSession) (socket : Nat) (shown : Text) (name : CString) :
    Prop :=
  ∀ text : Text, validateText text = none → ∃ packet,
    Writes session (session.handlePrivate shown text) socket .msgPrivate packet ∧
      packet.receiverName = name

/-- A private message goes to the user that is shown exactly when trimming leaves the name as it
is. -/
theorem privateAddressed_iff (ready : session.Ready socket) (shows_ : Shows shown name) :
    PrivateAddressed session socket shown name ↔ trim shown = shown := by
  have each (text : Text) (message : validateText text = none) : (∃ packet,
      Writes session (session.handlePrivate shown text) socket .msgPrivate packet ∧
        packet.receiverName = name) ↔ trim shown = shown := by
    refine shows_.addressed_iff (fun peer => ?_) fun error peer => ?_
    · obtain ⟨packet, writes, written⟩ := handlePrivate_writes ready peer message
      exact ⟨packet, writes, written.receiver⟩
    · rw [ClientSession.handlePrivate, ready.requireLogin]
      dsimp only
      rw [peer]
      rfl
  have message : validateText (literal "hi") = none := by decide
  exact ⟨fun addressed => (each _ message).mp (addressed _ message),
    fun same text message => (each text message).mpr same⟩

/-- The session sends its packet that begins a file to a user. -/
def FileAddressed (session : ClientSession) (socket : Nat) (shown : Text) (name : CString) : Prop :=
  ∀ (filename : Text) (size : Number) (filesize : Nat), filename ≠ [] →
    byteLength filename < fileNameMaxLen → 0xa ∉ filename → size.natural = some filesize →
    filesize ≤ fileTransferMaxBytes → ∃ packet,
      Writes session (session.handleSendFileBegin shown filename size) socket .msgFileBegin packet ∧
        packet.receiverName = name

/-- A file goes to the user that is shown exactly when trimming leaves the name as it is. -/
theorem fileAddressed_iff (ready : session.Ready socket) (shows_ : Shows shown name) :
    FileAddressed session socket shown name ↔ trim shown = shown := by
  have each {filename : Text} {size : Number} {filesize : Nat} (given : filename ≠ [])
      (short : byteLength filename < fileNameMaxLen) (line : 0xa ∉ filename)
      (natural : size.natural = some filesize) (small : filesize ≤ fileTransferMaxBytes) :
      (∃ packet, Writes session (session.handleSendFileBegin shown filename size) socket
        .msgFileBegin packet ∧ packet.receiverName = name) ↔ trim shown = shown := by
    refine shows_.addressed_iff (fun peer => ?_) fun error peer => ?_
    · obtain ⟨packet, sent, type_, _, written, _⟩ :=
        ClientSession.handleSendFileBegin_sent ready peer given short line natural small
      exact ⟨packet, ⟨sent.written, type_⟩, written⟩
    · rw [ClientSession.handleSendFileBegin, ready.requireLogin]
      dsimp only
      rw [peer]
  constructor
  · intro addressed
    have given : literal "f" ≠ [] := by decide
    have short : byteLength (literal "f") < fileNameMaxLen := by decide
    have line : 0xa ∉ literal "f" := by decide
    have natural : (Number.finite 0).natural = some 0 := by decide
    exact (each given short line natural (Nat.zero_le _)).mp
      (addressed _ _ _ given short line natural (Nat.zero_le _))
  · intro same filename size filesize given short line natural small
    exact (each given short line natural small).mpr same

/-! ## Groups -/

/-- The fields pass their checks exactly when none is empty or has a NUL. -/
theorem assertGroupField_mapM_ok {members values : List Text} :
    members.mapM (assertGroupField · "群成员" false) = .ok values ↔
      (∀ member ∈ members, member ≠ [] ∧ 0 ∉ member) ∧ values = members := by
  induction members generalizing values with
  | nil =>
    simp only [List.not_mem_nil, false_imp_iff, implies_true, true_and, List.mapM_nil]
    exact ⟨fun accepted => (Except.ok.inj accepted).symm, fun none_ => none_ ▸ rfl⟩
  | cons member members ih =>
    rw [List.mapM_cons, List.forall_mem_cons]
    constructor
    · intro accepted
      obtain ⟨first, here, rest⟩ := bind_ok accepted
      obtain ⟨others, there, returned⟩ := bind_ok rest
      obtain ⟨later, rfl⟩ := ih.mp there
      obtain ⟨given, nulFree, rfl⟩ := assertGroupField_ok.mp here
      cases returned
      exact ⟨⟨⟨given.resolve_left Bool.false_ne_true, nulFree⟩, later⟩, rfl⟩
    · rintro ⟨⟨⟨given, nulFree⟩, later⟩, rfl⟩
      rw [assertGroupField_ok.mpr ⟨.inr given, nulFree, rfl⟩, ih.mpr ⟨later, rfl⟩]
      rfl

/-- The members that the handler takes from a request are trimmed and not empty. -/
theorem mem_otherMembers {member : Text} {members : List Text} :
    member ∈ session.otherMembers members ↔
      member ≠ [] ∧ member ≠ session.username ∧ ∃ given ∈ members, trim given = member := by
  simp only [ClientSession.otherMembers, List.mem_filter, List.mem_map, decide_eq_true_eq]
  tauto

/-- The payload of a group with trimmed members is the encoding of its name and its members, each
once. -/
theorem encodeGroupCreatePayload_ok_iff {group : Text} {members : List Text}
    (trimmed : ∀ member ∈ members, member ≠ [] ∧ trim member = member) {payload : List UInt8} :
    encodeGroupCreatePayload (trim group) members = .ok payload ↔
      trim group ≠ [] ∧ members ≠ [] ∧ (∀ field ∈ trim group :: members, 0 ∉ field) ∧
        encodeFields ((trim group :: members.eraseDups).map wireName) = payload ∧
        payload.length ≤ packetDataMax := by
  have unique : ((members.map trim).filter (· ≠ [])).eraseDups = members.eraseDups := by
    rw [List.map_congr_left fun member inside => (trimmed member inside).2, List.map_id',
      List.filter_eq_self.mpr fun member inside => decide_eq_true (trimmed member inside).1]
  have some_ : members.eraseDups.length = 0 ↔ members = [] := by
    cases members <;> simp [List.eraseDups_cons]
  constructor
  · intro accepted
    obtain ⟨name, here, rest⟩ := bind_ok accepted
    obtain ⟨others, there, checks⟩ := bind_ok rest
    obtain ⟨each, rfl⟩ := assertGroupField_mapM_ok.mp there
    obtain ⟨given, nulFree, rfl⟩ := assertGroupField_ok.mp here
    obtain ⟨_, checks⟩ := check_ok checks
    obtain ⟨nonempty, encoded⟩ := check_ok checks
    rw [unique, trim_trim] at encoded
    rw [unique, some_] at nonempty
    have fields : ∀ field ∈ trim group :: others, 0 ∉ field :=
      List.forall_mem_cons.mpr ⟨nulFree, fun member inside => (each member inside).2⟩
    have once : ∀ field ∈ trim group :: others.eraseDups, 0 ∉ field := by
      simpa only [List.forall_mem_cons, List.mem_eraseDups] using fields
    obtain ⟨written, short⟩ := encodeGroupFields_ok once encoded
    exact ⟨given.resolve_left Bool.false_ne_true, nonempty, fields, written, written ▸ short⟩
  · rintro ⟨given, nonempty, fields, rfl, short⟩
    have once : ∀ field ∈ trim group :: members.eraseDups, 0 ∉ field := by
      simpa only [List.forall_mem_cons, List.mem_eraseDups] using fields
    have each : ∀ member ∈ members, member ≠ [] ∧ 0 ∉ member := fun member inside =>
      ⟨(trimmed member inside).1, fields member (List.mem_cons_of_mem _ inside)⟩
    have here : assertGroupField (trim group) "群名" false = .ok (trim group) :=
      assertGroupField_ok.mpr ⟨.inr given, fields _ List.mem_cons_self, rfl⟩
    rw [encodeGroupCreatePayload, here, assertGroupField_mapM_ok.mpr ⟨each, rfl⟩]
    simp only [Bind.bind, Except.bind, unique, trim_trim, List.length_eq_zero_iff, given, some_,
      nonempty, ↓reduceIte]
    rcases encodeGroupFields_eq once with ⟨_, long⟩ | ⟨encoded, _⟩
    · exact absurd short (Nat.not_le.mpr long)
    · exact encoded

/-- A payload that was encoded is written. -/
theorem createGroup_posts (ready : session.Ready socket) {payload : List UInt8}
    (short : payload.length ≤ packetDataMax) : ∃ packet,
      Writes session ((session.expect (.status .createGroup)).caught
        ((session.expect (.status .createGroup)).post
          (encodePacket MessageType.msgGroupCreate.code session.username [] payload))) socket
        .msgGroupCreate packet ∧ packet.payload = payload := by
  obtain ⟨packet, made, type_, _, _, content⟩ := @encodePacket_wire MessageType.msgGroupCreate.code
    session.username [] payload ready.fits (by decide) short
  refine ⟨packet, ?_, content⟩
  have posted : (session.expect (.status .createGroup)).caught
      ((session.expect (.status .createGroup)).post (.ok (wire packet))) =
        (session.queue (some (.status .createGroup))).write socket (wire packet) :=
    ready.post packet (some (.status .createGroup))
  rw [made, posted]
  exact writes_write session _ socket type_

/-- What is written for a group is the payload of its name and its members. -/
theorem handleCreateGroup_written (ready : session.Ready socket) {group : Text}
    {members : List Text} {packet : Packet} (writes : Writes session
      (session.handleCreateGroup group members) socket .msgGroupCreate packet) :
    encodeGroupCreatePayload (trim group) (session.otherMembers members) = .ok packet.payload := by
  rw [ClientSession.handleCreateGroup, ready.requireLogin] at writes
  dsimp only at writes
  split at writes
  · exact absurd writes (not_writes_send _)
  split at writes
  · exact absurd writes (not_writes_send _)
  split at writes
  · exact absurd writes (not_writes_send _)
  · rename_i payload encoded
    obtain ⟨packet', writes', content⟩ :=
      createGroup_posts ready (ClientSession.encodeGroupCreatePayload_length encoded)
    obtain rfl := writes.unique writes'
    rw [content]
    exact encoded

/-- A group with a valid name and valid members is written when its payload can be encoded. -/
theorem handleCreateGroup_writes (ready : session.Ready socket) {group : Text} {members : List Text}
    {payload : List UInt8} (name : validateGroupName (trim group) = none)
    (each : ∀ member ∈ session.otherMembers members, validatePeerName member = none)
    (encoded : encodeGroupCreatePayload (trim group) (session.otherMembers members) = .ok payload) :
    ∃ packet,
      Writes session (session.handleCreateGroup group members) socket .msgGroupCreate packet ∧
        packet.payload = payload := by
  have valid : (session.otherMembers members).find? (fun member =>
      (validatePeerName member).isSome) = none :=
    List.find?_eq_none.mpr fun member inside => by simp [each member inside]
  obtain ⟨packet, writes, content⟩ :=
    createGroup_posts ready (ClientSession.encodeGroupCreatePayload_length encoded)
  have handled : session.handleCreateGroup group members =
      (session.expect (.status .createGroup)).caught ((session.expect (.status .createGroup)).post
        (encodePacket MessageType.msgGroupCreate.code session.username [] payload)) := by
    unfold ClientSession.otherMembers at valid encoded
    rw [ClientSession.handleCreateGroup, ready.requireLogin]
    dsimp only
    rw [name, valid, encoded]
    rfl
  exact ⟨packet, handled.symm ▸ writes, content⟩

/-- The session sends its request for a group with a user among the members, and with nobody else
whom it was not asked to add. -/
def GroupAddressed (session : ClientSession) (socket : Nat) (shown : Text) (name : CString) : Prop :=
  ∀ (group : Text) (members : List Text), shown ∈ members →
    validateGroupName (trim group) = none →
    (∀ member ∈ session.otherMembers members,
      member = trim shown ∨ validatePeerName member = none ∧ 0 ∉ member) →
    (encodeFields ((trim group :: (session.otherMembers members).eraseDups).map wireName)).length ≤
      packetDataMax →
    ∃ packet named,
      Writes session (session.handleCreateGroup group members) socket .msgGroupCreate packet ∧
        packet.payload = encodeFields (wireName (trim group) :: named) ∧ name ∈ named ∧
        ∀ other ∈ named, other = name ∨
          ∃ member ∈ members, member ≠ shown ∧ other = wireName (trim member)

/-- Trimming does not lengthen a text. -/
theorem byteLength_trim_le (text : Text) : byteLength (trim text) ≤ byteLength text := by
  obtain ⟨before, after, whole⟩ := trim_inside text
  rw [byteLength, byteLength]
  nth_rewrite 2 [← whole]
  rw [Utf8.encode_append, Utf8.encode_append, List.length_append, List.length_append]
  omega

/-- A group of one member with a short name fits. -/
theorem Shows.group_fits (shows_ : Shows shown name) (session : ClientSession) :
    (encodeFields ((trim (literal "g") :: (session.otherMembers [shown]).eraseDups).map
      wireName)).length ≤ packetDataMax := by
  have fits : byteLength (trim shown) < 32 :=
    (byteLength_trim_le shown).trans_lt (ClientSession.validatePeerName_fits shows_.peer)
  have bytes : (wireName (trim shown)).length ≤ byteLength (trim shown) :=
    (List.takeWhile_sublist _).length_le
  have group : (wireName (trim (literal "g"))).length = 1 := by decide
  have few : List.Sublist (session.otherMembers [shown]) [trim shown] :=
    List.filter_sublist.trans List.filter_sublist
  rcases List.sublist_singleton.mp few with none_ | one
  · rw [none_]
    decide
  · rw [one]
    change ((wireName (trim (literal "g"))).terminated ++
      ((wireName (trim shown)).terminated ++ [])).length ≤ 1024
    rw [List.length_append, List.append_nil, CString.terminated_length, CString.terminated_length,
      group]
    omega

/-- A group has the user that is shown as a member exactly when trimming leaves the name as it is. -/
theorem groupAddressed_iff (ready : session.Ready socket) (shows_ : Shows shown name)
    (other : session.username ≠ shown) :
    GroupAddressed session socket shown name ↔ trim shown = shown := by
  have trimmed (members : List Text) :
      ∀ member ∈ session.otherMembers members, member ≠ [] ∧ trim member = member := by
    intro member inside
    obtain ⟨given, _, before, _, rfl⟩ := mem_otherMembers.mp inside
    exact ⟨given, trim_trim before⟩
  constructor
  · intro addressed
    have only : ∀ member ∈ session.otherMembers [shown], member = trim shown := by
      intro member inside
      obtain ⟨_, _, before, here, rfl⟩ := mem_otherMembers.mp inside
      rw [List.mem_singleton.mp here]
    obtain ⟨packet, named, writes, content, member, _⟩ := addressed (literal "g") [shown]
      List.mem_cons_self (by decide) (fun member inside => .inl (only member inside))
      (shows_.group_fits session)
    obtain ⟨_, _, nulFree, encoded, _⟩ := (encodeGroupCreatePayload_ok_iff (trimmed _)).mp
      (handleCreateGroup_written ready writes)
    rw [content] at encoded
    obtain ⟨_, rfl⟩ := List.cons.inj (encodeFields_injective encoded)
    obtain ⟨text, inside, rfl⟩ := List.mem_map.mp member
    rw [List.mem_eraseDups] at inside
    obtain rfl := only text inside
    exact shows_.trimmed shows_.nulFree_trim rfl
  · intro same group members listed valid each short
    have given : shown ≠ [] := by
      rintro rfl
      exact absurd shows_.peer (by decide)
    have mine : shown ∈ session.otherMembers members :=
      mem_otherMembers.mpr ⟨given, other.symm, shown, listed, same⟩
    have peers : ∀ member ∈ session.otherMembers members,
        validatePeerName member = none ∧ 0 ∉ member := by
      intro member inside
      rcases each member inside with rfl | accepted
      · rw [same]
        exact ⟨shows_.peer, shows_.nulFree⟩
      · exact accepted
    have nulFree : 0 ∉ trim group ∧ trim group ≠ [] := by
      unfold validateGroupName at valid
      split at valid
      · contradiction
      rename_i checks
      simp only [not_or] at checks
      exact ⟨checks.2.2.1, checks.1⟩
    have encoded := (encodeGroupCreatePayload_ok_iff (trimmed members)).mpr ⟨nulFree.2,
      List.ne_nil_of_mem mine, List.forall_mem_cons.mpr ⟨nulFree.1, fun member inside =>
        (peers member inside).2⟩, rfl, short⟩
    obtain ⟨packet, writes, content⟩ := handleCreateGroup_writes ready valid
      (fun member inside => (peers member inside).1) encoded
    refine ⟨packet, _, writes, content, List.mem_map.mpr ⟨shown, List.mem_eraseDups.mpr mine,
      shows_.written⟩, fun other listed => ?_⟩
    obtain ⟨member, inside, rfl⟩ := List.mem_map.mp listed
    obtain ⟨_, _, given, asked, rfl⟩ := mem_otherMembers.mp (List.mem_eraseDups.mp inside)
    by_cases user : given = shown
    · left
      rw [user, same, shows_.written]
    · exact .inr ⟨given, asked, user, rfl⟩

end Web

/-! ## The law -/

/-- Every other session that is logged in addresses a user by what is shown. -/
def Addressed (shown : Text) (name : CString) : Prop :=
  ∀ (session : ClientSession) (socket : Nat), session.Ready socket → session.username ≠ shown →
    PrivateAddressed session socket shown name ∧ FileAddressed session socket shown name ∧
      GroupAddressed session socket shown name

/-- In every reachable state, a user that is shown online is online, and other sessions address
exactly that user by what is shown when trimming leaves it as it is; when it does not, none of them
does. -/
theorem addressable_iff [Sha256] {outcomes : Nat → Outcome} {machine : ServerMachine} {shown : Text}
    (reached : ServerReachable outcomes machine)
    (readable : ∀ name, machine.state.online name = true → name.Readable)
    (displayed : ShownOnline outcomes machine shown) :
    ∃ name, machine.state.online name = true ∧ textOf name = shown ∧
      (Addressed shown name ↔ trim shown = shown) ∧
      ∀ (session : ClientSession) (socket : Nat), session.Ready socket → session.username ≠ shown →
        (PrivateAddressed session socket shown name ↔ trim shown = shown) ∧
        (FileAddressed session socket shown name ↔ trim shown = shown) ∧
        (GroupAddressed session socket shown name ↔ trim shown = shown) := by
  obtain ⟨name, online, valid, text⟩ := displayed.online reached readable
  have shows_ : Shows shown name := ⟨valid, readable name online, text⟩
  refine ⟨name, online, text, ⟨fun addressed => ?_, fun same session socket ready other => ?_⟩,
    fun session socket ready other => ⟨privateAddressed_iff ready shows_,
      fileAddressed_iff ready shows_, groupAddressed_iff ready shows_ other⟩⟩
  · by_contra spaced
    have plain : trim (literal "a") = literal "a" := by decide
    have ready : (sessionOf (literal "a")).Ready 0 :=
      ⟨rfl, by decide, by decide, rfl⟩
    have other : literal "a" ≠ shown := fun same => spaced (same ▸ plain)
    exact spaced ((privateAddressed_iff ready shows_).mp (addressed _ 0 ready other).1)
  · exact ⟨(privateAddressed_iff ready shows_).mpr same, (fileAddressed_iff ready shows_).mpr same,
      (groupAddressed_iff ready shows_ other).mpr same⟩

section

attribute [local instance] sampleDigest

/-- A user with a name of letters is addressed. -/
theorem addressable_iff_couple : ∃ name, coupleMachine.state.online name = true ∧
    textOf name = literal "ben" ∧ Addressed (literal "ben") name := by
  have ascii : (coupleMachine.state.users.users.all fun user =>
      user.username.toCString.bytes.all (· < 128)) = true := by decide
  have reached := sample_reachable couple_returns
  have readable (name : CString) : coupleMachine.state.online name = true → name.Readable :=
    online_readable ascii
  have text : textOf (CString.ofString "ben") = literal "ben" := by decide
  have displayed : ShownOnline (failingAt []) coupleMachine (literal "ben") :=
    text ▸ shownOnline_of_fits reached (fun _ _ => rfl) readable
      (by unfold OnlineListFits; decide) (by decide) (by decide)
  obtain ⟨name, online, same, addressed, _⟩ := addressable_iff reached readable displayed
  exact ⟨name, online, same, addressed.mpr (by decide)⟩

/-- Two users join whose names differ by a space. -/
def namesakes : List Input := joining 5 (CString.ofString "a") ++ joining 6 (CString.ofString "a ")

/-- The run returns. -/
theorem namesakes_returns : (serveAll (failingAt []) 0 freshServer namesakes).isSome := by
  decide

/-- The state that is reached. -/
def namesakesMachine : ServerMachine :=
  (serveAll (failingAt []) 0 freshServer namesakes).get namesakes_returns

/-- The private message to the user whose name ends in a space is written to the other. -/
theorem addressable_namesakes :
    (¬ ∀ [Sha256] (outcomes : Nat → Outcome) (machine : ServerMachine) (shown : Text),
      ServerReachable outcomes machine →
      (∀ name, machine.state.online name = true → name.Readable) →
      ShownOnline outcomes machine shown →
      ∃ name, machine.state.online name = true ∧ textOf name = shown ∧ Addressed shown name) ∧
      namesakesMachine.state.online (CString.ofString "a") = true ∧
      ∃ packet, Writes (sessionOf (literal "b"))
          ((sessionOf (literal "b")).handlePrivate (literal "a ") (literal "hi")) 0 .msgPrivate packet ∧
        packet.receiverName = CString.ofString "a" := by
  have ready : (sessionOf (literal "b")).Ready 0 := ⟨rfl, by decide, by decide, rfl⟩
  refine ⟨fun claim => ?_, by decide, ?_⟩
  · have ascii : (namesakesMachine.state.users.users.all fun user =>
        user.username.toCString.bytes.all (· < 128)) = true := by decide
    have reached := sample_reachable namesakes_returns
    have readable (name : CString) : namesakesMachine.state.online name = true → name.Readable :=
      online_readable ascii
    have text : textOf (CString.ofString "a ") = literal "a " := by decide
    have displayed : ShownOnline (failingAt []) namesakesMachine (literal "a ") :=
      text ▸ shownOnline_of_fits reached (fun _ _ => rfl) readable
        (by unfold OnlineListFits; decide) (by decide) (by decide)
    obtain ⟨name, online, same, addressed⟩ := claim _ _ _ reached readable displayed
    obtain ⟨name', online', valid, same'⟩ := displayed.online reached readable
    obtain rfl := (readable name online).textOf_inj (readable name' online') (same.trans same'.symm)
    have trimmed := (privateAddressed_iff ready ⟨valid, readable name online, same⟩).mp
      (addressed _ 0 ready (by decide)).1
    exact absurd trimmed (by decide)
  · obtain ⟨packet, writes, written⟩ := @handlePrivate_writes _ _ (literal "a ") (literal "hi") ready
      (by decide) (by decide)
    refine ⟨packet, writes, written.receiver.trans ?_⟩
    decide

end

end MultiUserChat
