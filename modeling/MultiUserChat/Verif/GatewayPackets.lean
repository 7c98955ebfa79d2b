import MultiUserChat.Verif.PacketDecoder
import MultiUserChat.Web.Session
/-!
# Malformed packets at the gateway

Which group payloads the gateway's decoders accept, and what happens to the others. A malformed frame
and a malformed file header are reported to the browser. The decoders of group payloads throw, and
nothing between `handlePacket` and the socket's event catches the error, so the gateway goes down
exactly when a packet of a group type with a payload that is not well-formed is handled.
-/

namespace MultiUserChat.Web

/-! ## Well-formed payloads -/

/-- The texts between the NULs of a payload that ends in one. -/
def fieldTexts (data : List UInt8) : List Text := (Utf8.decode data.dropLast).splitOn 0

/-- The fields of a group, with as many members as they say. -/
structure GroupRecord where
  /-- Group id. -/
  id : Text
  /-- Group name. -/
  name : Text
  /-- Name of the creator. -/
  creator : Text
  /-- The number of members as a text. -/
  memberCount : Text
  /-- Names of the members. -/
  members : List Text
  /-- The text denotes the number of members. -/
  counted : (Number.ofText memberCount).natural = some members.length

namespace GroupRecord

/-- The fields in their order. -/
def fields (record : GroupRecord) : List Text :=
  record.id :: record.name :: record.creator :: record.memberCount :: record.members

/-- The group. -/
def group (record : GroupRecord) : Group :=
  ⟨record.id, record.name, some record.creator, some record.members⟩

end GroupRecord

/-- A payload of three terminated fields. -/
def IsGroupMessage (data : List UInt8) : Prop := data.getLast? = some 0 ∧ data.count 0 = 3

/-- A payload of an event and a group. -/
def IsGroupEvent (data : List UInt8) : Prop :=
  data.getLast? = some 0 ∧ ∃ event, ∃ record : GroupRecord, fieldTexts data = event :: record.fields

/-- An empty payload, or one of a number and as many groups. -/
def IsGroupList (data : List UInt8) : Prop :=
  data = [] ∨ data.getLast? = some 0 ∧ ∃ groupCount, ∃ records : List GroupRecord,
    (Number.ofText groupCount).natural = some records.length ∧
      fieldTexts data = groupCount :: records.flatMap GroupRecord.fields

/-- A packet of a group type has a payload of its form. -/
structure GroupWellFormed (packet : ReceivedPacket) : Prop where
  /-- Group lists. -/
  list : packet.type = MessageType.msgGroupList.code → IsGroupList packet.data
  /-- Group events. -/
  event : packet.type = MessageType.msgGroupEvent.code → IsGroupEvent packet.data
  /-- Group messages. -/
  message : packet.type = MessageType.msgGroupMessage.code → IsGroupMessage packet.data

/-- A packet has a payload of its form. -/
structure WellFormed (packet : ReceivedPacket) : Prop extends GroupWellFormed packet where
  /-- File headers have one length. -/
  header : packet.type = MessageType.msgFileBegin.code → packet.data.length = fileNameMaxLen + 8

/-! ## The decoders -/

/-- A payload that ends in a NUL has its fields. -/
theorem decodeGroupFields_terminated {data : List UInt8} (last : data.getLast? = some 0) :
    decodeGroupFields data = some (fieldTexts data) := by
  have some_ : data.length ≠ 0 := by
    rintro zero
    rw [List.length_eq_zero_iff.mp zero] at last
    contradiction
  rw [decodeGroupFields, if_neg some_, if_neg (not_not_intro last)]
  rfl

/-- A payload that does not end in a NUL is refused. -/
theorem decodeGroupFields_unterminated {data : List UInt8} (some_ : data ≠ [])
    (last : data.getLast? ≠ some 0) : decodeGroupFields data = none := by
  rw [decodeGroupFields, if_neg (mt List.length_eq_zero_iff.mp some_), if_pos last]

/-- Every NUL starts another field. -/
theorem splitOn_decode_length (bytes : List UInt8) :
    ((Utf8.decode bytes).splitOn 0).length = bytes.count 0 + 1 := by
  induction size : bytes.length using Nat.strongRecOn generalizing bytes with
  | ind length ih =>
    by_cases member : 0 ∈ bytes
    · obtain ⟨field, rest, rfl⟩ := List.append_of_mem member
      rw [List.length_append, List.length_cons] at size
      have first := ih field.length (by omega) field rfl
      have later := ih rest.length (by omega) rest rfl
      rw [Utf8.decode_append_nul, List.splitOn_append_cons_self, List.length_append, first, later,
        List.count_append, List.count_cons_self]
      omega
    · rw [List.splitOn_eq_singleton (Utf8.decode_nulFree member), List.count_eq_zero.mpr member]
      rfl

/-- A payload that ends in a NUL has as many fields as NULs. -/
theorem fieldTexts_length {data : List UInt8} (last : data.getLast? = some 0) :
    (fieldTexts data).length = data.count 0 := by
  obtain ⟨front, rfl⟩ := List.getLast?_eq_some_iff.mp last
  rw [fieldTexts, List.dropLast_concat, splitOn_decode_length, List.count_append]
  rfl

/-- `decodeGroupMessagePayload` accepts three terminated fields. -/
theorem decodeGroupMessagePayload_isSome {data : List UInt8} :
    (decodeGroupMessagePayload data).isSome ↔ IsGroupMessage data := by
  unfold IsGroupMessage
  by_cases last : data.getLast? = some 0
  · rw [decodeGroupMessagePayload, decodeGroupFields_terminated last, ← fieldTexts_length last]
    match fieldTexts data with
    | [] => simp
    | [_] => simp
    | [_, _] => simp
    | [_, _, _] => simp [last]
    | _ :: _ :: _ :: _ :: _ => simp
  · have refused : decodeGroupMessagePayload data = none := by
      by_cases empty : data = []
      · subst empty
        rfl
      · rw [decodeGroupMessagePayload, decodeGroupFields_unterminated empty last]
    simp [refused, last]

/-- `parseGroupRecord` takes a record off the fields. -/
theorem parseGroupRecord_eq_some {fields rest : List Text} {group : Group} :
    parseGroupRecord fields = some (group, rest) ↔
      ∃ record : GroupRecord, fields = record.fields ++ rest ∧ group = record.group := by
  constructor
  · intro parsed
    unfold parseGroupRecord at parsed
    split at parsed
    · rename_i id name creator memberCount later
      split at parsed
      · contradiction
      · rename_i count counted
        split at parsed
        · contradiction
        · simp only [Option.some.injEq, Prod.mk.injEq] at parsed
          obtain ⟨rfl, rfl⟩ := parsed
          refine ⟨⟨id, name, creator, memberCount, later.take count, ?_⟩, ?_, rfl⟩
          · rw [counted, List.length_take, Nat.min_eq_left (by omega)]
          · simp [GroupRecord.fields]
    · contradiction
  · rintro ⟨⟨id, name, creator, memberCount, members, counted⟩, rfl, rfl⟩
    simp [parseGroupRecord, GroupRecord.fields, GroupRecord.group, counted]

/-- `parseGroupRecords` takes records off the fields. -/
theorem parseGroupRecords_eq_some {groupCount : Nat} {fields rest : List Text}
    {groups : List Group} :
    parseGroupRecords groupCount fields = some (groups, rest) ↔
      ∃ records : List GroupRecord, records.length = groupCount ∧
        fields = records.flatMap GroupRecord.fields ++ rest ∧
        groups = records.map GroupRecord.group := by
  induction groupCount generalizing fields rest groups with
  | zero =>
    rw [parseGroupRecords]
    constructor
    · intro same
      cases same
      exact ⟨[], rfl, rfl, rfl⟩
    · rintro ⟨records, empty, rfl, rfl⟩
      rw [List.length_eq_zero_iff.mp empty]
      rfl
  | succ groupCount ih =>
    simp only [parseGroupRecords, Option.bind_eq_bind, Option.bind_eq_some_iff, Option.pure_def,
      Option.some.injEq, Prod.exists, Prod.mk.injEq, parseGroupRecord_eq_some, ih]
    constructor
    · rintro ⟨_, _, ⟨record, rfl, rfl⟩, _, _, ⟨records, rfl, rfl, rfl⟩, rfl, rfl⟩
      exact ⟨record :: records, rfl, by simp, rfl⟩
    · rintro ⟨records, count, rfl, rfl⟩
      cases records with
      | nil => contradiction
      | cons record records =>
        rw [List.length_cons, Nat.add_right_cancel_iff] at count
        exact ⟨_, records.flatMap GroupRecord.fields ++ rest, ⟨record, by simp, rfl⟩, _, _,
          ⟨records, count, rfl, rfl⟩, rfl, rfl⟩

/-- `decodeGroupEventPayload` accepts an event and a group. -/
theorem decodeGroupEventPayload_isSome {data : List UInt8} :
    (decodeGroupEventPayload data).isSome ↔ IsGroupEvent data := by
  unfold IsGroupEvent
  by_cases last : data.getLast? = some 0
  · simp only [decodeGroupEventPayload, decodeGroupFields_terminated last, Option.bind_eq_bind,
      Option.bind_some, last, true_and]
    generalize fieldTexts data = fields
    constructor
    · intro decoded
      split at decoded
      · contradiction
      · split at decoded
        · contradiction
        · rename_i event later
          obtain ⟨⟨group, rest⟩, parsed, accepted⟩ :=
            Option.bind_eq_some_iff.mp (Option.some_get decoded).symm
          obtain ⟨record, rfl, _⟩ := parseGroupRecord_eq_some.mp parsed
          split at accepted
          · contradiction
          · rename_i some_
            have nothing : rest = [] := not_not.mp some_
            rw [nothing, List.append_nil]
            exact ⟨_, record, rfl⟩
    · rintro ⟨event, record, rfl⟩
      have parsed : parseGroupRecord record.fields = some (record.group, []) :=
        parseGroupRecord_eq_some.mpr ⟨record, (List.append_nil _).symm, rfl⟩
      have long : ¬ (event :: record.fields).length < 5 := by simp [GroupRecord.fields]
      simp only [if_neg long, parsed, Option.bind_some]
      rfl
  · have refused : decodeGroupEventPayload data = none := by
      by_cases empty : data = []
      · subst empty
        rfl
      · rw [decodeGroupEventPayload, decodeGroupFields_unterminated empty last]
        rfl
    simp [refused, last]

/-- `decodeGroupListPayload` accepts nothing, and a number with as many groups. -/
theorem decodeGroupListPayload_isSome {data : List UInt8} :
    (decodeGroupListPayload data).isSome ↔ IsGroupList data := by
  unfold IsGroupList
  by_cases empty : data = []
  · subst empty
    exact iff_of_true rfl (.inl rfl)
  by_cases last : data.getLast? = some 0
  · simp only [decodeGroupListPayload, decodeGroupFields_terminated last, Option.bind_eq_bind,
      Option.bind_some, last, true_and, empty, false_or]
    have some_ : fieldTexts data ≠ [] := List.splitOn_ne_nil _ _
    generalize fieldTexts data = fields at some_
    cases fields with
    | nil => contradiction
    | cons groupCount fields =>
      dsimp only
      constructor
      · intro decoded
        obtain ⟨count, counted, read⟩ :=
          Option.bind_eq_some_iff.mp (Option.some_get decoded).symm
        obtain ⟨⟨groups, rest⟩, parsed, accepted⟩ := Option.bind_eq_some_iff.mp read
        clear read
        obtain ⟨records, rfl, rfl, _⟩ := parseGroupRecords_eq_some.mp parsed
        split at accepted
        · contradiction
        · rename_i some_
          have nothing : rest = [] := not_not.mp some_
          rw [nothing, List.append_nil]
          exact ⟨groupCount, records, counted, rfl⟩
      · rintro ⟨groupCount', records, counted, same⟩
        cases same
        have parsed : parseGroupRecords records.length (records.flatMap GroupRecord.fields) =
            some (records.map GroupRecord.group, []) :=
          parseGroupRecords_eq_some.mpr ⟨records, rfl, (List.append_nil _).symm, rfl⟩
        simp only [counted, parsed, Option.bind_some]
        rfl
  · have refused : decodeGroupListPayload data = none := by
      rw [decodeGroupListPayload, decodeGroupFields_unterminated empty last]
      rfl
    simp [refused, last, empty]

namespace ClientSession

/-! ## What a packet changes -/

/-- `closeTcp` changes the connection and its sockets. -/
theorem closeTcp_eq (session : ClientSession) (sendLogout : Bool) : ∃ sockets,
    session.closeTcp sendLogout =
      { session with tcpSocket := none, tcpConfig := none, sockets } := by
  unfold closeTcp
  cases session.openSocket with
  | none => exact ⟨_, rfl⟩
  | some socket =>
    dsimp only
    split
    · split <;> exact ⟨_, rfl⟩
    · exact ⟨_, rfl⟩

/-- Entering groups changes nothing else. -/
theorem foldl_setGroup_eq (session : ClientSession) (groups : List Group) : ∃ groupsById,
    groups.foldl setGroup session = { session with groupsById } := by
  induction groups generalizing session with
  | nil => exact ⟨_, rfl⟩
  | cons group groups ih =>
    obtain ⟨groupsById, same⟩ := ih (session.setGroup group)
    exact ⟨groupsById, same⟩

/-- What a reply changes: one taken for an accepted login, one taken for a logout, and any other. -/
theorem handleCommandResponse_cases (session : ClientSession) (packet : ReceivedPacket) :
    (∃ username notices, session.pendingResponses.head? = some (.auth .login username) ∧
        packet.type = MessageType.msgOk.code ∧
        session.handleCommandResponse packet =
          { session with
            pendingResponses := session.pendingResponses.tail, groupsById := [], loggedIn := true,
            username, notices }) ∨
      (∃ notices, session.pendingResponses.head? = some (.status .logout) ∧
        session.handleCommandResponse packet =
          { session with
            pendingResponses := session.pendingResponses.tail, loggedIn := false, username := [],
            groupsById := [], notices }.closeTcp false) ∨
      (∃ notices, session.pendingResponses.head? ≠ some (.status .logout) ∧
        (packet.type = MessageType.msgOk.code → ∀ username,
          session.pendingResponses.head? ≠ some (.auth .login username)) ∧
        session.handleCommandResponse packet =
          { session with pendingResponses := session.pendingResponses.tail, notices }) := by
  unfold handleCommandResponse
  cases session.pendingResponses.head? with
  | none => exact .inr (.inr ⟨_, by simp, by simp, rfl⟩)
  | some pending =>
    cases pending with
    | auth action username =>
      dsimp only
      by_cases accepted : packet.type = MessageType.msgOk.code ∧ action = .login
      · obtain ⟨ok, rfl⟩ := accepted
        rw [if_pos ⟨ok, rfl⟩]
        exact .inl ⟨username, _, rfl, ok, rfl⟩
      · rw [if_neg accepted]
        refine .inr (.inr ⟨_, by simp, fun ok username' same => accepted ⟨ok, ?_⟩, rfl⟩)
        simp only [Option.some.injEq, Pending.auth.injEq] at same
        exact same.1
    | status action =>
      cases action with
      | logout => exact .inr (.inl ⟨_, rfl, rfl⟩)
      | _ => exact .inr (.inr ⟨_, by simp, by simp, rfl⟩)

/-- Replies go to `handleCommandResponse`. -/
theorem handlePacket_reply (session : ClientSession) {packet : ReceivedPacket}
    (reply : packet.type = MessageType.msgOk.code ∨ packet.type = MessageType.msgError.code) :
    session.handlePacket packet = some (session.handleCommandResponse packet) := by
  unfold handlePacket
  rcases reply with ok | error
  · rw [ok, MessageType.ofCode?_code]
  · rw [error, MessageType.ofCode?_code]

/-- Other packets change the incoming file, the groups and what the browser is told. -/
theorem handlePacket_other {session session' : ClientSession} {packet : ReceivedPacket}
    (notOk : packet.type ≠ MessageType.msgOk.code)
    (notError : packet.type ≠ MessageType.msgError.code)
    (handled : session.handlePacket packet = some session') : ∃ incomingFile groupsById notices,
      session' = { session with incomingFile, groupsById, notices } := by
  unfold handlePacket at handled
  cases selected : MessageType.ofCode? packet.type with
  | none =>
    rw [selected] at handled
    cases handled
    exact ⟨_, _, _, rfl⟩
  | some type =>
    have code := MessageType.code_of_ofCode? selected
    rw [selected] at handled
    cases type with
    | msgOk => exact absurd code.symm notOk
    | msgError => exact absurd code.symm notError
    | msgGroupList =>
      obtain ⟨groups, _, rest⟩ := Option.bind_eq_some_iff.mp handled
      obtain ⟨groupsById, same⟩ := foldl_setGroup_eq { session with groupsById := [] } groups
      rw [same] at rest
      cases rest
      exact ⟨_, _, _, rfl⟩
    | msgGroupEvent =>
      obtain ⟨⟨event, group⟩, _, rest⟩ := Option.bind_eq_some_iff.mp handled
      cases rest
      exact ⟨_, _, _, rfl⟩
    | msgGroupMessage =>
      obtain ⟨⟨groupId, groupName, text⟩, _, rest⟩ := Option.bind_eq_some_iff.mp handled
      cases rest
      exact ⟨_, _, _, rfl⟩
    | msgFileBegin =>
      cases handled
      unfold handleIncomingFileBegin
      split
      · exact ⟨_, _, _, rfl⟩
      · split <;> exact ⟨_, _, _, rfl⟩
    | msgFileChunk =>
      cases handled
      unfold handleIncomingFileChunk
      split <;> exact ⟨_, _, _, rfl⟩
    | msgFileEnd =>
      cases handled
      unfold handleIncomingFileEnd
      split
      · exact ⟨_, _, _, rfl⟩
      · dsimp only
        split <;> exact ⟨_, _, _, rfl⟩
    | _ =>
      cases handled
      exact ⟨_, _, _, rfl⟩

/-- A packet does not change the decoder. -/
theorem handlePacket_tcpDecoder {session session' : ClientSession} {packet : ReceivedPacket}
    (handled : session.handlePacket packet = some session') :
    session'.tcpDecoder = session.tcpDecoder := by
  by_cases reply : packet.type = MessageType.msgOk.code ∨ packet.type = MessageType.msgError.code
  · rw [handlePacket_reply session reply] at handled
    cases handled
    rcases session.handleCommandResponse_cases packet with
      ⟨_, _, _, _, same⟩ | ⟨_, _, same⟩ | ⟨_, _, _, same⟩
    · rw [same]
    · obtain ⟨_, closed⟩ := closeTcp_eq _ false
      rw [same, closed]
    · rw [same]
  · rw [not_or] at reply
    obtain ⟨_, _, _, rfl⟩ := handlePacket_other reply.1 reply.2 handled
    rfl

/-- The gateway stays up exactly when the payload of a packet of a group type has its form. -/
theorem handlePacket_isSome {session : ClientSession} {packet : ReceivedPacket} :
    (session.handlePacket packet).isSome ↔ GroupWellFormed packet := by
  by_cases list : packet.type = MessageType.msgGroupList.code
  · have decoded : (session.handlePacket packet).isSome ↔
        (decodeGroupListPayload packet.data).isSome := by
      rw [handlePacket, list, MessageType.ofCode?_code]
      cases decodeGroupListPayload packet.data <;> rfl
    rw [decoded, decodeGroupListPayload_isSome]
    refine ⟨fun formed => ⟨fun _ => formed, ?_, ?_⟩, fun formed => formed.list list⟩ <;>
      rw [list] <;> exact fun same => absurd same (by decide)
  by_cases event : packet.type = MessageType.msgGroupEvent.code
  · have decoded : (session.handlePacket packet).isSome ↔
        (decodeGroupEventPayload packet.data).isSome := by
      rw [handlePacket, event, MessageType.ofCode?_code]
      cases decodeGroupEventPayload packet.data <;> rfl
    rw [decoded, decodeGroupEventPayload_isSome]
    refine ⟨fun formed => ⟨?_, fun _ => formed, ?_⟩, fun formed => formed.event event⟩ <;>
      rw [event] <;> exact fun same => absurd same (by decide)
  by_cases message : packet.type = MessageType.msgGroupMessage.code
  · have decoded : (session.handlePacket packet).isSome ↔
        (decodeGroupMessagePayload packet.data).isSome := by
      rw [handlePacket, message, MessageType.ofCode?_code]
      cases decodeGroupMessagePayload packet.data <;> rfl
    rw [decoded, decodeGroupMessagePayload_isSome]
    refine ⟨fun formed => ⟨?_, ?_, fun _ => formed⟩, fun formed => formed.message message⟩ <;>
      rw [message] <;> exact fun same => absurd same (by decide)
  · refine iff_of_true ?_ ⟨fun same => absurd same list, fun same => absurd same event,
      fun same => absurd same message⟩
    unfold handlePacket
    cases selected : MessageType.ofCode? packet.type with
    | none => rfl
    | some type =>
      have code := MessageType.code_of_ofCode? selected
      cases type with
      | msgGroupList => exact absurd code.symm list
      | msgGroupEvent => exact absurd code.symm event
      | msgGroupMessage => exact absurd code.symm message
      | _ => rfl

/-! ## Streams -/

/-- The browser has been told of an error. -/
def Reported (session session' : ClientSession) : Prop :=
  ∃ message, session'.notices = session.notices ++ [.error none none message]

/-- No error escapes while the packets are handled, and each malformed one is reported. -/
def PacketsContained (session : ClientSession) : List ReceivedPacket → Prop
  | [] => True
  | packet :: packets => ∃ session', session.handlePacket packet = some session' ∧
      (¬ WellFormed packet → Reported session session') ∧ PacketsContained session' packets

/-- No error escapes from `handleTcpData` while the chunks arrive; malformed frames and malformed
packets are reported. -/
def ChunksContained (session : ClientSession) : List (List UInt8) → Prop
  | [] => True
  | chunk :: chunks => ∃ session', (session.handleTcpData chunk).2 = some session' ∧
      (match session.tcpDecoder.push chunk with
        | (none, _) => Reported session session'
        | (some packets, decoder) =>
          PacketsContained { session with tcpDecoder := decoder } packets) ∧
      ChunksContained session' chunks

/-- A malformed file header is reported. -/
theorem handlePacket_reported {session session' : ClientSession} {packet : ReceivedPacket}
    (formed : GroupWellFormed packet) (malformed : ¬ WellFormed packet)
    (handled : session.handlePacket packet = some session') : Reported session session' := by
  have header : packet.type = MessageType.msgFileBegin.code ∧
      packet.data.length ≠ fileNameMaxLen + 8 := by
    by_contra fine
    exact malformed ⟨formed, fun type => not_not.mp fun length => fine ⟨type, length⟩⟩
  rw [handlePacket, header.1, MessageType.ofCode?_code] at handled
  cases handled
  rw [handleIncomingFileBegin, decodeFileBeginPayload, if_pos header.2]
  exact ⟨_, rfl⟩

/-- Packets are contained when those of a group type are well-formed. -/
theorem packetsContained_iff {session : ClientSession} {packets : List ReceivedPacket} :
    session.PacketsContained packets ↔ ∀ packet ∈ packets, GroupWellFormed packet := by
  induction packets generalizing session with
  | nil => exact iff_of_true trivial (by simp)
  | cons packet packets ih =>
    rw [List.forall_mem_cons]
    constructor
    · rintro ⟨session', handled, _, later⟩
      exact ⟨handlePacket_isSome.mp (Option.isSome_of_eq_some handled), ih.mp later⟩
    · rintro ⟨formed, later⟩
      obtain ⟨session', handled⟩ :=
        Option.isSome_iff_exists.mp ((@handlePacket_isSome session packet).mpr formed)
      exact ⟨session', handled, fun malformed => handlePacket_reported formed malformed handled,
        ih.mpr later⟩

/-- When no error escapes, the decoder is as it was. -/
theorem handlePackets_contained {session : ClientSession} {packets : List ReceivedPacket}
    (contained : session.PacketsContained packets) : ∃ session',
      session.handlePackets packets = (packets, some session') ∧
        session'.tcpDecoder = session.tcpDecoder := by
  induction packets generalizing session with
  | nil => exact ⟨session, rfl, rfl⟩
  | cons packet packets ih =>
    obtain ⟨between, handled, _, later⟩ := contained
    obtain ⟨session', passed, same⟩ := ih later
    refine ⟨session', ?_, same.trans (handlePacket_tcpDecoder handled)⟩
    rw [handlePackets, handled]
    simp only [passed]

/-- A chunk that is malformed is reported, and leaves the decoder as `push` does. -/
theorem handleTcpData_rejected {session : ClientSession} {chunk : List UInt8}
    (rejected : (packetFraming.decode (session.tcpDecoder.buffer ++ chunk)).rejected = true) :
    ∃ session', session.handleTcpData chunk = ([], some session') ∧ Reported session session' ∧
      session'.tcpDecoder = ⟨(packetFraming.decode (session.tcpDecoder.buffer ++ chunk)).rest⟩ := by
  rw [handleTcpData, PacketDecoder.push_eq, if_pos rejected]
  obtain ⟨sockets, same⟩ := closeTcp_eq
    ({ session with tcpDecoder :=
        ⟨(packetFraming.decode (session.tcpDecoder.buffer ++ chunk)).rest⟩ }.send
      (.error none none (literal ("协议解析失败：packet data length exceeds " ++
        toString packetDataMax ++ " bytes")))) false
  exact ⟨_, rfl, by rw [same]; exact ⟨_, rfl⟩, by rw [same]; rfl⟩

/-- The packets of a chunk that is not malformed are handled. -/
theorem handleTcpData_accepted {session : ClientSession} {chunk : List UInt8}
    (accepted : (packetFraming.decode (session.tcpDecoder.buffer ++ chunk)).rejected = false) :
    session.tcpDecoder.push chunk =
        (some ((packetFraming.decode (session.tcpDecoder.buffer ++ chunk)).frames.map packetOfFrame),
          ⟨(packetFraming.decode (session.tcpDecoder.buffer ++ chunk)).rest⟩) ∧
      session.handleTcpData chunk =
        { session with
          tcpDecoder := ⟨(packetFraming.decode (session.tcpDecoder.buffer ++ chunk)).rest⟩
        }.handlePackets
          ((packetFraming.decode (session.tcpDecoder.buffer ++ chunk)).frames.map packetOfFrame) := by
  have pushed : session.tcpDecoder.push chunk =
      (some ((packetFraming.decode (session.tcpDecoder.buffer ++ chunk)).frames.map packetOfFrame),
        ⟨(packetFraming.decode (session.tcpDecoder.buffer ++ chunk)).rest⟩) := by
    rw [PacketDecoder.push_eq, accepted]
    rfl
  rw [handleTcpData, pushed]
  exact ⟨rfl, rfl⟩

/-- In every state of a session and for all chunks: no error escapes from `handleTcpData`, and
malformed frames and packets are reported to the browser, exactly when every packet of a group type
that the chunks complete has a payload of its form. -/
theorem chunksContained_iff (session : ClientSession) (chunks : List (List UInt8)) :
    session.ChunksContained chunks ↔
      ∀ frame ∈ (packetFraming.feed session.tcpDecoder.buffer chunks).frames,
        GroupWellFormed (packetOfFrame frame) := by
  induction chunks generalizing session with
  | nil => exact iff_of_true trivial (by simp [Framing.feed_nil])
  | cons chunk chunks ih =>
    cases answer : (packetFraming.decode (session.tcpDecoder.buffer ++ chunk)).rejected with
    | true =>
      obtain ⟨session', handled, reported, decoder⟩ := handleTcpData_rejected answer
      rw [Framing.feed_rejected chunks answer]
      refine iff_of_true ⟨session', by rw [handled], ?_, (ih session').mpr ?_⟩ (by simp)
      · rw [PacketDecoder.push_eq, if_pos answer]
        exact reported
      · rw [decoder, Framing.feed_malformed (Framing.decode_rest_rejected answer)]
        exact fun frame member => absurd member List.not_mem_nil
    | false =>
      obtain ⟨pushed, handled⟩ := handleTcpData_accepted answer
      rw [Framing.feed_accepted chunks answer, List.forall_mem_append]
      have first (handling : ClientSession) : handling.PacketsContained
            ((packetFraming.decode (session.tcpDecoder.buffer ++ chunk)).frames.map packetOfFrame) ↔
          ∀ frame ∈ (packetFraming.decode (session.tcpDecoder.buffer ++ chunk)).frames,
            GroupWellFormed (packetOfFrame frame) :=
        packetsContained_iff.trans List.forall_mem_map
      constructor
      · rintro ⟨session', handled', contained, later⟩
        rw [pushed] at contained
        obtain ⟨session'', whole, decoder⟩ := handlePackets_contained contained
        rw [handled, whole, Option.some.injEq] at handled'
        have later := (ih session').mp later
        rw [← handled', decoder] at later
        exact ⟨(first _).mp contained, later⟩
      · rintro ⟨formed, later⟩
        have contained := (first { session with tcpDecoder :=
          ⟨(packetFraming.decode (session.tcpDecoder.buffer ++ chunk)).rest⟩ }).mpr formed
        obtain ⟨session', whole, decoder⟩ := handlePackets_contained contained
        refine ⟨session', by rw [handled, whole], by rwa [pushed], (ih session').mpr ?_⟩
        rwa [decoder]

/-- One byte fits into a packet. -/
theorem oneByte_fits : ([1] : List UInt8).length ≤ packetDataMax := by decide

/-- A group list whose only byte is no NUL. -/
def unterminatedList : Sendable where
  type := MessageType.msgGroupList.code
  sender := []
  receiver := []
  data := [1]
  sender_nulFree := nil_nulFree
  receiver_nulFree := nil_nulFree
  sender_fits := encode_nil_fits
  receiver_fits := encode_nil_fits
  data_fits := oneByte_fits

/-- A list without a terminator brings a session down that has just been opened. -/
theorem handleTcpData_unterminatedList :
    ¬ ∀ (session : ClientSession) (chunks : List (List UInt8)), session.ChunksContained chunks := by
  intro claim
  obtain ⟨session', handled, _⟩ := claim {} [wire unterminatedList.packet]
  have escaped : (handleTcpData {} (wire unterminatedList.packet)).2 = none := by decide
  rw [escaped] at handled
  contradiction

end ClientSession

end MultiUserChat.Web
