import MultiUserChat.Verif.AcceptedText
import MultiUserChat.Verif.GroupMessage
import MultiUserChat.Verif.PayloadFormat
/-!
# The texts of group messages

The gateway checks the text of a group message with its NUL against the size of a packet. The server
puts the id and the name of the group in front of it and checks the whole against the same size. The
checks agree exactly on texts that leave room for the id, the name and their NULs.
-/

namespace MultiUserChat

namespace Web

variable {session : ClientSession} {socket : Nat} {groupId text : Text} {payload : List UInt8}

/-- The payload that a text is encoded to is the text with its NUL; the group is named and the text is
not empty and has no NUL. -/
theorem encodeGroupMessagePayload_ok (encoded : encodeGroupMessagePayload groupId text = .ok payload) :
    groupId ≠ [] ∧ 0 ∉ groupId ∧ text ≠ [] ∧ 0 ∉ text ∧ payload = (wireName text).terminated := by
  obtain ⟨_, group, later⟩ := bind_ok encoded
  obtain ⟨field, content, written⟩ := bind_ok later
  obtain ⟨named, plain, _⟩ := assertGroupField_ok.mp group
  obtain ⟨given, nulFree, rfl⟩ := assertGroupField_ok.mp content
  refine ⟨named.resolve_left Bool.false_ne_true, plain, given.resolve_left Bool.false_ne_true,
    nulFree, ?_⟩
  rw [← (encodeGroupFields_ok (List.forall_mem_singleton.mpr nulFree) written).1, List.map_singleton,
    encodeFields_cons, encodeFields_nil, List.append_nil]

/-- A group message is written. -/
theorem handleGroupMessage_writes (ready : session.Ready socket) (message : validateText text = none)
    (idFits : byteLength (trim groupId) < usernameMaxLen)
    (encoded : encodeGroupMessagePayload (trim groupId) text = .ok payload) :
    ∃ packet, Writes session (session.handleGroupMessage groupId text) socket .msgGroupMessage packet ∧
      packet.receiverName = wireName (trim groupId) ∧ packet.payload = payload := by
  obtain ⟨named, _, _, nulFree, content⟩ := encodeGroupMessagePayload_ok encoded
  have textFits := ClientSession.validateText_fits message
  rw [encode_terminated nulFree, ← content] at textFits
  obtain ⟨packet, made, type_, _, receiver, data⟩ :=
    encodePacket_wire MessageType.msgGroupMessage.code ready.fits idFits textFits
  refine ⟨packet, ?_, receiver, data⟩
  have posted := post_queue ready.opened (some (.status .sendGroupMessage)) (wire packet)
  have whole : session.groupMessagePacket groupId text = .ok (wire packet) := by
    rw [ClientSession.groupMessagePacket, encoded]
    exact made
  rw [← whole] at posted
  have handled : session.handleGroupMessage groupId text =
      (session.queue (some (.status .sendGroupMessage))).write socket (wire packet) := by
    rw [ClientSession.handleGroupMessage, ready.requireLogin]
    dsimp only
    rw [if_neg named, message]
    dsimp only
    split
    · rename_i posts
      exact Except.ok.inj (posts.symm.trans posted)
    · rename_i posts
      cases posts.symm.trans posted
  rw [handled]
  exact writes_write session _ socket type_

end Web

/-- What the gateway accepts: the id and the text are read by the server as they are, and it has a text
in the payload. -/
theorem accepted_read {groupId text : Web.Text} {payload : List UInt8}
    (encoded : Web.encodeGroupMessagePayload groupId text = .ok payload) :
    (Web.wireName groupId).length = Web.byteLength groupId ∧
      (Web.wireName text).length = Web.byteLength text ∧ (Web.wireName text).length ≠ 0 ∧
      ∀ packet : Packet, packet.payload = payload → packet.dataText = Web.wireName text := by
  obtain ⟨_, plain, given, nulFree, content⟩ := Web.encodeGroupMessagePayload_ok encoded
  have bytes : (Web.wireName text).bytes = Utf8.encode text := Web.ofBytes_encode_iff.mpr nulFree
  refine ⟨congrArg List.length (Web.ofBytes_encode_iff.mpr plain), congrArg List.length bytes, ?_, ?_⟩
  · rw [CString.length, bytes, Ne, List.length_eq_zero_iff, Utf8.encode_eq_nil]
    exact given
  · intro packet data
    rw [packet.dataText_eq, data, content]
    exact CString.ofBytes_append_nul _ []

/-- A message payload has three fields, each with its NUL. -/
theorem encodeFields_messageFields_length (group : GroupSnapshot) (text : CString) :
    (encodeFields (messageFields group text)).length =
      group.id.length + group.name.length + text.length + 3 := by
  simp only [messageFields, encodeFields_cons, encodeFields_nil, List.length_append,
    CString.terminated_length, List.length_nil]
  omega

/-- A message payload is built exactly when its three fields fit. -/
theorem groupPayloadBuildMessage_iff {group : GroupSnapshot} {text : CString}
    (nonempty : text.length ≠ 0) :
    (groupPayloadBuildMessage group text).1 = .ok ↔
      group.id.length + group.name.length + text.length + 3 ≤ packetDataMax := by
  rw [← encodeFields_messageFields_length]
  constructor
  · intro built
    by_contra full
    rw [groupPayloadBuildMessage_full nonempty (Nat.not_le.mp full)] at built
    contradiction
  · intro fits
    obtain ⟨_, built, _⟩ := groupPayloadBuildMessage_fits nonempty fits
    rw [built]

/-! ## The law -/

section

variable [Sha256] {group : GroupSnapshot} {groupId text : Web.Text} {payload : List UInt8}

/-- A session that is logged in writes a packet of a text for a group that the server does not refuse
for its size: the payload that is sent on is built, and in every state that is reached, while sends
succeed, the message of a member is delivered to all members. -/
def GroupTextSent (group : GroupSnapshot) (groupId text : Web.Text) : Prop :=
  ∀ (session : Web.ClientSession) (socket : Nat), session.Ready socket → ∃ packet,
    Web.Writes session (session.handleGroupMessage groupId text) socket .msgGroupMessage packet ∧
      (groupPayloadBuildMessage group packet.dataText).1 = .ok ∧
      ∀ (outcomes : Nat → Outcome) (machine : ServerMachine) (fd : Int) (username : CString),
        ServerReachable outcomes machine → SendsSucceed outcomes machine →
          userStoreUsernameByFd machine.state.users fd = some username →
          groupStoreGetSnapshot machine.state.groups packet.receiverName = .ok group →
          username ∈ group.memberNames →
          ∃ final, (processPacket fd packet).Runs (serverSemantics outcomes) machine () final ∧
            GroupMessageDelivered machine final fd packet username group

/-- A member's message whose payload is built is delivered. -/
theorem groupMessage_delivered {outcomes : Nat → Outcome} {machine : ServerMachine} {fd : Int}
    {packet : Packet} {username text : CString} (reached : ServerReachable outcomes machine)
    (success : SendsSucceed outcomes machine)
    (session : userStoreUsernameByFd machine.state.users fd = some username)
    (listed : groupStoreGetSnapshot machine.state.groups packet.receiverName = .ok group)
    (member : username ∈ group.memberNames)
    (type : packet.type = MessageType.msgGroupMessage.code) (data : packet.payload = text.terminated)
    (nonempty : text.length ≠ 0)
    (fits : group.id.length + group.name.length + text.length + 3 ≤ packetDataMax) :
    ∃ final, (processPacket fd packet).Runs (serverSemantics outcomes) machine () final ∧
      GroupMessageDelivered machine final fd packet username group := by
  have found := (serverReachable_wellFormed reached).groups.getSnapshot_ok.mp listed
  have read : packet.dataText = text := by
    rw [packet.dataText_eq, data]
    exact CString.ofBytes_append_nul text []
  have accepted : GroupMessageAccepted machine.state fd packet username group := by
    refine ⟨session, found, member, ?_, ?_, ?_⟩
    · rw [data]
      exact List.getLast?_concat
    · intro start
      exact nonempty (read ▸ packet.dataText_length_eq_zero.mpr (.inr start))
    · rw [read, encodeFields_messageFields_length]
      exact fits
  obtain ⟨final, ran, _, ⟨user, other, taken, delivered⟩ | ⟨unaccepted, _⟩⟩ :=
    processPacket_groupMessage reached success fd type
  · obtain rfl : user = username := Option.some.inj (taken.session.symm.trans session)
    obtain rfl : other = group := Option.some.inj (taken.listed.symm.trans found)
    exact ⟨final, ran, delivered⟩
  · exact absurd accepted (unaccepted _ _)

/-- A text that is sent on leaves room for the id and the name. -/
theorem GroupTextSent.fits (sent : GroupTextSent group groupId text)
    (named : Web.wireName (Web.trim groupId) = group.id.toCString)
    (valid : Web.validateText text = none)
    (encoded : Web.encodeGroupMessagePayload (Web.trim groupId) text = .ok payload) :
    group.id.length + group.name.length + Web.byteLength text + 3 ≤ packetDataMax := by
  obtain ⟨id, length, nonempty, read⟩ := accepted_read encoded
  have idFits := group.id.fits
  rw [← CString.length, ← named, id] at idFits
  have ready : (Web.sessionOf (Web.literal "a")).Ready 0 := ⟨rfl, by decide, by decide, rfl⟩
  obtain ⟨packet, writes, built, _⟩ := sent _ 0 ready
  obtain ⟨packet', writes', _, data⟩ := Web.handleGroupMessage_writes ready valid idFits encoded
  rw [writes.unique writes', read packet' data] at built
  rw [← length]
  exact (groupPayloadBuildMessage_iff nonempty).mp built

/-- A text that the gateway accepts for a group reaches it exactly when the id and the name of the
group, the text and their three NULs fit into a packet. -/
theorem groupTextSent_iff (named : Web.wireName (Web.trim groupId) = group.id.toCString)
    (valid : Web.validateText text = none)
    (encoded : Web.encodeGroupMessagePayload (Web.trim groupId) text = .ok payload) :
    GroupTextSent group groupId text ↔
      group.id.length + group.name.length + Web.byteLength text + 3 ≤ packetDataMax := by
  refine ⟨fun sent => sent.fits named valid encoded, fun fits session socket ready => ?_⟩
  obtain ⟨id, length, nonempty, read⟩ := accepted_read encoded
  have idFits := group.id.fits
  rw [← CString.length, ← named, id] at idFits
  rw [← length] at fits
  obtain ⟨packet, writes, receiver, data⟩ := Web.handleGroupMessage_writes ready valid idFits encoded
  refine ⟨packet, writes, ?_, ?_⟩
  · rw [read packet data]
    exact (groupPayloadBuildMessage_iff nonempty).mpr fits
  · intro outcomes machine fd username reached success user listed member
    have content := (Web.encodeGroupMessagePayload_ok encoded).2.2.2.2
    exact groupMessage_delivered reached success user listed member writes.2
      (data.trans content) nonempty fits

end

section

attribute [local instance] sampleDigest

/-- The group of three, with the id that its members know it by. -/
theorem team_listed : ∃ group ∈ teamMachine.state.groups.head,
    Web.wireName (Web.trim (Web.literal "g000001")) = group.id.toCString ∧
      group.id.length + group.name.length ≤ 94 := by
  decide

/-- A short text for the group of three is sent on. -/
theorem groupTextSent_iff_team : ∃ group ∈ teamMachine.state.groups.head,
    GroupTextSent group (Web.literal "g000001") (Web.literal "你好") := by
  obtain ⟨group, listed, named, short⟩ := team_listed
  have length : Web.byteLength (Web.literal "你好") = 6 := by decide +kernel
  have payload : Web.encodeGroupMessagePayload (Web.trim (Web.literal "g000001"))
      (Web.literal "你好") = .ok (Utf8.encode (Web.literal "你好" ++ [0])) := by decide +kernel
  refine ⟨group, listed, (groupTextSent_iff named (by decide +kernel) payload).mpr ?_⟩
  rw [length]
  change _ ≤ 1024
  omega

/-- The longest text that the gateway accepts. -/
def longText : Web.Text := List.replicate 1023 120

/-- The longest text that the gateway accepts is refused for every group. -/
theorem groupTextSent_long :
    ¬ ∀ (outcomes : Nat → Outcome) (machine : ServerMachine) (group : GroupSnapshot)
      (groupId text : Web.Text) (payload : List UInt8), ServerReachable outcomes machine →
      group ∈ machine.state.groups.head →
      Web.wireName (Web.trim groupId) = group.id.toCString → Web.validateText text = none →
      Web.encodeGroupMessagePayload (Web.trim groupId) text = .ok payload →
      GroupTextSent group groupId text := by
  intro claim
  obtain ⟨group, listed, named, _⟩ := team_listed
  have length : Web.byteLength longText = 1023 := by decide +kernel
  have valid : Web.validateText longText = none := by decide +kernel
  have payload : Web.encodeGroupMessagePayload (Web.trim (Web.literal "g000001")) longText =
      .ok (Utf8.encode (longText ++ [0])) := by decide +kernel
  have fits := (claim _ _ group _ longText _ (sample_reachable team_returns) listed named valid
    payload).fits named valid payload
  rw [length] at fits
  change _ ≤ 1024 at fits
  omega

end

end MultiUserChat
