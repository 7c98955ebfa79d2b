import MultiUserChat.Verif.Membership
import MultiUserChat.Verif.Payload
/-!
# The delivery of group messages

A `MSG_GROUP_MESSAGE` packet is refused with one error, or each member of its group gets one message
and the sender one confirmation. `GroupMessageAccepted` states what decides between the two; members
are online and distinct in every reachable state, so no member is missed and none served twice.
-/

namespace MultiUserChat

open Program

/-- The user of the session, the group that the receiver field names and the data make a group
message that is sent on. -/
structure GroupMessageAccepted (state : ServerState) (fd : Int) (packet : Packet)
    (username : CString) (group : GroupSnapshot) : Prop where
  /-- The user is logged in on the descriptor. -/
  session : userStoreUsernameByFd state.users fd = some username
  /-- The group exists. -/
  listed : (state.groups.head.find? fun group => group.id.toCString = packet.receiverName) = some group
  /-- The user is a member. -/
  member : username ∈ group.memberNames
  /-- The data ends in a NUL. -/
  terminated : packet.payload.getLast? = some 0
  /-- The data does not start with a NUL. -/
  text : packet.payload.head? ≠ some 0
  /-- The payload that is sent on fits. -/
  fits : (encodeFields (messageFields group packet.dataText)).length ≤ packetDataMax

/-- Each member was sent one message with the text on its own descriptor, in member order, the
sender got one confirmation, and nothing else was sent. -/
structure GroupMessageDelivered (before after : ServerMachine) (fd : Int) (packet : Packet)
    (username : CString) (group : GroupSnapshot) : Prop where
  /-- No member is listed twice. -/
  distinct : group.memberNames.Nodup
  /-- Each member is logged in on the descriptor that is used for it. -/
  own : ∀ member ∈ group.memberNames,
    before.state.LoggedIn (before.state.descriptorOf member) member
  /-- The message and the confirmation are all that was sent. -/
  sent : ∃ message reply : Packet,
    (message.type = MessageType.msgGroupMessage.code ∧ message.senderName = username ∧
      message.receiverName = group.id.toCString ∧
      Web.decodeGroupMessagePayload message.payload =
        some (Utf8.decode group.id.bytes, Utf8.decode group.name.bytes,
          Utf8.decode (CString.ofBytes packet.payload).bytes)) ∧
    reply.type = MessageType.msgOk.code ∧
    deliveries before after =
      group.memberNames.map (fun member => (before.state.descriptorOf member, message)) ++
        [(fd, reply)]

/-- The stores are as they were, and the message was delivered if it was acceptable and refused
otherwise. -/
def GroupMessageSettled (before after : ServerMachine) (fd : Int) (packet : Packet)
    (username : CString) : Prop :=
  after.state = before.state ∧
    ((∃ group, GroupMessageAccepted before.state fd packet username group ∧
        GroupMessageDelivered before after fd packet username group) ∨
      (∀ group, ¬ GroupMessageAccepted before.state fd packet username group) ∧
        RepliedError before after fd)

/-- What a lookup is followed by may be seen from before the lookup. -/
theorem GroupMessageSettled.of_lookup {machine looked final : ServerMachine} {fd : Int}
    {packet : Packet} {username : CString} (same : looked.state = machine.state)
    (silent : deliveries machine final = deliveries looked final)
    (settled : GroupMessageSettled looked final fd packet username) :
    GroupMessageSettled machine final fd packet username := by
  obtain ⟨kept, ⟨group, accepted, distinct, own, sent⟩ | ⟨unaccepted, refused⟩⟩ := settled
  · rw [same] at accepted own
    rw [same, ← silent] at sent
    exact ⟨kept.trans same, .inl ⟨group, accepted, distinct, own, sent⟩⟩
  · rw [same] at unaccepted
    rw [RepliedError, ← silent] at refused
    exact ⟨kept.trans same, .inr ⟨unaccepted, refused⟩⟩

section

variable [Sha256] {outcomes : Nat → Outcome} {machine final : ServerMachine} {fd : Int}
  {packet : Packet} {username : CString}

/-- A message with text from a member to a group is sent to all members and confirmed when its
payload fits, and refused otherwise. -/
theorem sendGroupMessageFor_member {group : GroupSnapshot}
    (success : SendsSucceed outcomes machine) (wellFormed : machine.state.WellFormed)
    (online : machine.state.MembersOnline)
    (session : userStoreUsernameByFd machine.state.users fd = some username)
    (listed : (machine.state.groups.head.find? fun group =>
      group.id.toCString = packet.receiverName) = some group)
    (member : username ∈ group.memberNames) (terminated : packet.payload.getLast? = some 0)
    (nonempty : packet.dataText.length ≠ 0)
    (ran : (match groupPayloadBuildMessage group packet.dataText with
      | (.ok, payload) => do
        sendToMembers .msgGroupMessage username group.id.toCString payload group.memberNames
        sendTextResponse fd .msgOk (CString.ofString "群聊消息已发送")
      | (result, _) => sendTextResponse fd .msgError (groupResultMessage result) :
      Handler Unit).Runs (serverSemantics outcomes) machine () final) :
    final.state = machine.state ∧
      (GroupMessageAccepted machine.state fd packet username group ∧
          GroupMessageDelivered machine final fd packet username group ∨
        packetDataMax < (encodeFields (messageFields group packet.dataText)).length ∧
          RepliedError machine final fd) := by
  have here := List.mem_of_find?_eq_some listed
  have sound := wellFormed.groups.groups group here
  by_cases fits : (encodeFields (messageFields group packet.dataText)).length ≤ packetDataMax
  · obtain ⟨payload, built, data⟩ := groupPayloadBuildMessage_fits nonempty fits
    rw [built] at ran
    obtain ⟨⟨⟩, middle, fanOut, answered⟩ := (runs_bind _ _ _ _ _ _).mp ran
    have accepted : (packetInit MessageType.msgGroupMessage.code username group.id.toCString
        payload.data).isSome := packetInit_isSome.mpr payload.length_le
    obtain ⟨message, initialised⟩ := Option.isSome_iff_exists.mp accepted
    obtain ⟨type, sender, receiver, content⟩ := packetInit_eq initialised
    obtain ⟨same, copies⟩ :=
      sendToMembers_delivers success initialised wellFormed (online group here) fanOut
    obtain ⟨still, reply, replyType, confirmed⟩ :=
      sendTextResponse_delivers (success.later (extends_of_runs fanOut)) (by decide) answered
    have short : username.length < usernameMaxLen := by
      have legal := sound.valid username member
      simp only [validMemberName, Bool.and_eq_true, decide_eq_true_eq] at legal
      exact legal.1.1.2
    refine ⟨still.trans same, .inl ⟨⟨session, listed, member, terminated, ?_, fits⟩,
      ⟨sound.distinct, fun other inside => ?_, message, reply, ⟨type, ?_, ?_, ?_⟩, replyType, ?_⟩⟩⟩
    · exact fun empty => nonempty (packet.dataText_length_eq_zero.mpr (.inr empty))
    · exact (getFd_online wellFormed (online group here other inside)).2
    · rw [Packet.senderName, sender, ofBytes_copyFixedString short]
    · rw [Packet.receiverName, receiver, ofBytes_copyFixedString group.id.fits]
    · rw [content, data, messageFields, decodeGroupMessagePayload_encodeFields, Packet.dataText_eq]
    · rw [deliveries_append (extends_of_runs fanOut) (extends_of_runs answered), copies, confirmed]
  · have full := Nat.lt_of_not_le fits
    have refused := groupPayloadBuildMessage_full nonempty full
    have answered : (sendTextResponse fd .msgError (groupResultMessage .errPayload)).Runs
        (serverSemantics outcomes) machine () final := by
      cases built : groupPayloadBuildMessage group packet.dataText with
      | mk result payload =>
        rw [built] at ran refused
        cases refused
        exact ran
    obtain ⟨same, refusal⟩ :=
      sendTextResponse_delivers success (groupResultMessage_short _) answered
    exact ⟨same, .inr ⟨full, refusal⟩⟩

/-- A refusal answers with one error and leaves the state as it is. -/
theorem refusal_refuses {message : CString} (success : SendsSucceed outcomes machine)
    (short : message.length + 1 ≤ packetDataMax)
    (ran : (sendTextResponse fd .msgError message).Runs (serverSemantics outcomes) machine () final)
    (unaccepted : ∀ group, ¬ GroupMessageAccepted machine.state fd packet username group) :
    GroupMessageSettled machine final fd packet username := by
  obtain ⟨same, reply⟩ := sendTextResponse_delivers success short ran
  exact ⟨same, .inr ⟨unaccepted, reply⟩⟩

/-- A message with text to an existing group is settled: its user is a member or is refused. -/
theorem sendGroupMessageFor_listed {group : GroupSnapshot}
    (success : SendsSucceed outcomes machine) (wellFormed : machine.state.WellFormed)
    (online : machine.state.MembersOnline)
    (session : userStoreUsernameByFd machine.state.users fd = some username)
    (listed : (machine.state.groups.head.find? fun group =>
      group.id.toCString = packet.receiverName) = some group)
    (terminated : packet.payload.getLast? = some 0) (nonempty : packet.dataText.length ≠ 0)
    (ran : (if !groupSnapshotHasMember group username then
        sendTextResponse fd .msgError (groupResultMessage .errNotMember)
      else
        match groupPayloadBuildMessage group packet.dataText with
        | (.ok, payload) => do
          sendToMembers .msgGroupMessage username group.id.toCString payload group.memberNames
          sendTextResponse fd .msgOk (CString.ofString "群聊消息已发送")
        | (result, _) => sendTextResponse fd .msgError (groupResultMessage result) :
      Handler Unit).Runs (serverSemantics outcomes) machine () final) :
    GroupMessageSettled machine final fd packet username := by
  have sound := wellFormed.groups.groups group (List.mem_of_find?_eq_some listed)
  have sole : ∀ other, GroupMessageAccepted machine.state fd packet username other →
      other = group := fun other accepted =>
    Option.some.inj (accepted.listed.symm.trans listed)
  by_cases member : username ∈ group.memberNames
  · rw [if_neg (by simp [sound.hasMember_iff.mpr member])] at ran
    obtain ⟨kept, delivered | ⟨full, refused⟩⟩ := sendGroupMessageFor_member success wellFormed
      online session listed member terminated nonempty ran
    · exact ⟨kept, .inl ⟨group, delivered⟩⟩
    · refine ⟨kept, .inr ⟨fun other accepted => ?_, refused⟩⟩
      have fits := accepted.fits
      rw [sole other accepted] at fits
      omega
  · have stranger : groupSnapshotHasMember group username = false :=
      Bool.eq_false_iff.mpr fun inside => member (sound.hasMember_iff.mp inside)
    rw [if_pos (by simp [stranger])] at ran
    refine refusal_refuses success (groupResultMessage_short _) ran fun other accepted => ?_
    exact member (sole other accepted ▸ accepted.member)

/-- A group message of the user of a session is sent to all members and confirmed, or refused. -/
theorem sendGroupMessageFor_settles (success : SendsSucceed outcomes machine)
    (wellFormed : machine.state.WellFormed) (online : machine.state.MembersOnline)
    (session : userStoreUsernameByFd machine.state.users fd = some username)
    (ran : (sendGroupMessageFor fd packet username).Runs (serverSemantics outcomes) machine ()
      final) : GroupMessageSettled machine final fd packet username := by
  unfold sendGroupMessageFor packetTextData at ran
  by_cases terminated : packet.payload.getLast? = some 0
  case neg =>
    rw [if_pos (.inr terminated)] at ran
    exact refusal_refuses success (by decide) ran
      fun group accepted => terminated accepted.terminated
  have some_ : packet.payload ≠ [] := by
    intro none
    rw [none] at terminated
    contradiction
  have length : packet.length ≠ 0 := by
    rw [← packet.payload_length]
    exact fun zero => some_ (List.length_eq_zero_iff.mp zero)
  rw [if_neg (by simp [length, terminated])] at ran
  dsimp only at ran
  by_cases empty : packet.dataText.length = 0
  · rw [if_pos (.inr empty)] at ran
    refine refusal_refuses success (by decide) ran fun group accepted => accepted.text ?_
    exact ((packet.dataText_length_eq_zero).mp empty).resolve_left some_
  by_cases nameless : packet.receiverName.length = 0
  · rw [if_pos (.inl nameless)] at ran
    refine refusal_refuses success (by decide) ran fun group accepted => ?_
    -- No group has an empty id.
    have same : group.id.toCString = packet.receiverName := by
      simpa using List.find?_some accepted.listed
    have legal := wellFormed.groups.identified group (List.mem_of_find?_eq_some accepted.listed)
    simp [validGroupId, same, nameless] at legal
  rw [if_neg (by simp [nameless, empty])] at ran
  simp only [perform_bind, done_bind, runs_perform, answer_groupGetSnapshot] at ran
  set looked := machine.after (serverSemantics outcomes) (.groupGetSnapshot packet.receiverName)
  obtain ⟨same, later, silent⟩ := looked_up success rfl (by simp) ran
  refine GroupMessageSettled.of_lookup same silent ?_
  rw [← same] at wellFormed online session
  cases found : groupStoreGetSnapshot looked.state.groups packet.receiverName with
  | error result =>
    rw [← same, found] at ran
    refine refusal_refuses later (groupResultMessage_short result) ran fun group accepted => ?_
    rw [wellFormed.groups.getSnapshot_ok.mpr accepted.listed] at found
    contradiction
  | ok group =>
    rw [← same, found] at ran
    exact sendGroupMessageFor_listed later wellFormed online session
      (wellFormed.groups.getSnapshot_ok.mp found) terminated empty ran

/-- In every reachable state, while sends succeed, a group message is delivered to each member
exactly once and confirmed when it is acceptable, and otherwise refused with one error; the stores
do not change. -/
theorem processPacket_groupMessage (reached : ServerReachable outcomes machine)
    (success : SendsSucceed outcomes machine) (fd : Int) {packet : Packet}
    (type : packet.type = MessageType.msgGroupMessage.code) :
    ∃ final, (processPacket fd packet).Runs (serverSemantics outcomes) machine () final ∧
      final.state = machine.state ∧
      ((∃ username group, GroupMessageAccepted machine.state fd packet username group ∧
          GroupMessageDelivered machine final fd packet username group) ∨
        (∀ username group, ¬ GroupMessageAccepted machine.state fd packet username group) ∧
          RepliedError machine final fd) := by
  have wellFormed := serverReachable_wellFormed reached
  have online := serverReachable_membersOnline reached
  obtain ⟨⟨⟩, final, ran⟩ := handler_returns outcomes (processPacket fd packet) wellFormed
  refine ⟨final, ran, ?_⟩
  rw [processPacket, type, MessageType.ofCode?_code] at ran
  change (handleGroupMessage fd packet).Runs _ _ _ _ at ran
  unfold handleGroupMessage at ran
  simp only [perform_bind, done_bind, runs_perform, answer_userUsernameByFd] at ran
  set looked := machine.after (serverSemantics outcomes) (.userUsernameByFd fd)
  obtain ⟨same, later, silent⟩ := looked_up success rfl (by simp) ran
  cases session : userStoreUsernameByFd machine.state.users fd with
  | none =>
    rw [session] at ran
    obtain ⟨kept, reply, error, sent⟩ := sendTextResponse_delivers later (by decide) ran
    refine ⟨kept.trans same, .inr ⟨fun username group accepted => ?_, reply, error, silent.trans sent⟩⟩
    have someone := accepted.session
    rw [session] at someone
    contradiction
  | some username =>
    rw [session] at ran
    obtain ⟨kept, ⟨group, delivered⟩ | ⟨unaccepted, refused⟩⟩ :=
      (sendGroupMessageFor_settles later (same ▸ wellFormed) (same ▸ online) (same ▸ session)
        ran).of_lookup same silent
    · exact ⟨kept, .inl ⟨username, group, delivered⟩⟩
    · refine ⟨kept, .inr ⟨fun other group accepted => ?_, refused⟩⟩
      have sole : other = username := Option.some.inj (accepted.session.symm.trans session)
      exact unaccepted group (sole ▸ accepted)

end

section

attribute [local instance] sampleDigest

/-- The group of three is created with every send succeeding. -/
theorem team_returns : (serveAll (failingAt []) 0 freshServer trio).isSome := by decide

/-- The state that is reached. -/
def teamMachine : ServerMachine := (serveAll (failingAt []) 0 freshServer trio).get team_returns

/-- A message to the group. -/
def teamMessage : Packet :=
  request .msgGroupMessage (CString.ofString "zoe") (CString.ofString "g000001")
    sampleText.terminated sampleText_fits

/-- A member's message to the group is delivered to all three members. -/
theorem processPacket_groupMessage_team :
    ∃ final group, (processPacket 6 teamMessage).Runs (serverSemantics (failingAt [])) teamMachine ()
        final ∧ final.state = teamMachine.state ∧
      group.memberNames = ["ann", "ben", "cid"].map CString.ofString ∧
      GroupMessageDelivered teamMachine final 6 teamMessage (CString.ofString "ben") group := by
  have session : userStoreUsernameByFd teamMachine.state.users 6 = some (CString.ofString "ben") := by
    decide
  have exists_ : (teamMachine.state.groups.head.find? fun group =>
      group.id.toCString = teamMessage.receiverName).isSome := by decide
  obtain ⟨team, listed⟩ := Option.isSome_iff_exists.mp exists_
  have members : ∀ group ∈ teamMachine.state.groups.head,
      group.memberNames = ["ann", "ben", "cid"].map CString.ofString ∧
        (encodeFields (messageFields group teamMessage.dataText)).length ≤ packetDataMax := by
    decide
  obtain ⟨names, fits⟩ := members team (List.mem_of_find?_eq_some listed)
  have accepted : GroupMessageAccepted teamMachine.state 6 teamMessage (CString.ofString "ben") team :=
    ⟨session, listed, by rw [names]; decide, by decide, by decide, fits⟩
  obtain ⟨final, ran, same, ⟨username, group, taken, delivered⟩ | ⟨unaccepted, _⟩⟩ :=
    processPacket_groupMessage (sample_reachable team_returns) (fun _ _ => rfl) 6
      (show teamMessage.type = MessageType.msgGroupMessage.code by decide)
  · obtain rfl : username = CString.ofString "ben" := Option.some.inj (taken.session.symm.trans session)
    obtain rfl : group = team := Option.some.inj (taken.listed.symm.trans listed)
    exact ⟨final, group, ran, same, names, delivered⟩
  · exact absurd accepted (unaccepted _ _)

end

end MultiUserChat
