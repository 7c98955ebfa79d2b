import MultiUserChat.Verif.Creation
/-!
# The announcement of new groups

A created group is announced to its members in one payload with the limit of a packet, although the
limits checked before the creation allow larger groups. `push_group_event` gives up silently when
the payload is full, so the group is announced exactly when its announcement fits, and the creator
gets the confirmation in both cases.
-/

namespace MultiUserChat

open Program

/-- The fields that announce the next group, by its creator, its name and the members asked for. -/
def announcementFields (groups : GroupStore) (username name : CString) (members : List CString) :
    List CString :=
  [groupEventCreated, groupIdText groups.nextId, name, username,
      decimal 0 (enlist [username] members).length] ++
    enlist [username] members

/-- The announcement of the group that a packet asks for fits in a packet. -/
def AnnouncementFits (state : ServerState) (fd : Int) (packet : Packet) : Prop :=
  ∀ username name members, userStoreUsernameByFd state.users fd = some username →
    groupPayloadParse packet.payload = .ok (name :: members) →
      (encodeFields (announcementFields state.groups username name members)).length ≤ packetDataMax

/-- A group was added, each of its members was sent one event with the whole group on its own
descriptor, and no other event was sent. -/
def GroupAnnounced (before after : ServerMachine) : Prop :=
  ∃ group event, after.state.groups.head = group :: before.state.groups.head ∧
    group.memberNames.Nodup ∧
    (∀ member ∈ group.memberNames,
      before.state.LoggedIn (before.state.descriptorOf member) member) ∧
    groupPayloadParse event.payload =
      .ok ([groupEventCreated, group.id.toCString, group.name.toCString, group.creator.toCString,
        decimal 0 group.memberNames.length] ++ group.memberNames) ∧
    (deliveries before after).filter (fun sent => sent.2.type = MessageType.msgGroupEvent.code) =
      group.memberNames.map fun member => (before.state.descriptorOf member, event)

/-- The fields of the event that announces a new group. -/
theorem GroupStore.Created.eventFields_eq {store : GroupStore} {username name : CString}
    {members : List CString} {snapshot : GroupSnapshot}
    (created : store.Created username name members snapshot) :
    eventFields groupEventCreated snapshot = announcementFields store username name members := by
  have count : snapshot.memberCount = (enlist [username] members).length := by
    rw [← created.memberNames, GroupSnapshot.memberNames_length created.wellFormed.count_le]
  rw [eventFields, recordFields, announcementFields, created.memberNames, created.id,
    GroupStore.groupIdText_copied, created.called, created.founded, count]
  rfl

section

variable [Sha256] {outcomes : Nat → Outcome} {machine final : ServerMachine} {fd : Int}
  {packet : Packet} {username : CString}

/-- In every reachable state, while sends succeed, a confirmed creation is announced to all its
members exactly when the announcement fits in a packet. -/
theorem groupAnnounced_iff (reached : ServerReachable outcomes machine)
    (success : SendsSucceed outcomes machine)
    (type : packet.type = MessageType.msgGroupCreate.code)
    (ran : (processPacket fd packet).Runs (serverSemantics outcomes) machine () final)
    (answered : ∃ reply, reply.type = MessageType.msgOk.code ∧
      (fd, reply) ∈ deliveries machine final) :
    GroupAnnounced machine final ↔ AnnouncementFits machine.state fd packet := by
  have wellFormed := serverReachable_wellFormed reached
  rw [processPacket, type, MessageType.ofCode?_code] at ran
  change (handleGroupCreate fd packet).Runs _ _ _ _ at ran
  have unconfirmed : ¬ RepliedError machine final fd := by
    rintro ⟨reply, error, sent⟩
    rw [sent] at answered
    obtain ⟨other, ok, only⟩ := answered
    obtain ⟨_, rfl⟩ := Prod.mk.inj (List.mem_singleton.mp only)
    exact absurd (error.symm.trans ok) (by decide)
  obtain ⟨username, session, ⟨name, members, snapshot, ⟨parsed, _⟩, ⟨created, added, online, events,
      reply, confirmation, sent, announced, omitted⟩, _⟩ | ⟨_, _, refused⟩⟩ | ⟨_, _, refused⟩ :=
    handleGroupCreate_settles success wellFormed ran
  case inl.inr | inr => exact absurd refused unconfirmed
  have condition : AnnouncementFits machine.state fd packet ↔
      (encodeFields (eventFields groupEventCreated snapshot)).length ≤ packetDataMax := by
    rw [created.eventFields_eq]
    refine ⟨fun fits => fits username name members session parsed, fun fits => ?_⟩
    intro username' name' members' session' parsed'
    obtain rfl := Option.some.inj (session.symm.trans session')
    obtain ⟨rfl, rfl⟩ := List.cons.inj (Except.ok.inj (parsed.symm.trans parsed'))
    exact fits
  have eventless : [(fd, reply)].filter
      (fun sent => decide (sent.2.type = MessageType.msgGroupEvent.code)) = [] := by
    rw [List.filter_eq_nil_iff]
    intro entry only
    rw [List.mem_singleton.mp only, decide_eq_true_eq, confirmation]
    decide
  rw [condition]
  constructor
  · rintro ⟨group, event, listed, _, _, _, exact_⟩
    by_contra full
    rw [added] at listed
    obtain ⟨rfl, _⟩ := List.cons.inj listed
    rw [sent, omitted (Nat.lt_of_not_le full), List.nil_append, eventless] at exact_
    have founder : username ∈ snapshot.memberNames := by
      rw [created.memberNames, mem_enlist]
      exact .inl (List.mem_singleton_self _)
    exact List.ne_nil_of_mem founder (List.map_eq_nil_iff.mp exact_.symm)
  · intro fits
    obtain ⟨event, kind, content, copies⟩ := announced fits
    have count := GroupSnapshot.memberNames_length created.wellFormed.count_le
    refine ⟨snapshot, event, added, created.wellFormed.distinct, fun member inside =>
      (getFd_online wellFormed (online member inside)).2, ?_, ?_⟩
    · rw [content, groupPayloadParse_encodeFields (by simp [eventFields])
        (eventFields_length_le created.wellFormed.count_le) fits, eventFields, recordFields, count]
      rfl
    · rw [sent, List.filter_append, eventless, List.append_nil, copies, List.filter_eq_self]
      intro entry listed
      obtain ⟨_, _, rfl⟩ := List.mem_map.mp listed
      exact decide_eq_true kind

end

section

attribute [local instance] sampleDigest

/-- The request is confirmed. -/
theorem couple_confirmed :
    ((processPacket 5 coupleRequest).run (serverSemantics (failingAt [])) 0 coupleMachine).any
      (fun done => (deliveries coupleMachine done.2).any
        fun sent => sent.1 = 5 && sent.2.type = MessageType.msgOk.code) = true := by
  decide

/-- The condition decides for a group of two. -/
theorem groupAnnounced_iff_couple : ∃ final,
    (processPacket 5 coupleRequest).Runs (serverSemantics (failingAt [])) coupleMachine () final ∧
      (GroupAnnounced coupleMachine final ↔
        AnnouncementFits coupleMachine.state 5 coupleRequest) := by
  obtain ⟨⟨⟨⟩, final⟩, ran, confirmed⟩ := (Option.any_eq_true _ _).mp couple_confirmed
  obtain ⟨⟨fd, reply⟩, sent, ok⟩ := List.any_eq_true.mp confirmed
  simp only [Bool.and_eq_true, decide_eq_true_eq] at ok
  obtain ⟨rfl, type⟩ := ok
  exact ⟨final, ⟨0, ran⟩, groupAnnounced_iff (sample_reachable couple_returns) (fun _ _ => rfl)
    (by decide) ⟨0, ran⟩ ⟨reply, type, sent⟩⟩

/-- The name of one of the users of the crowd, as long as names can be. -/
def crowdName (index : Nat) : CString :=
  CString.ofBytes (List.replicate 30 97 ++ [65 + UInt8.ofNat index])

/-- Twenty-nine users join. -/
def crowd : List Input :=
  (List.range 29).flatMap fun (index : Nat) => joining (5 + index) (crowdName index)

/-- The run returns. -/
theorem crowd_returns : (serveAll (failingAt []) 0 freshServer crowd).isSome := by decide +kernel

/-- The state that is reached. -/
def crowdMachine : ServerMachine := (serveAll (failingAt []) 0 freshServer crowd).get crowd_returns

/-- The first of them asks for a group of all, with a name as long as group names can be. -/
def crowdRequest : Packet :=
  groupCreateRequest (CString.ofBytes (List.replicate 63 98))
    ((List.range 28).map fun index => crowdName (index + 1)) (by decide +kernel)

/-- The confirmation is all that is sent. -/
theorem crowd_confirmed :
    ((processPacket 5 crowdRequest).run (serverSemantics (failingAt [])) 0 crowdMachine).any
      (fun done => (deliveries crowdMachine done.2).map (fun sent => (sent.1, sent.2.type)) =
        [(5, MessageType.msgOk.code)]) = true := by
  decide +kernel

/-- A group of twenty-nine users with long names is created and confirmed, and nobody is told. -/
theorem groupAnnounced_crowd : ¬ ∀ [Sha256] (outcomes : Nat → Outcome)
    (machine final : ServerMachine) (fd : Int) (packet : Packet),
    ServerReachable outcomes machine → SendsSucceed outcomes machine →
      (machine.state.connectionAt fd).isSome → packet.type = MessageType.msgGroupCreate.code →
      (processPacket fd packet).Runs (serverSemantics outcomes) machine () final →
      (∃ reply, reply.type = MessageType.msgOk.code ∧ (fd, reply) ∈ deliveries machine final) →
      GroupAnnounced machine final := by
  intro claim
  obtain ⟨⟨⟨⟩, final⟩, ran, confirmed⟩ := (Option.any_eq_true _ _).mp crowd_confirmed
  have reached : ServerReachable (failingAt []) crowdMachine := sample_reachable crowd_returns
  obtain ⟨⟨fd, reply⟩, only, same⟩ := List.map_eq_singleton_iff.mp (of_decide_eq_true confirmed)
  obtain ⟨rfl, type⟩ := Prod.mk.inj same
  obtain ⟨group, event, added, _, _, _, sent⟩ := claim (failingAt []) crowdMachine final 5
    crowdRequest reached (fun _ _ => rfl) (by decide +kernel) (by decide +kernel) ⟨0, ran⟩
    ⟨reply, type, by rw [only]; exact List.mem_singleton_self _⟩
  have eventless : (deliveries crowdMachine final).filter
      (fun sent => sent.2.type = MessageType.msgGroupEvent.code) = [] := by
    rw [only, List.filter_eq_nil_iff]
    intro entry listed
    rw [List.mem_singleton.mp listed, decide_eq_true_eq]
    exact fun event => absurd (type.symm.trans event) (by decide)
  rw [eventless] at sent
  have sound := runs_wellFormed ⟨0, ran⟩ (serverReachable_wellFormed reached)
  exact sound.groups.inhabited group (added ▸ List.mem_cons_self) (List.map_eq_nil_iff.mp sent.symm)

end

end MultiUserChat
