import MultiUserChat.Verif.Changes
import MultiUserChat.Verif.GatewayPackets
import MultiUserChat.Verif.PayloadFormat
/-!
# Group records between the two languages

The records of events and lists are written by the C store and read by the gateway. Both put the
decimal number of members in front of the members, and lists the number of groups in front of the
groups, so the gateway's reader finds exactly the groups that were written.
-/

namespace MultiUserChat

open Web

/-! ## Fields of lists -/

/-- Fields are added one list after another. -/
theorem groupPayloadAddAll_append (payload : GroupPayload) (fields later : List CString) :
    groupPayloadAddAll payload (fields ++ later) =
      match groupPayloadAddAll payload fields with
      | (.ok, extended) => groupPayloadAddAll extended later
      | (_, refused) => (.errPayload, refused) := by
  induction fields generalizing payload with
  | nil => rfl
  | cons field fields ih =>
    rw [List.cons_append, groupPayloadAddAll, groupPayloadAddAll]
    unfold groupPayloadAdd
    by_cases fits : payload.data.length + field.length + 1 ≤ packetDataMax
    · simp only [dif_pos fits]
      exact ih _
    · simp only [dif_neg fits]

/-- Adding a field succeeds or is refused with the payload error. -/
theorem groupPayloadAdd_result (payload : GroupPayload) (field : CString) :
    (groupPayloadAdd payload field).1 = .ok ∨ (groupPayloadAdd payload field).1 = .errPayload := by
  unfold groupPayloadAdd
  split
  · exact .inl rfl
  · exact .inr rfl

/-- Adding fields succeeds or is refused with the payload error. -/
theorem groupPayloadAddAll_result (payload : GroupPayload) (fields : List CString) :
    (groupPayloadAddAll payload fields).1 = .ok ∨
      (groupPayloadAddAll payload fields).1 = .errPayload := by
  by_cases fits : payload.data.length + (encodeFields fields).length ≤ packetDataMax
  · obtain ⟨extended, added, _⟩ := groupPayloadAddAll_fits fits
    exact .inl (by rw [added])
  · exact .inr (groupPayloadAddAll_full (Nat.not_le.mp fits))

/-- Adding records is adding their fields. -/
theorem addRecords_eq (payload : GroupPayload) (groups : List GroupSnapshot) :
    addRecords payload groups = groupPayloadAddAll payload (groups.flatMap recordFields) := by
  induction groups generalizing payload with
  | nil => rfl
  | cons group groups ih =>
    rw [List.flatMap_cons, groupPayloadAddAll_append, addRecords, groupPayloadBuildRecord]
    rcases groupPayloadAddAll_result payload (recordFields group) with added | refused
    · generalize groupPayloadAddAll payload (recordFields group) = answer at added
      obtain ⟨result, extended⟩ := answer
      obtain rfl : result = .ok := added
      exact ih extended
    · generalize groupPayloadAddAll payload (recordFields group) = answer at refused
      obtain ⟨result, extended⟩ := answer
      obtain rfl : result = .errPayload := refused
      rfl

/-- The groups of a user, in list order. -/
def GroupStore.groupsOf (store : GroupStore) (username : CString) : List GroupSnapshot :=
  store.head.filter fun group => username ∈ group.memberNames

/-- The fields of a list of groups: their number and their records. -/
def listFields (groups : List GroupSnapshot) : List CString :=
  decimal 0 groups.length :: groups.flatMap recordFields

/-- The list of a user's groups is built by adding its fields. -/
theorem groupStoreBuildListPayload_eq {store : GroupStore} (wellFormed : store.WellFormed)
    {username : CString} (legal : validMemberName username = true) :
    groupStoreBuildListPayload store username =
      match groupPayloadAddAll groupPayloadInit (listFields (store.groupsOf username)) with
      | (.ok, payload) => .ok payload
      | (result, _) => .error result := by
  have groups : (store.head.filter fun group => groupSnapshotHasMember group username) =
      store.groupsOf username := by
    refine List.filter_congr fun group listed => ?_
    rw [Bool.eq_iff_iff, (wellFormed.groups group listed).hasMember_iff, decide_eq_true_eq]
  simp only [groupStoreBuildListPayload, legal, Bool.not_true, Bool.false_eq_true, ↓reduceIte,
    groups, addRecords_eq, listFields, groupPayloadAddAll]
  have counted := groupPayloadAdd_result groupPayloadInit
    (decimal 0 (store.groupsOf username).length)
  generalize groupPayloadAdd groupPayloadInit (decimal 0 (store.groupsOf username).length) = answer
    at counted
  obtain ⟨result, payload⟩ := answer
  rcases counted with rfl | rfl
  · rfl
  · rfl

/-- The list of a user's groups is built exactly when its fields fit; otherwise the answer is the
payload error. -/
theorem groupStoreBuildListPayload_cases {store : GroupStore} (wellFormed : store.WellFormed)
    {username : CString} (legal : validMemberName username = true) :
    (∃ payload, groupStoreBuildListPayload store username = .ok payload ∧
        payload.data = encodeFields (listFields (store.groupsOf username)) ∧
        (encodeFields (listFields (store.groupsOf username))).length ≤ packetDataMax) ∨
      groupStoreBuildListPayload store username = .error .errPayload ∧
        packetDataMax < (encodeFields (listFields (store.groupsOf username))).length := by
  rw [groupStoreBuildListPayload_eq wellFormed legal]
  by_cases fits : (encodeFields (listFields (store.groupsOf username))).length ≤ packetDataMax
  · obtain ⟨payload, added, data⟩ := groupPayloadAddAll_init fits
    exact .inl ⟨payload, by rw [added], data, fits⟩
  · have refused := groupPayloadAddAll_init_full (Nat.not_le.mp fits)
    refine .inr ⟨?_, Nat.not_le.mp fits⟩
    generalize groupPayloadAddAll groupPayloadInit (listFields (store.groupsOf username)) = answer
      at refused
    obtain ⟨result, payload⟩ := answer
    obtain rfl : result = .errPayload := refused
    rfl

/-! ## Reading records -/

/-- A string as the gateway reads it. -/
def textOf (text : CString) : Text := Utf8.decode text.bytes

/-- A group as the gateway reads it. -/
def groupOf (snapshot : GroupSnapshot) : Group :=
  ⟨textOf snapshot.id.toCString, textOf snapshot.name.toCString,
    some (textOf snapshot.creator.toCString), some (snapshot.memberNames.map textOf)⟩

/-- The numbers that occur in records are read as they were written. -/
theorem natural_decimal {count : Nat} (small : count ≤ groupMaxGroups) :
    (Number.ofText (textOf (decimal 0 count))).natural = some count := by
  have every : ∀ value : Fin (groupMaxGroups + 1),
      (Number.ofText (textOf (decimal 0 value))).natural = some value.val := by
    decide +kernel
  exact every ⟨count, Nat.lt_succ_of_le small⟩

/-- The texts of the fields of a group are a record of the group. -/
theorem exists_record {snapshot : GroupSnapshot} (bound : snapshot.memberCount ≤ groupMaxMembers) :
    ∃ record : GroupRecord, record.fields = (recordFields snapshot).map textOf ∧
      record.group = groupOf snapshot := by
  have counted := natural_decimal (bound.trans (by decide : groupMaxMembers ≤ groupMaxGroups))
  refine ⟨⟨textOf snapshot.id.toCString, textOf snapshot.name.toCString,
    textOf snapshot.creator.toCString, textOf (decimal 0 snapshot.memberCount),
    snapshot.memberNames.map textOf, ?_⟩, ?_, rfl⟩
  · rw [counted, List.length_map, GroupSnapshot.memberNames_length bound]
  · simp [GroupRecord.fields, recordFields]

/-- The texts of the fields of several groups are records of the groups. -/
theorem exists_records {groups : List GroupSnapshot}
    (bound : ∀ group ∈ groups, group.memberCount ≤ groupMaxMembers) :
    ∃ records : List GroupRecord, records.length = groups.length ∧
      records.flatMap GroupRecord.fields = (groups.flatMap recordFields).map textOf ∧
      records.map GroupRecord.group = groups.map groupOf := by
  induction groups with
  | nil => exact ⟨[], rfl, rfl, rfl⟩
  | cons group groups ih =>
    obtain ⟨first, rest⟩ := List.forall_mem_cons.mp bound
    obtain ⟨record, fields, read⟩ := exists_record first
    obtain ⟨records, count, fields', read'⟩ := ih rest
    refine ⟨record :: records, by simp [count], ?_, by simp [read, read']⟩
    rw [List.flatMap_cons, fields, fields', List.flatMap_cons, List.map_append]

/-- The gateway reads an event as the event and the group it was built from. -/
theorem decodeGroupEventPayload_built {snapshot : GroupSnapshot} (wellFormed : snapshot.WellFormed)
    {event : CString} {payload : GroupPayload}
    (built : groupPayloadBuildEvent event snapshot = (.ok, payload)) :
    decodeGroupEventPayload payload.data = some (textOf event, groupOf snapshot) := by
  obtain ⟨record, fields, read⟩ := exists_record wellFormed.count_le
  have parsed : parseGroupRecord record.fields = some (record.group, []) :=
    parseGroupRecord_eq_some.mpr ⟨record, (List.append_nil _).symm, rfl⟩
  have long : ¬ (textOf event :: record.fields).length < 5 := by simp [GroupRecord.fields]
  have texts : decodeGroupFields payload.data = some (textOf event :: record.fields) := by
    rw [groupPayloadBuildEvent_ok built, decodeGroupFields_encodeFields (by simp [eventFields]),
      fields]
    rfl
  rw [decodeGroupEventPayload, texts]
  simp only [Option.bind_eq_bind, Option.bind_some, if_neg long, parsed, read]
  rfl

/-- The gateway reads a list as the groups it was built from. -/
theorem decodeGroupListPayload_built {groups : List GroupSnapshot}
    (bound : ∀ group ∈ groups, group.memberCount ≤ groupMaxMembers)
    (few : groups.length ≤ groupMaxGroups) :
    decodeGroupListPayload (encodeFields (listFields groups)) = some (groups.map groupOf) := by
  obtain ⟨records, count, fields, read⟩ := exists_records bound
  have parsed : parseGroupRecords records.length (records.flatMap GroupRecord.fields) =
      some (records.map GroupRecord.group, []) :=
    parseGroupRecords_eq_some.mpr ⟨records, rfl, (List.append_nil _).symm, rfl⟩
  have texts : decodeGroupFields (encodeFields (listFields groups)) =
      some (textOf (decimal 0 groups.length) :: records.flatMap GroupRecord.fields) := by
    rw [decodeGroupFields_encodeFields (by simp [listFields]), fields]
    rfl
  rw [decodeGroupListPayload, texts]
  rw [count] at parsed
  simp only [Option.bind_eq_bind, Option.bind_some, natural_decimal few, parsed, read]
  rfl

/-! ## Names in UTF-8 -/

/-- The bytes of the string are those of a text. -/
def CString.Readable (text : CString) : Prop := ∃ points, text.bytes = Utf8.encode points

/-- A readable string is unchanged by being read: its bytes are those of the text. -/
theorem CString.Readable.encode_textOf {text : CString} (readable : text.Readable) :
    Utf8.encode (textOf text) = text.bytes := Utf8.encode_decode_iff.mpr readable

/-- The names given to a call are readable. -/
def GroupInput.Readable : GroupInput → Prop
  | .create _ creator name members =>
    creator.Readable ∧ name.Readable ∧ ∀ member ∈ members, member.Readable
  | .remove .. => True

/-- The strings of a group are readable. -/
structure GroupSnapshot.Readable (snapshot : GroupSnapshot) : Prop where
  /-- The id. -/
  id : snapshot.id.toCString.Readable
  /-- The name. -/
  name : snapshot.name.toCString.Readable
  /-- The creator. -/
  creator : snapshot.creator.toCString.Readable
  /-- The members. -/
  members : ∀ member ∈ snapshot.memberNames, member.Readable

/-- A string of ASCII characters is readable. -/
theorem CString.readable_ascii {text : CString} (ascii : ∀ byte ∈ text.bytes, byte < 128) :
    text.Readable := by
  refine ⟨text.bytes.map UInt8.toNat, ?_⟩
  have every : ∀ byte ∈ text.bytes, Utf8.encodePoint byte.toNat = [byte] := by
    intro byte member
    have small : byte.toNat < 0x80 := ascii byte member
    rw [Utf8.encodePoint, if_neg (by simp [Utf8.Scalar]; omega), if_pos small, UInt8.ofNat_toNat]
  rw [Utf8.encode, List.flatMap_map, List.flatMap_congr every]
  simp

/-- The id of a group is readable. -/
theorem groupIdText_readable (number : UInt32) : (groupIdText number).Readable := by
  refine CString.readable_ascii fun byte member => ?_
  rcases List.mem_cons.mp member with rfl | digit
  · decide
  · have range := (decimal_range 6 number.toNat byte digit).2
    exact UInt8.lt_of_le_of_lt range (by decide)

namespace GroupStore

variable {store : GroupStore}

/-- Calls with readable names keep the strings of all groups readable. -/
theorem readable_apply (wellFormed : store.WellFormed)
    (readable : ∀ group ∈ store.head, group.Readable) {input : GroupInput}
    (given : input.Readable) : ∀ group ∈ (store.apply input).head, group.Readable := by
  cases input with
  | create allocated creator name members =>
    obtain ⟨creatorReadable, nameReadable, membersReadable⟩ := given
    change ∀ group ∈ (groupStoreCreate allocated store creator name members).2.head, _
    obtain ⟨result, refused⟩ | ⟨snapshot, created, done⟩ :=
      create_cases allocated store creator name members
    · rw [refused]
      exact readable
    · rw [done]
      refine List.forall_mem_cons.mpr ⟨⟨?_, ?_, ?_, fun member inside => ?_⟩, readable⟩
      · rw [created.id, groupIdText_copied]
        exact groupIdText_readable _
      · rw [created.called]
        exact nameReadable
      · rw [created.founded]
        exact creatorReadable
      · rw [created.memberNames, mem_enlist, List.mem_singleton] at inside
        rcases inside with rfl | listed
        · exact creatorReadable
        · exact membersReadable member listed
  | remove username maxChanges =>
    change ∀ group ∈ (groupStoreRemoveMember store username maxChanges).2.2.head, _
    unfold groupStoreRemoveMember
    split
    · exact readable
    have kept :=
      (removeMemberLoop_eq username wellFormed.groups wellFormed.inhabited maxChanges).1
    intro group inside
    dsimp only at inside
    rw [kept, List.mem_filter, List.mem_map] at inside
    obtain ⟨⟨before, listed, rfl⟩, _⟩ := inside
    have header := before.without_header username
    simp only [GroupSnapshot.header, Prod.mk.injEq] at header
    obtain ⟨id, name, creator, members⟩ := readable before listed
    refine ⟨header.1 ▸ id, header.2.1 ▸ name, header.2.2 ▸ creator, fun member inside => ?_⟩
    rw [(wellFormed.groups before listed).without_memberNames, List.mem_filter] at inside
    exact members member inside.1

/-- Stores reached by calls with readable names. -/
def ReadablyReachable (store : GroupStore) : Prop :=
  Reachable (· = groupStoreInit)
    (fun store input store' => store' = store.apply input ∧ input.Readable) store

/-- After calls with readable names every string is readable, every event is read as the event and the
group it was built from, and every list as the groups of the user in the order of the store. -/
theorem groupRecords_read (reached : store.ReadablyReachable) :
    (∀ group ∈ store.head, group.Readable) ∧
      (∀ group ∈ store.head, ∀ event payload,
        groupPayloadBuildEvent event group = (.ok, payload) →
          decodeGroupEventPayload payload.data = some (textOf event, groupOf group)) ∧
      ∀ username payload, groupStoreBuildListPayload store username = .ok payload →
        decodeGroupListPayload payload.data = some ((store.groupsOf username).map groupOf) := by
  have wellFormed : store.WellFormed :=
    CallReachable.wellFormed (reached.widen fun _ _ _ step => step.1)
  refine ⟨?_, fun group listed event payload built =>
    decodeGroupEventPayload_built (wellFormed.groups group listed) built,
    fun username payload built => ?_⟩
  · refine reached.invariant (fun store => ∀ group ∈ store.head, group.Readable)
      (fun store initial => ?_) fun store input store' earlier holds step => ?_
    · obtain rfl : store = groupStoreInit := initial
      exact fun _ member => absurd member List.not_mem_nil
    · obtain ⟨rfl, given⟩ := step
      exact readable_apply (CallReachable.wellFormed (earlier.widen fun _ _ _ step => step.1))
        holds given
  · by_cases legal : validMemberName username = true
    · obtain ⟨payload', made, data, _⟩ | ⟨refused, _⟩ :=
        groupStoreBuildListPayload_cases wellFormed legal
      · rw [built] at made
        cases made
        rw [data]
        refine decodeGroupListPayload_built (fun group member => ?_) ?_
        · exact (wellFormed.groups group (List.mem_of_mem_filter member)).count_le
        · exact (List.length_filter_le _ _).trans (wellFormed.counted ▸ wellFormed.count_le)
      · rw [built] at refused
        contradiction
    · rw [groupStoreBuildListPayload, if_pos (by simpa using legal)] at built
      contradiction

/-- A call that founds a group of two. -/
def founding : GroupInput :=
  .create true (CString.ofString "ann") (CString.ofString "team") [CString.ofString "ben"]

/-- The names of the founding are readable. -/
theorem founding_readable : founding.Readable := by
  refine ⟨CString.readable_ascii (by decide +kernel), CString.readable_ascii (by decide +kernel), ?_⟩
  exact List.forall_mem_singleton.mpr (CString.readable_ascii (by decide +kernel))

/-- The gateway reads the list of the founder of a group of two. -/
theorem groupRecords_read_founding : ∃ payload,
    groupStoreBuildListPayload (groupStoreInit.apply founding) (CString.ofString "ann") =
      .ok payload ∧ decodeGroupListPayload payload.data =
        some (((groupStoreInit.apply founding).groupsOf (CString.ofString "ann")).map groupOf) :=
  ⟨_, rfl, (groupRecords_read (.next (.start rfl) ⟨rfl, founding_readable⟩)).2.2 _ _ rfl⟩

end GroupStore

end MultiUserChat
