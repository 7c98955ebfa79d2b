import MultiUserChat.Verif.Changes
/-!
# The representation invariant of the group store

`GroupStore.WellFormed` speaks about the names in use. Here it is joined by what the source keeps
about the rest of a group: a valid name, and member slots that are zero from `member_count` on.
`add_member` writes the first free slot; `remove_member_at` shifts the later names down and clears the
slot that becomes free. A name is listed once, so removing the first match removes the user, and
removing it again finds nothing.
-/

namespace MultiUserChat

namespace GroupSnapshot

variable {snapshot : GroupSnapshot}

/-- The slots that are not in use are zero. -/
def FreeCleared (snapshot : GroupSnapshot) : Prop :=
  ∀ slot, snapshot.memberCount ≤ slot → slot < groupMaxMembers →
    snapshot.members.toList[slot]? = some (zeroFixed usernameMaxLen)

/-- Every slot of a new group is zero. -/
theorem blankGroup_freeCleared (name creator : CString) : (blankGroup name creator).FreeCleared := by
  intro slot _ inside
  change (List.replicate groupMaxMembers (zeroFixed usernameMaxLen))[slot]? = _
  rw [List.getElem?_replicate, if_pos inside]

/-- Adding a member writes the first free slot and leaves the others free. -/
theorem FreeCleared.addMember (cleared : snapshot.FreeCleared) {username : CString}
    {extended : GroupSnapshot} {added : Bool}
    (done : addMember snapshot username = .ok (extended, added)) : extended.FreeCleared := by
  unfold MultiUserChat.addMember at done
  split at done
  · contradiction
  split at done
  · cases done
    exact cleared
  split at done
  · cases done
    intro slot free inside
    have later : snapshot.memberCount ≠ slot := by
      dsimp only at free
      omega
    dsimp only at free ⊢
    rw [List.Vector.toList_set, List.getElem?_set_ne later]
    exact cleared slot (by omega) inside
  · contradiction

/-- Adding members one after another leaves the other slots free. -/
theorem FreeCleared.addMembers {creator : CString} {members : List CString}
    {snapshot final : GroupSnapshot} {flag flag' : Bool} (cleared : snapshot.FreeCleared)
    (done : addMembers creator snapshot flag members = .ok (final, flag')) : final.FreeCleared := by
  induction members generalizing snapshot flag with
  | nil =>
    cases done
    exact cleared
  | cons member members ih =>
    unfold MultiUserChat.addMembers at done
    split at done
    · contradiction
    split at done
    · contradiction
    · rename_i extended added step
      exact ih (cleared.addMember step) done

/-- A group that was built has its free slots cleared. -/
theorem buildGroup_freeCleared {creator name : CString} {members : List CString}
    {built : GroupSnapshot} (done : buildGroup creator name members = .ok built) :
    built.FreeCleared := by
  unfold buildGroup at done
  split at done
  · contradiction
  rename_i founded added first
  split at done
  · contradiction
  rename_i snapshot hasNonCreator rest
  split at done
  · cases done
    exact ((blankGroup_freeCleared name creator).addMember first).addMembers rest
  · contradiction

/-- Removing a member clears the last slot in use, and the later slots stay as they are. -/
theorem FreeCleared.removeMemberAt (cleared : snapshot.FreeCleared)
    (bound : snapshot.memberCount ≤ groupMaxMembers) (index : Nat) :
    (removeMemberAt snapshot index).FreeCleared := by
  unfold MultiUserChat.removeMemberAt
  split
  · exact cleared
  rename_i listed
  have size : snapshot.members.toList.length = groupMaxMembers := List.Vector.toList_length _
  intro slot free inside
  dsimp only at free
  change ((shiftSlots _ _ _).set _ _)[slot]? = _
  by_cases last : snapshot.memberCount - 1 = slot
  · rw [last, List.getElem?_set_self (by rw [shiftSlots_length]; omega)]
  · rw [List.getElem?_set_ne last, shiftSlots_getElem? (by omega), if_neg (by omega)]
    exact cleared slot (by omega) inside

/-- Leaving a group keeps its free slots cleared. -/
theorem FreeCleared.without (cleared : snapshot.FreeCleared)
    (bound : snapshot.memberCount ≤ groupMaxMembers) (username : CString) :
    (snapshot.without username).FreeCleared := by
  unfold GroupSnapshot.without
  split
  · exact cleared
  · exact cleared.removeMemberAt bound _

/-- What the source keeps about a group besides the names in use. -/
structure Represented (snapshot : GroupSnapshot) : Prop where
  /-- The name is valid. -/
  named : validGroupName snapshot.name.toCString = true
  /-- The free slots are zero. -/
  cleared : snapshot.FreeCleared

end GroupSnapshot

namespace GroupStore

open GroupSnapshot

variable {store : GroupStore}

/-- A group that was inserted has the name that was checked, and free slots that are zero. -/
theorem create_represented {allocated : Bool} {creator name : CString} {members : List CString}
    {snapshot : GroupSnapshot} {store' : GroupStore}
    (done : groupStoreCreate allocated store creator name members = (.ok snapshot, store')) :
    snapshot.Represented := by
  obtain ⟨result, refused⟩ | ⟨snapshot', created, inserted⟩ :=
    create_cases allocated store creator name members
  · rw [refused] at done
    cases done
  rw [inserted] at done
  cases done
  refine ⟨?_, ?_⟩
  · rw [created.called]
    unfold groupStoreCreate at inserted
    split at inserted
    · cases inserted
    · rename_i legal
      simp only [Bool.or_eq_true, Bool.not_eq_true', not_or, Bool.not_eq_false] at legal
      exact legal.1.2
  · unfold groupStoreCreate at inserted
    split at inserted
    · cases inserted
    split at inserted
    · cases inserted
    split at inserted
    · cases inserted
    rename_i built done
    split at inserted
    · cases inserted
    · cases inserted
      exact fun slot free inside => buildGroup_freeCleared done slot free inside

/-- The names and the free slots of all groups. -/
def Represented (store : GroupStore) : Prop := ∀ group ∈ store.head, group.Represented

/-- Every call keeps the names valid and the free slots zero. -/
theorem Represented.apply (represented : store.Represented) (wellFormed : store.WellFormed)
    (input : GroupInput) : (store.apply input).Represented := by
  cases input with
  | create allocated creator name members =>
    change (groupStoreCreate allocated store creator name members).2.Represented
    obtain ⟨result, refused⟩ | ⟨snapshot, created, done⟩ :=
      create_cases allocated store creator name members
    · rw [refused]
      exact represented
    · rw [done]
      exact List.forall_mem_cons.mpr ⟨create_represented done, represented⟩
  | remove username maxChanges =>
    change (groupStoreRemoveMember store username maxChanges).2.2.Represented
    unfold groupStoreRemoveMember
    split
    · exact represented
    have kept :=
      (removeMemberLoop_eq username wellFormed.groups wellFormed.inhabited maxChanges).1
    intro group inside
    dsimp only at inside
    rw [kept, List.mem_filter, List.mem_map] at inside
    obtain ⟨⟨before, listed, rfl⟩, _⟩ := inside
    have name : (before.without username).name = before.name :=
      congrArg (fun header => header.2.1) (before.without_header username)
    refine ⟨?_, (represented before listed).cleared.without (wellFormed.groups before listed).count_le
      username⟩
    rw [name]
    exact (represented before listed).named

/-- The names are valid and the free slots zero after any calls. -/
theorem CallReachable.represented (reached : store.CallReachable) : store.Represented := by
  refine reached.invariant GroupStore.Represented (fun store initial => ?_)
    fun store input store' earlier holds step => ?_
  · obtain rfl : store = groupStoreInit := initial
    exact fun _ member => absurd member List.not_mem_nil
  · obtain rfl : store' = store.apply input := step
    exact holds.apply (CallReachable.wellFormed earlier) input

/-- A pass over groups without the user keeps them all. -/
theorem removeMemberLoop_absent {username : CString} {groups : List GroupSnapshot}
    (absent : ∀ group ∈ groups, memberIndex group username = none) (room : Nat) :
    removeMemberLoop username groups room = ⟨groups, [], 0, .ok⟩ := by
  induction groups with
  | nil => rfl
  | cons group groups ih =>
    obtain ⟨here, others⟩ := List.forall_mem_cons.mp absent
    simp only [removeMemberLoop, here, ih others]

/-- After a removal nobody lists the user. -/
theorem WellFormed.removeMember_absent (wellFormed : store.WellFormed) {username : CString}
    (legal : validMemberName username = true) (room : Nat) :
    ∀ group ∈ (groupStoreRemoveMember store username room).2.2.head,
      username ∉ group.memberNames := by
  intro group inside
  have kept := (removeMemberLoop_eq username wellFormed.groups wellFormed.inhabited room).1
  simp only [groupStoreRemoveMember, legal, Bool.not_true, Bool.false_eq_true, ↓reduceIte, kept,
    List.mem_filter, List.mem_map] at inside
  obtain ⟨⟨before, listed, rfl⟩, _⟩ := inside
  rw [(wellFormed.groups before listed).without_memberNames]
  simp

/-- Removing a user that no group lists reports nothing and changes nothing. -/
theorem WellFormed.removeMember_noop (wellFormed : store.WellFormed) {username : CString}
    (legal : validMemberName username = true)
    (absent : ∀ group ∈ store.head, username ∉ group.memberNames) (room : Nat) :
    groupStoreRemoveMember store username room = (.ok, [], store) := by
  have missing : ∀ group ∈ store.head, memberIndex group username = none := by
    intro group listed
    have outside : ¬ groupSnapshotHasMember group username = true := fun present =>
      absent group listed ((wellFormed.groups group listed).hasMember_iff.mp present)
    simpa [groupSnapshotHasMember] using outside
  simp [groupStoreRemoveMember, legal, removeMemberLoop_absent missing]

/-- After any calls: the count is the number of groups and at most `GROUP_MAX_GROUPS`; every group
has between one and `GROUP_MAX_MEMBERS` members with distinct valid names, a valid name, and zero
bytes in every slot from `member_count` on. Removing a valid user leaves no group that lists it, and
removing it again reports nothing and changes nothing. -/
theorem represented_of_reachable (reached : store.CallReachable) :
    store.count = store.head.length ∧ store.count ≤ groupMaxGroups ∧
      (∀ group ∈ store.head,
        (1 ≤ group.memberCount ∧ group.memberCount ≤ groupMaxMembers) ∧
          group.memberNames.length = group.memberCount ∧ group.memberNames.Nodup ∧
          (∀ name ∈ group.memberNames, validMemberName name = true) ∧
          validGroupName group.name.toCString = true ∧
          ∀ slot, group.memberCount ≤ slot → slot < groupMaxMembers →
            group.members.toList[slot]?.map FixedString.array =
              some (List.replicate usernameMaxLen 0)) ∧
      ∀ username, validMemberName username = true → ∀ room,
        (∀ group ∈ (groupStoreRemoveMember store username room).2.2.head,
          username ∉ group.memberNames ∧ groupSnapshotHasMember group username = false) ∧
          ∀ again, groupStoreRemoveMember (groupStoreRemoveMember store username room).2.2 username
            again = (.ok, [], (groupStoreRemoveMember store username room).2.2) := by
  have wellFormed := CallReachable.wellFormed reached
  have represented := CallReachable.represented reached
  refine ⟨wellFormed.counted, wellFormed.count_le, fun group listed => ?_,
    fun username legal room => ?_⟩
  · have own := wellFormed.groups group listed
    have names := memberNames_length own.count_le
    have some_ : group.memberCount ≠ 0 := fun zero =>
      wellFormed.inhabited group listed (own.memberCount_eq_zero.mp zero)
    refine ⟨⟨Nat.one_le_iff_ne_zero.mpr some_, own.count_le⟩, names, own.distinct, own.valid,
      (represented group listed).named, fun slot free inside => ?_⟩
    rw [(represented group listed).cleared slot free inside]
    rfl
  · have after := wellFormed.removeMember username room
    have absent := wellFormed.removeMember_absent legal room
    refine ⟨fun group listed => ⟨absent group listed, ?_⟩, fun again =>
      after.removeMember_noop legal absent again⟩
    rw [Bool.eq_false_iff]
    exact fun present => absent group listed ((after.groups group listed).hasMember_iff.mp present)

/-- The crowded store counts its groups, and they fit. -/
theorem represented_of_reachable_crowded :
    crowded.count = crowded.head.length ∧ crowded.count ≤ groupMaxGroups :=
  ⟨(represented_of_reachable crowded_reachable).1, (represented_of_reachable crowded_reachable).2.1⟩

end GroupStore

end MultiUserChat
