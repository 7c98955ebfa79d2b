import Mathlib.Data.List.Nodup
import MultiUserChat.Common.GroupStore
import MultiUserChat.Library.Roster
/-!
# The group store as a roster

A group's member slots are read as the list of the names in use. Under `GroupStore.WellFormed`,
which every operation keeps, adding a member appends a name, removing one filters it out, and
`group_store_remove_member` is a departure from the roster of all groups. The changes it reports are
the groups it changed, cut off at the number of slots it was given.
-/

namespace MultiUserChat

namespace GroupSnapshot

variable {snapshot : GroupSnapshot} {username : CString}

/-- The invariant of the member slots. -/
structure WellFormed (snapshot : GroupSnapshot) : Prop where
  /-- The count is within the array. -/
  count_le : snapshot.memberCount ≤ groupMaxMembers
  /-- No name is listed twice. -/
  distinct : snapshot.memberNames.Nodup
  /-- Every name is valid. -/
  valid : ∀ name ∈ snapshot.memberNames, validMemberName name = true

/-- The fields of a group that never change. -/
def header (snapshot : GroupSnapshot) :
    FixedString groupIdMaxLen × FixedString groupNameMaxLen × FixedString usernameMaxLen :=
  (snapshot.id, snapshot.name, snapshot.creator)

/-- A group as an entry of the roster. -/
def entry (snapshot : GroupSnapshot) :
    (FixedString groupIdMaxLen × FixedString groupNameMaxLen × FixedString usernameMaxLen) ×
      List CString :=
  (snapshot.header, snapshot.memberNames)

/-- As many names are in use as the count says. -/
theorem memberNames_length (bound : snapshot.memberCount ≤ groupMaxMembers) :
    snapshot.memberNames.length = snapshot.memberCount := by
  simp only [memberNames, List.length_map, List.length_take, List.Vector.toList_length]
  omega

/-- The count is zero exactly when no name is in use. -/
theorem WellFormed.memberCount_eq_zero (wellFormed : snapshot.WellFormed) :
    snapshot.memberCount = 0 ↔ snapshot.memberNames = [] := by
  rw [← List.length_eq_zero_iff, memberNames_length wellFormed.count_le]

/-- The index of a member is found by a search of the names; an invalid name is not among them. -/
theorem WellFormed.memberIndex_eq (wellFormed : snapshot.WellFormed) (username : CString) :
    memberIndex snapshot username = snapshot.memberNames.findIdx? (· = username) := by
  unfold memberIndex
  by_cases legal : validMemberName username = true
  · simp [legal]
  · have absent : ∀ name ∈ snapshot.memberNames, ¬ name = username := by
      intro name member same
      exact legal (same ▸ wellFormed.valid name member)
    have missing : snapshot.memberNames.findIdx? (· = username) = none := by
      simpa using absent
    rw [missing]
    simp [legal]

/-- The membership test of the code is membership among the names. -/
theorem WellFormed.hasMember_iff (wellFormed : snapshot.WellFormed) {username : CString} :
    groupSnapshotHasMember snapshot username = true ↔ username ∈ snapshot.memberNames := by
  rw [groupSnapshotHasMember, wellFormed.memberIndex_eq, List.findIdx?_isSome]
  simp

/-- Shifting moves each slot of the range to the slot before it and leaves the others. -/
theorem shiftSlots_getElem? {slots : List (FixedString usernameMaxLen)} {index steps : Nat}
    (inside : index + steps < slots.length) (position : Nat) :
    (shiftSlots slots index steps)[position]? =
      if index ≤ position ∧ position < index + steps then slots[position + 1]?
      else slots[position]? := by
  induction steps generalizing slots index with
  | zero =>
    have outside : ¬ (index ≤ position ∧ position < index + 0) := by omega
    rw [if_neg outside]
    rfl
  | succ steps ih =>
    have next : slots[index + 1]? = some (slots.getD (index + 1) (zeroFixed usernameMaxLen)) := by
      rw [List.getD_eq_getElem?_getD, List.getElem?_eq_getElem (by omega)]
      rfl
    rw [shiftSlots, copyFixed_self, ih (by rw [List.length_set]; omega), List.getElem?_set,
      List.getElem?_set]
    by_cases here : position = index
    · subst here
      have later : ¬ (position + 1 ≤ position ∧ position < position + 1 + steps) := by omega
      rw [if_neg later, if_pos rfl, if_pos (by omega), if_pos (by omega), next]
    · have below : index ≠ position := fun same => here same.symm
      by_cases range : index + 1 ≤ position ∧ position < index + 1 + steps
      · rw [if_pos range, if_neg (by omega), if_pos (by omega)]
      · rw [if_neg range, if_neg below, if_neg (by omega)]

/-- Removing a slot erases its name and keeps the order of the others. -/
theorem removeMemberAt_memberNames (bound : snapshot.memberCount ≤ groupMaxMembers) {index : Nat}
    (inside : index < snapshot.memberCount) :
    (removeMemberAt snapshot index).memberNames = snapshot.memberNames.eraseIdx index := by
  have size : snapshot.members.toList.length = groupMaxMembers := List.Vector.toList_length _
  have slots : ((shiftSlots snapshot.members.toList index (snapshot.memberCount - 1 - index)).set
      (snapshot.memberCount - 1) (zeroFixed usernameMaxLen)).take (snapshot.memberCount - 1) =
        (snapshot.members.toList.take snapshot.memberCount).eraseIdx index := by
    apply List.ext_getElem?
    intro position
    rw [List.getElem?_take, List.getElem?_eraseIdx, List.getElem?_take, List.getElem?_take]
    by_cases kept : position < snapshot.memberCount - 1
    · rw [if_pos kept, List.getElem?_set, if_neg (by omega), shiftSlots_getElem? (by omega)]
      by_cases before : position < index
      · rw [if_neg (by omega), if_pos before, if_pos (by omega)]
      · rw [if_pos (by omega), if_neg before, if_pos (by omega)]
    · rw [if_neg kept]
      by_cases before : position < index
      · omega
      · rw [if_neg before, if_neg (by omega)]
  have whole : ¬ index ≥ snapshot.memberCount := by omega
  unfold removeMemberAt
  rw [if_neg whole]
  change List.map _ (List.take _ (List.set _ _ _)) = _
  rw [slots, memberNames, List.eraseIdx_map]

/-- The group after one user left it; a group without the user is unchanged. -/
def without (snapshot : GroupSnapshot) (username : CString) : GroupSnapshot :=
  match memberIndex snapshot username with
  | none => snapshot
  | some index => removeMemberAt snapshot index

/-- Leaving filters the name out. -/
theorem WellFormed.without_memberNames (wellFormed : snapshot.WellFormed) (username : CString) :
    (snapshot.without username).memberNames =
      snapshot.memberNames.filter fun name => !decide (name = username) := by
  have erased : snapshot.memberNames.erase username =
      snapshot.memberNames.filter fun name => !decide (name = username) :=
    wellFormed.distinct.erase_eq_filter username
  rw [← erased, List.erase_eq_eraseP, List.eraseP_eq_eraseIdx, without, wellFormed.memberIndex_eq]
  have test : (fun name => username == name) = fun name => decide (name = username) := by
    funext name
    simp [eq_comm, beq_eq_decide]
  rw [test]
  cases found : snapshot.memberNames.findIdx? fun name => decide (name = username) with
  | none => rfl
  | some index =>
    have inside : index < snapshot.memberNames.length :=
      (List.findIdx?_eq_some_iff_getElem.mp found).1
    rw [memberNames_length wellFormed.count_le] at inside
    exact removeMemberAt_memberNames wellFormed.count_le inside

/-- Leaving changes no other field. -/
theorem without_header (snapshot : GroupSnapshot) (username : CString) :
    (snapshot.without username).header = snapshot.header := by
  unfold without removeMemberAt
  split
  · rfl
  · split <;> rfl

/-- Leaving keeps the count within the array. -/
theorem without_count_le (bound : snapshot.memberCount ≤ groupMaxMembers) (username : CString) :
    (snapshot.without username).memberCount ≤ groupMaxMembers := by
  unfold without removeMemberAt
  split
  · exact bound
  · split
    · exact bound
    · dsimp only
      omega

/-- Leaving keeps the invariant. -/
theorem WellFormed.without (wellFormed : snapshot.WellFormed) (username : CString) :
    (snapshot.without username).WellFormed where
  count_le := without_count_le wellFormed.count_le username
  distinct := by
    rw [wellFormed.without_memberNames]
    exact wellFormed.distinct.filter _
  valid := by
    rw [wellFormed.without_memberNames]
    exact fun name member => wellFormed.valid name (List.mem_filter.mp member).1

/-- Adding a new valid name appends it. -/
theorem WellFormed.addMember (wellFormed : snapshot.WellFormed) {username : CString}
    {extended : GroupSnapshot} {added : Bool}
    (done : addMember snapshot username = .ok (extended, added)) :
    extended.WellFormed ∧ extended.header = snapshot.header ∧
      extended.memberNames =
        if username ∈ snapshot.memberNames then snapshot.memberNames
        else snapshot.memberNames ++ [username] := by
  unfold MultiUserChat.addMember at done
  split at done
  · contradiction
  rename_i legal
  simp only [Bool.not_eq_true', Bool.not_eq_false] at legal
  split at done
  · rename_i present
    cases done
    have member := wellFormed.hasMember_iff.mp present
    exact ⟨wellFormed, rfl, by rw [if_pos member]⟩
  rename_i missing
  have absent : username ∉ snapshot.memberNames :=
    fun member => missing (wellFormed.hasMember_iff.mpr member)
  split at done
  · rename_i room
    cases done
    have fits : username.length < usernameMaxLen := by
      simp only [validMemberName, Bool.and_eq_true, decide_eq_true_eq] at legal
      exact legal.1.1.2
    have names : (GroupSnapshot.memberNames
        { snapshot with
          members := snapshot.members.set ⟨snapshot.memberCount, room⟩
            (copyFixed usernameMaxLen username)
          memberCount := snapshot.memberCount + 1 }) = snapshot.memberNames ++ [username] := by
      have size : snapshot.members.toList.length = groupMaxMembers := List.Vector.toList_length _
      unfold memberNames
      dsimp only
      rw [List.Vector.toList_set, List.take_set, List.take_add_one,
        List.getElem?_eq_getElem (by omega), Option.toList_some, List.set_append_right _ _ (by simp),
        List.length_take, List.map_append]
      have first : snapshot.memberCount - min snapshot.memberCount snapshot.members.toList.length
          = 0 := by omega
      rw [first, List.set_cons_zero, List.map_singleton, copyFixed_toCString fits]
    rw [if_neg absent]
    refine ⟨⟨by dsimp only; omega, ?_, ?_⟩, rfl, names⟩
    · rw [names]
      exact List.nodup_append.mpr ⟨wellFormed.distinct, List.nodup_singleton _, by
        intro name member other last
        rw [List.mem_singleton] at last
        rintro rfl
        exact absent (last ▸ member)⟩
    · rw [names]
      intro name member
      rcases List.mem_append.mp member with old | new
      · exact wellFormed.valid name old
      · rw [List.mem_singleton] at new
        exact new ▸ legal
  · contradiction

/-- A group as it is allocated has no members. -/
theorem blankGroup_wellFormed (name creator : CString) : (blankGroup name creator).WellFormed :=
  ⟨Nat.zero_le _, List.nodup_nil, fun _ member => absurd member List.not_mem_nil⟩

end GroupSnapshot

/-! ## Creation -/

/-- The names of a list in the order of their first occurrence, after those already listed. -/
def enlist (listed : List CString) (names : List CString) : List CString :=
  names.foldl (fun listed name => if name ∈ listed then listed else listed ++ [name]) listed

/-- Enlisting adds the given names and no others. -/
theorem mem_enlist {listed names : List CString} {name : CString} :
    name ∈ enlist listed names ↔ name ∈ listed ∨ name ∈ names := by
  induction names generalizing listed with
  | nil => simp [enlist]
  | cons first names ih =>
    have unfolded : enlist listed (first :: names) =
        enlist (if first ∈ listed then listed else listed ++ [first]) names := rfl
    rw [unfolded, ih]
    by_cases present : first ∈ listed
    · rw [if_pos present, List.mem_cons]
      constructor
      · rintro (old | later)
        · exact .inl old
        · exact .inr (.inr later)
      · rintro (old | rfl | later)
        · exact .inl old
        · exact .inl present
        · exact .inr later
    · rw [if_neg present, List.mem_append, List.mem_singleton, List.mem_cons, or_assoc]

/-- The member loop lists the members after those the group already has. -/
theorem addMembers_ok {creator : CString} {members : List CString} {snapshot final : GroupSnapshot}
    {flag flag' : Bool} (wellFormed : snapshot.WellFormed)
    (done : addMembers creator snapshot flag members = .ok (final, flag')) :
    final.WellFormed ∧ final.header = snapshot.header ∧
      final.memberNames = enlist snapshot.memberNames members := by
  induction members generalizing snapshot flag with
  | nil =>
    cases done
    exact ⟨wellFormed, rfl, rfl⟩
  | cons member members ih =>
    unfold addMembers at done
    split at done
    · contradiction
    split at done
    · contradiction
    · rename_i extended added step
      obtain ⟨kept, header, names⟩ := wellFormed.addMember step
      obtain ⟨final_kept, final_header, final_names⟩ := ih kept done
      refine ⟨final_kept, final_header.trans header, ?_⟩
      rw [final_names, names]
      rfl

namespace GroupStore

/-- A group number is shorter than the array of an id. -/
theorem groupIdText_length (number : UInt32) : (groupIdText number).length ≤ 11 := by
  have digits : (decimalDigits number.toNat).length ≤ 10 :=
    decimalDigits_length_le (by decide) (lt_trans number.toNat_lt (by decide))
  have width := decimal_length 6 number.toNat
  have cons : (groupIdText number).length = (decimal 6 number.toNat).length + 1 := rfl
  omega

/-- The id made from a number is valid. -/
theorem groupIdText_valid (number : UInt32) : validGroupId (groupIdText number) = true := by
  have short := groupIdText_length number
  have cons : (groupIdText number).length = (decimal 6 number.toNat).length + 1 := rfl
  have line : (groupIdText number).contains 10 = false := by
    rw [CString.contains, List.contains_eq_mem, decide_eq_false_iff_not]
    intro member
    rcases List.mem_cons.mp member with first | digit
    · exact absurd first (by decide)
    · exact absurd (decimal_range 6 number.toNat 10 digit).1 (by decide)
  simp only [validGroupId, line, Bool.and_eq_true, decide_eq_true_eq, Bool.not_false, and_true]
  exact ⟨by omega, lt_of_le_of_lt short (by decide)⟩

/-- The id of a new group is the text of its number. -/
theorem groupIdText_copied (number : UInt32) :
    (copyFixed groupIdMaxLen (groupIdText number)).toCString = groupIdText number := by
  exact copyFixed_toCString (lt_of_le_of_lt (groupIdText_length number) (by decide))

/-- The invariant of the list of groups. -/
structure WellFormed (store : GroupStore) : Prop where
  /-- Every group is well formed. -/
  groups : ∀ group ∈ store.head, group.WellFormed
  /-- Every group has a member. -/
  inhabited : ∀ group ∈ store.head, group.memberNames ≠ []
  /-- Every group has a valid id. -/
  identified : ∀ group ∈ store.head, validGroupId group.id.toCString = true
  /-- The count is the number of groups. -/
  counted : store.count = store.head.length
  /-- There are not more groups than allowed. -/
  count_le : store.count ≤ groupMaxGroups

/-- The groups as a roster. -/
def roster (store : GroupStore) : List ((FixedString groupIdMaxLen × FixedString groupNameMaxLen ×
    FixedString usernameMaxLen) × List CString) :=
  store.head.map GroupSnapshot.entry

variable {store : GroupStore}

/-- The empty store is well formed. -/
theorem wellFormed_init : groupStoreInit.WellFormed :=
  ⟨by simp [groupStoreInit], by simp [groupStoreInit], by simp [groupStoreInit], rfl, by decide⟩

/-- No list of the roster is empty. -/
theorem WellFormed.roster_inhabited (wellFormed : store.WellFormed) :
    Roster.Inhabited store.roster := by
  intro entry member
  obtain ⟨group, listed, rfl⟩ := List.mem_map.mp member
  exact wellFormed.inhabited group listed

/-- A snapshot is returned exactly for an id that a listed group has; the first such group is
returned. -/
theorem WellFormed.getSnapshot_ok (wellFormed : store.WellFormed) {groupId : CString}
    {group : GroupSnapshot} : groupStoreGetSnapshot store groupId = .ok group ↔
      (store.head.find? fun group => group.id.toCString = groupId) = some group := by
  unfold groupStoreGetSnapshot findGroupLocked
  cases valid : validGroupId groupId with
  | true =>
    simp only [Bool.not_true, Bool.false_eq_true, ↓reduceIte]
    cases store.head.find? fun group => group.id.toCString = groupId <;> simp
  | false =>
    simp only [Bool.not_false, ↓reduceIte]
    refine ⟨fun absurd => by contradiction, fun found => ?_⟩
    have same : group.id.toCString = groupId := by simpa using List.find?_some found
    have listed := wellFormed.identified group (List.mem_of_find?_eq_some found)
    rw [same, valid] at listed
    contradiction

/-- What a successful creation returns and inserts. -/
structure Created (store : GroupStore) (creator name : CString) (members : List CString)
    (snapshot : GroupSnapshot) : Prop where
  /-- The group is well formed. -/
  wellFormed : snapshot.WellFormed
  /-- It has the next number. -/
  id : snapshot.id = copyFixed groupIdMaxLen (groupIdText store.nextId)
  /-- It has the name that was asked for. -/
  called : snapshot.name.toCString = name
  /-- Its creator is the given user. -/
  founded : snapshot.creator.toCString = creator
  /-- Its members are the creator and then the named users, each once. -/
  memberNames : snapshot.memberNames = enlist [creator] members
  /-- There was room for another group. -/
  room : store.count < groupMaxGroups

/-- A group that was built has the creator and the members, each once. -/
theorem buildGroup_ok {creator name : CString} {members : List CString} {built : GroupSnapshot}
    (done : buildGroup creator name members = .ok built) :
    built.WellFormed ∧ built.header = (blankGroup name creator).header ∧
      built.memberNames = enlist [creator] members := by
  unfold buildGroup at done
  split at done
  · contradiction
  rename_i founded added first
  obtain ⟨kept, header, names⟩ :=
    (GroupSnapshot.blankGroup_wellFormed name creator).addMember first
  split at done
  · contradiction
  rename_i snapshot hasNonCreator rest
  split at done
  · cases done
    obtain ⟨final_kept, final_header, final_names⟩ := addMembers_ok kept rest
    refine ⟨final_kept, final_header.trans header, ?_⟩
    rw [final_names, names]
    rfl
  · contradiction

/-- Creation is refused and changes nothing, or puts the new group in front. -/
theorem create_cases (allocated : Bool) (store : GroupStore) (creator name : CString)
    (members : List CString) :
    (∃ result, groupStoreCreate allocated store creator name members = (.error result, store)) ∨
      ∃ snapshot, store.Created creator name members snapshot ∧
        groupStoreCreate allocated store creator name members =
          (.ok snapshot,
            { head := snapshot :: store.head
              nextId := store.nextId + 1
              count := store.count + 1 }) := by
  unfold groupStoreCreate
  split
  · exact .inl ⟨_, rfl⟩
  rename_i legal
  simp only [Bool.or_eq_true, Bool.not_eq_true', not_or, Bool.not_eq_false, decide_eq_true_eq]
    at legal
  split
  · exact .inl ⟨_, rfl⟩
  split
  · exact .inl ⟨_, rfl⟩
  rename_i built done
  split
  · exact .inl ⟨_, rfl⟩
  rename_i room
  obtain ⟨kept, header, names⟩ := buildGroup_ok done
  have nameFits : name.length < groupNameMaxLen := by
    have := legal.1.2
    simp only [validGroupName, Bool.and_eq_true, decide_eq_true_eq] at this
    exact this.1.2
  have creatorFits : creator.length < usernameMaxLen := by
    have := legal.1.1
    simp only [validMemberName, Bool.and_eq_true, decide_eq_true_eq] at this
    exact this.1.1.2
  have sameName : built.name = copyFixed groupNameMaxLen name :=
    congrArg (fun header => header.2.1) header
  have sameCreator : built.creator = copyFixed usernameMaxLen creator :=
    congrArg (fun header => header.2.2) header
  refine .inr ⟨{ built with id := copyFixed groupIdMaxLen (groupIdText store.nextId) },
    ⟨⟨kept.count_le, kept.distinct, kept.valid⟩, rfl, ?_, ?_, names, ?_⟩, rfl⟩
  · dsimp only
    rw [sameName, copyFixed_toCString nameFits]
  · dsimp only
    rw [sameCreator, copyFixed_toCString creatorFits]
  · omega

/-- Creation keeps the invariant. -/
theorem WellFormed.create (wellFormed : store.WellFormed) (allocated : Bool)
    (creator name : CString) (members : List CString) :
    (groupStoreCreate allocated store creator name members).2.WellFormed := by
  obtain ⟨result, refused⟩ | ⟨snapshot, created, done⟩ :=
    create_cases allocated store creator name members
  · rw [refused]
    exact wellFormed
  · rw [done]
    have counted := wellFormed.counted
    have room := created.room
    have member : creator ∈ snapshot.memberNames := by
      rw [created.memberNames, mem_enlist]
      exact .inl (List.mem_singleton_self _)
    exact
      ⟨List.forall_mem_cons.mpr ⟨created.wellFormed, wellFormed.groups⟩,
        List.forall_mem_cons.mpr ⟨List.ne_nil_of_mem member, wellFormed.inhabited⟩,
        List.forall_mem_cons.mpr ⟨by
          rw [created.id, groupIdText_copied]
          exact groupIdText_valid _, wellFormed.identified⟩,
        by simp [counted], by dsimp only; omega⟩

/-! ## Removal -/

/-- The groups that a user's removal changes and that keep a member, after the change. -/
def survivors (username : CString) (groups : List GroupSnapshot) : List GroupSnapshot :=
  ((groups.filter fun group => groupSnapshotHasMember group username).map
    (GroupSnapshot.without · username)).filter fun group => group.memberCount ≠ 0

/-- A group without the user, or with no other member, has no survivor. -/
theorem survivors_skip {username : CString} {group : GroupSnapshot} {groups : List GroupSnapshot}
    (skipped : groupSnapshotHasMember group username = true →
      (group.without username).memberCount = 0) :
    survivors username (group :: groups) = survivors username groups := by
  cases inside : groupSnapshotHasMember group username with
  | false => simp [survivors, inside]
  | true => simp [survivors, inside, skipped inside]

/-- A group with the user and another member survives without the user. -/
theorem survivors_keep {username : CString} {group : GroupSnapshot} {groups : List GroupSnapshot}
    (inside : groupSnapshotHasMember group username = true)
    (left : (group.without username).memberCount ≠ 0) :
    survivors username (group :: groups) =
      group.without username :: survivors username groups := by
  simp [survivors, inside, left]

/-- The loop keeps the groups that still have a member, and reports the changed ones among them as
far as there is room. -/
theorem removeMemberLoop_eq (username : CString) {groups : List GroupSnapshot}
    (wellFormed : ∀ group ∈ groups, group.WellFormed)
    (inhabited : ∀ group ∈ groups, group.memberNames ≠ []) (room : Nat) :
    (removeMemberLoop username groups room).kept =
        (groups.map (GroupSnapshot.without · username)).filter (fun group => group.memberCount ≠ 0) ∧
      (removeMemberLoop username groups room).changes =
        ((survivors username groups).take room).map
          (⟨copyFixed 32 groupEventMemberLeft, ·⟩) ∧
      (removeMemberLoop username groups room).kept.length +
        (removeMemberLoop username groups room).dropped = groups.length ∧
      ((removeMemberLoop username groups room).result = .ok ↔
        (survivors username groups).length ≤ room) := by
  induction groups generalizing room with
  | nil => simp [removeMemberLoop, survivors]
  | cons group groups ih =>
    obtain ⟨own, others⟩ := List.forall_mem_cons.mp wellFormed
    obtain ⟨nonempty, nonemptys⟩ := List.forall_mem_cons.mp inhabited
    cases index : memberIndex group username with
    | none =>
      obtain ⟨kept, changes, counted, result⟩ := ih others nonemptys room
      have unchanged : group.without username = group := by rw [GroupSnapshot.without, index]
      have counts : group.memberCount ≠ 0 := fun zero => nonempty (own.memberCount_eq_zero.mp zero)
      have same : survivors username (group :: groups) = survivors username groups :=
        survivors_skip fun inside => by simp [groupSnapshotHasMember, index] at inside
      simp only [removeMemberLoop, index, same]
      refine ⟨?_, changes, ?_, result⟩
      · simp [kept, unchanged, counts]
      · simp only [List.length_cons]
        omega
    | some position =>
      have changed : group.without username = removeMemberAt group position := by
        rw [GroupSnapshot.without, index]
      have present : groupSnapshotHasMember group username = true := by
        simp [groupSnapshotHasMember, index]
      by_cases zero : (removeMemberAt group position).memberCount = 0
      · obtain ⟨kept, changes, counted, result⟩ := ih others nonemptys room
        have same : survivors username (group :: groups) = survivors username groups :=
          survivors_skip fun _ => changed ▸ zero
        simp only [removeMemberLoop, index, zero, ↓reduceIte, same]
        refine ⟨?_, changes, ?_, result⟩
        · simp [kept, changed, zero]
        · simp only [List.length_cons]
          omega
      · have more : survivors username (group :: groups) =
            removeMemberAt group position :: survivors username groups :=
          changed ▸ survivors_keep present (changed ▸ zero)
        cases room with
        | zero =>
          obtain ⟨kept, changes, counted, result⟩ := ih others nonemptys 0
          simp only [removeMemberLoop, index, zero, ↓reduceIte, more]
          refine ⟨?_, ?_, ?_, ?_⟩
          · simp [kept, changed, zero]
          · simp [changes]
          · simp only [List.length_cons]
            omega
          · simp
        | succ room =>
          obtain ⟨kept, changes, counted, result⟩ := ih others nonemptys room
          simp only [removeMemberLoop, index, zero, ↓reduceIte, more, Nat.add_one_ne_zero,
            Nat.add_one_sub_one]
          refine ⟨?_, ?_, ?_, ?_⟩
          · simp [kept, changed, zero]
          · simp [changes]
          · simp only [List.length_cons]
            omega
          · rw [result, List.length_cons]
            omega

/-- Nobody is a member under an invalid name. -/
theorem WellFormed.roster_valid (wellFormed : store.WellFormed) {username : CString}
    (legal : ¬ validMemberName username = true) :
    ∀ entry ∈ store.roster, username ∉ entry.2 := by
  intro entry member inside
  obtain ⟨group, listed, rfl⟩ := List.mem_map.mp member
  exact legal ((wellFormed.groups group listed).valid username inside)

/-- Removing a member everywhere is a departure from the roster. -/
theorem WellFormed.removeMember_roster (wellFormed : store.WellFormed) (username : CString)
    (room : Nat) : (groupStoreRemoveMember store username room).2.2.roster =
      Roster.depart (fun name => decide (name = username)) store.roster := by
  unfold groupStoreRemoveMember
  by_cases legal : validMemberName username = true
  · have kept := (removeMemberLoop_eq username wellFormed.groups wellFormed.inhabited room).1
    simp only [legal, Bool.not_true, Bool.false_eq_true, ↓reduceIte]
    change List.map _ (removeMemberLoop username store.head room).kept = _
    rw [kept, Roster.depart, roster, List.map_map, List.filter_map, List.filter_map, List.map_map]
    have tests : store.head.filter
          ((fun group => decide (group.memberCount ≠ 0)) ∘ (GroupSnapshot.without · username)) =
        store.head.filter ((fun entry => !entry.2.isEmpty) ∘
          ((fun entry => (entry.1, entry.2.filter fun name => !decide (name = username))) ∘
            GroupSnapshot.entry)) := by
      apply List.filter_congr
      intro group listed
      have own := wellFormed.groups group listed
      have zero := (own.without username).memberCount_eq_zero
      rw [own.without_memberNames] at zero
      simp only [Function.comp_apply, GroupSnapshot.entry, decide_not, zero, Bool.not_eq_eq_eq_not,
        Bool.not_not]
      rw [Bool.eq_iff_iff, decide_eq_true_iff, List.isEmpty_iff]
    rw [tests]
    apply List.map_congr_left
    intro group inside
    have own := wellFormed.groups group (List.mem_filter.mp inside).1
    simp only [Function.comp_apply, GroupSnapshot.entry, GroupSnapshot.without_header,
      own.without_memberNames]
  · have none : Roster.depart (fun name => decide (name = username)) store.roster =
        store.roster := by
      refine Roster.depart_absent wellFormed.roster_inhabited fun entry member name inside => ?_
      simpa using fun same : name = username =>
        wellFormed.roster_valid legal entry member (same ▸ inside)
    rw [none]
    simp [legal]

/-- The changes reported are the changed groups that keep a member, as far as there is room. -/
theorem WellFormed.removeMember_changes (wellFormed : store.WellFormed) (username : CString)
    (room : Nat) : (groupStoreRemoveMember store username room).2.1 =
      ((survivors username store.head).take room).map
        (⟨copyFixed 32 groupEventMemberLeft, ·⟩) := by
  unfold groupStoreRemoveMember
  by_cases legal : validMemberName username = true
  · simp only [legal, Bool.not_true, Bool.false_eq_true, ↓reduceIte]
    exact (removeMemberLoop_eq username wellFormed.groups wellFormed.inhabited room).2.1
  · have nobody : survivors username store.head = [] := by
      have absent : ∀ group ∈ store.head, groupSnapshotHasMember group username = false := by
        intro group listed
        rw [Bool.eq_false_iff]
        intro present
        have own := wellFormed.groups group listed
        exact legal (own.valid username (own.hasMember_iff.mp present))
      have nothing : (store.head.filter fun group => groupSnapshotHasMember group username) = [] := by
        simpa using absent
      rw [survivors, nothing]
      rfl
    rw [nobody]
    simp [legal]

/-- Removal does not touch the numbering. -/
theorem removeMember_nextId (store : GroupStore) (username : CString) (room : Nat) :
    (groupStoreRemoveMember store username room).2.2.nextId = store.nextId := by
  unfold groupStoreRemoveMember
  split <;> rfl

/-- Removal keeps the invariant. -/
theorem WellFormed.removeMember (wellFormed : store.WellFormed) (username : CString) (room : Nat) :
    (groupStoreRemoveMember store username room).2.2.WellFormed := by
  unfold groupStoreRemoveMember
  split
  · exact wellFormed
  obtain ⟨kept, _, counted, _⟩ :=
    removeMemberLoop_eq username wellFormed.groups wellFormed.inhabited room
  have listed : ∀ group ∈ (removeMemberLoop username store.head room).kept,
      group.WellFormed ∧ group.memberNames ≠ [] ∧ validGroupId group.id.toCString = true := by
    intro group inside
    rw [kept, List.mem_filter, List.mem_map] at inside
    obtain ⟨⟨before, member, rfl⟩, nonempty⟩ := inside
    have own := (wellFormed.groups before member).without username
    have id : (before.without username).id = before.id :=
      congrArg Prod.fst (before.without_header username)
    refine ⟨own, fun empty => ?_, ?_⟩
    · simp [own.memberCount_eq_zero.mpr empty] at nonempty
    · rw [id]
      exact wellFormed.identified before member
  have before := wellFormed.counted
  have bound := wellFormed.count_le
  refine ⟨fun group inside => (listed group inside).1,
    fun group inside => (listed group inside).2.1, fun group inside => (listed group inside).2.2,
    ?_, ?_⟩
  · dsimp only
    omega
  · dsimp only
    omega

end GroupStore

end MultiUserChat
