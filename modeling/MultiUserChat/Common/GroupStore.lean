import MultiUserChat.Common.GroupPayload
/-!
# The group store

The store half of `common/group.c`. The groups are the nodes of one linked list in list order, and
`count` is kept beside them as in the source. Each operation is one critical section of the store's
mutex; the building of a new group happens before its lock is taken and touches no shared state.
-/

namespace MultiUserChat

/-- `valid_group_name` -/
def validGroupName (name : CString) : Bool :=
  name.length ≠ 0 && name.length < groupNameMaxLen && !name.contains 10

/-- `valid_group_id` -/
def validGroupId (groupId : CString) : Bool :=
  groupId.length ≠ 0 && groupId.length < groupIdMaxLen && !groupId.contains 10

/-- `valid_member_name` -/
def validMemberName (username : CString) : Bool :=
  username.length ≠ 0 && username.length < usernameMaxLen && !username.contains 58 &&
    !username.contains 10

/-- `member_index` -/
def memberIndex (snapshot : GroupSnapshot) (username : CString) : Option Nat :=
  if !validMemberName username then none
  else snapshot.memberNames.findIdx? (· = username)

/-- `group_snapshot_has_member` -/
def groupSnapshotHasMember (snapshot : GroupSnapshot) (username : CString) : Bool :=
  (memberIndex snapshot username).isSome

/-- The answer of `add_member` with its `added` flag. -/
def addMember (snapshot : GroupSnapshot) (username : CString) :
    Except GroupResult (GroupSnapshot × Bool) :=
  if !validMemberName username then .error .errInvalid
  else if (memberIndex snapshot username).isSome then .ok (snapshot, false)
  else if room : snapshot.memberCount < groupMaxMembers then
    .ok
      ({ snapshot with
          members := snapshot.members.set ⟨snapshot.memberCount, room⟩
            (copyFixed usernameMaxLen username)
          memberCount := snapshot.memberCount + 1 }, true)
  else .error .errFull

/-- The loop of `remove_member_at`: each slot from `index` takes the content of the next one. -/
def shiftSlots (slots : List (FixedString usernameMaxLen)) (index : Nat) :
    Nat → List (FixedString usernameMaxLen)
  | 0 => slots
  | steps + 1 =>
    shiftSlots
      (slots.set index
        (copyFixed usernameMaxLen (slots.getD (index + 1) (zeroFixed usernameMaxLen)).toCString))
      (index + 1) steps

/-- Shifting keeps the number of slots. -/
@[simp]
theorem shiftSlots_length (slots : List (FixedString usernameMaxLen)) (index steps : Nat) :
    (shiftSlots slots index steps).length = slots.length := by
  induction steps generalizing slots index with
  | zero => rfl
  | succ steps ih => rw [shiftSlots, ih, List.length_set]

/-- `remove_member_at` -/
def removeMemberAt (snapshot : GroupSnapshot) (index : Nat) : GroupSnapshot :=
  if index ≥ snapshot.memberCount then snapshot
  else
    let last := snapshot.memberCount - 1
    { snapshot with
      members := ⟨(shiftSlots snapshot.members.toList index (last - index)).set last
        (zeroFixed usernameMaxLen), by simp⟩
      memberCount := last }

/-- `GroupChange` -/
structure GroupChange where
  /-- Name of the event to announce. -/
  event : FixedString 32
  /-- The group after the change. -/
  group : GroupSnapshot
deriving DecidableEq

/-- `GroupStore` -/
structure GroupStore where
  /-- Snapshots of the listed groups, from `head`. -/
  head : List GroupSnapshot
  /-- Number of the next group. -/
  nextId : UInt32
  /-- Number of listed groups, as the code counts them. -/
  count : Nat
deriving DecidableEq

/-- `group_store_init` -/
def groupStoreInit : GroupStore := ⟨[], 1, 0⟩

/-- `find_group_locked` -/
def findGroupLocked (store : GroupStore) (groupId : CString) : Option GroupSnapshot :=
  if !validGroupId groupId then none
  else store.head.find? fun group => group.id.toCString = groupId

/-- A group as `calloc` returns it, with its name and creator copied in. -/
def blankGroup (name creator : CString) : GroupSnapshot where
  id := zeroFixed groupIdMaxLen
  name := copyFixed groupNameMaxLen name
  creator := copyFixed usernameMaxLen creator
  members := List.Vector.replicate groupMaxMembers (zeroFixed usernameMaxLen)
  memberCount := 0

/-- The member loop of `group_store_create`, with the flag for a member other than the creator. -/
def addMembers (creator : CString) : GroupSnapshot → Bool → List CString →
    Except GroupResult (GroupSnapshot × Bool)
  | snapshot, hasNonCreator, [] => .ok (snapshot, hasNonCreator)
  | snapshot, hasNonCreator, member :: rest =>
    if !validMemberName member then .error .errInvalid
    else
      match addMember snapshot member with
      | .error result => .error result
      | .ok (extended, added) =>
        addMembers creator extended (hasNonCreator || (added && member ≠ creator)) rest

/-- The snapshot that `group_store_create` builds before it takes the lock. -/
def buildGroup (creator name : CString) (members : List CString) :
    Except GroupResult GroupSnapshot :=
  match addMember (blankGroup name creator) creator with
  | .error result => .error result
  | .ok (founded, _) =>
    match addMembers creator founded false members with
    | .error result => .error result
    | .ok (snapshot, hasNonCreator) => if hasNonCreator then .ok snapshot else .error .errInvalid

/-- `"g%06u"` -/
def groupIdText (number : UInt32) : CString where
  bytes := 103 :: (decimal 6 number.toNat).bytes
  nulFree := by
    have := (decimal 6 number.toNat).nulFree
    simpa using this

/-- `group_store_create` -/
def groupStoreCreate (allocated : Bool) (store : GroupStore) (creator name : CString)
    (members : List CString) : Except GroupResult GroupSnapshot × GroupStore :=
  if !validMemberName creator || !validGroupName name || members.length = 0 then
    (.error .errInvalid, store)
  else if !allocated then (.error .errInvalid, store)
  else
    match buildGroup creator name members with
    | .error result => (.error result, store)
    | .ok built =>
      if store.count ≥ groupMaxGroups then (.error .errFull, store)
      else
        let snapshot := { built with id := copyFixed groupIdMaxLen (groupIdText store.nextId) }
        (.ok snapshot,
          { head := snapshot :: store.head
            nextId := store.nextId + 1
            count := store.count + 1 })

/-- `group_store_get_snapshot` -/
def groupStoreGetSnapshot (store : GroupStore) (groupId : CString) :
    Except GroupResult GroupSnapshot :=
  if !validGroupId groupId then .error .errInvalid
  else
    match findGroupLocked store groupId with
    | none => .error .errNotFound
    | some group => .ok group

/-- The loop of `group_store_build_list_payload` over the groups of the user. -/
def addRecords (payload : GroupPayload) : List GroupSnapshot → GroupResult × GroupPayload
  | [] => (.ok, payload)
  | group :: rest =>
    match groupPayloadBuildRecord payload group with
    | (.ok, extended) => addRecords extended rest
    | refused => refused

/-- `group_store_build_list_payload` -/
def groupStoreBuildListPayload (store : GroupStore) (username : CString) :
    Except GroupResult GroupPayload :=
  if !validMemberName username then .error .errInvalid
  else
    let groups := store.head.filter fun group => groupSnapshotHasMember group username
    match groupPayloadAdd groupPayloadInit (decimal 0 groups.length) with
    | (.ok, payload) =>
      match addRecords payload groups with
      | (.ok, complete) => .ok complete
      | (result, _) => .error result
    | (result, _) => .error result

/-- The loop of `group_store_remove_member`: the groups that stay in the list, the changes written
and the number of groups taken out. `room` is the number of change slots left. -/
structure Removal where
  /-- Groups still listed. -/
  kept : List GroupSnapshot
  /-- Changes written, in list order. -/
  changes : List GroupChange
  /-- Number of groups taken out of the list. -/
  dropped : Nat
  /-- The result code so far. -/
  result : GroupResult

/-- One pass over the list; the slots still free are counted down. -/
def removeMemberLoop (username : CString) : List GroupSnapshot → Nat → Removal
  | [], _ => ⟨[], [], 0, .ok⟩
  | group :: rest, room =>
    match memberIndex group username with
    | none =>
      let later := removeMemberLoop username rest room
      { later with kept := group :: later.kept }
    | some index =>
      let reduced := removeMemberAt group index
      if reduced.memberCount = 0 then
        let later := removeMemberLoop username rest room
        { later with dropped := later.dropped + 1 }
      else if room = 0 then
        let later := removeMemberLoop username rest room
        { later with kept := reduced :: later.kept, result := .errFull }
      else
        let later := removeMemberLoop username rest (room - 1)
        { later with
          kept := reduced :: later.kept
          changes := ⟨copyFixed 32 groupEventMemberLeft, reduced⟩ :: later.changes }

/-- `group_store_remove_member`: its result, the changes and the store. -/
def groupStoreRemoveMember (store : GroupStore) (username : CString) (maxChanges : Nat) :
    GroupResult × List GroupChange × GroupStore :=
  if !validMemberName username then (.errInvalid, [], store)
  else
    let removal := removeMemberLoop username store.head maxChanges
    (removal.result, removal.changes,
      { store with head := removal.kept, count := store.count - removal.dropped })

end MultiUserChat
