import Mathlib.Data.List.Perm.Subperm
import MultiUserChat.Library.Transition
import MultiUserChat.Verif.GroupStore
/-!
# The changes reported when a user goes offline

`group_store_remove_member` reports the groups it changed into an array of the caller, and stops
writing when the array is full. The array of `cleanup_offline_fd` holds `GROUP_EVENT_MAX_CHANGES`
entries, while a user may be in as many groups as the store holds. A report is complete exactly when
no more groups than entries are affected.
-/

namespace MultiUserChat

/-- The calls that change a group store. -/
inductive GroupInput
  /-- `group_store_create`, with the success of its allocation. -/
  | create (allocated : Bool) (creator name : CString) (members : List CString)
  /-- `group_store_remove_member` with an array of the given size. -/
  | remove (username : CString) (maxChanges : Nat)

namespace GroupStore

/-- The store after a call. -/
def apply (store : GroupStore) : GroupInput → GroupStore
  | .create allocated creator name members =>
    (groupStoreCreate allocated store creator name members).2
  | .remove username maxChanges => (groupStoreRemoveMember store username maxChanges).2.2

/-- Stores reached by any sequence of calls. -/
def CallReachable (store : GroupStore) : Prop :=
  Reachable (· = groupStoreInit) (fun store input store' => store' = store.apply input) store

variable {store : GroupStore}

/-- Every call keeps the invariant. -/
theorem WellFormed.apply (wellFormed : store.WellFormed) (input : GroupInput) :
    (store.apply input).WellFormed := by
  cases input with
  | create allocated creator name members => exact wellFormed.create allocated creator name members
  | remove username maxChanges => exact wellFormed.removeMember username maxChanges

/-- The invariant holds after any calls. -/
theorem CallReachable.wellFormed (reached : store.CallReachable) : store.WellFormed :=
  reached.invariant GroupStore.WellFormed
    (fun store initial => by
      obtain rfl : store = groupStoreInit := initial
      exact wellFormed_init)
    (fun store input store' _ holds step => by
      obtain rfl : store' = store.apply input := step
      exact holds.apply input)

/-- A computed sequence of calls reaches its last store. -/
theorem callReachable_foldl (inputs : List GroupInput) (reached : store.CallReachable) :
    (inputs.foldl GroupStore.apply store).CallReachable := by
  induction inputs generalizing store with
  | nil => exact reached
  | cons input inputs ih => exact ih (.next reached rfl)

/-- The groups that contain the user and somebody else. -/
def affected (store : GroupStore) (username : CString) : List GroupSnapshot :=
  store.head.filter fun group =>
    decide (username ∈ group.memberNames) && group.memberNames.any fun name => name ≠ username

/-- Among the reported changes there is, for each group that contains the user and somebody else,
one of its own that says `member_left` and lists the remaining members. -/
def ReportsEveryChange (store : GroupStore) (username : CString) : Prop :=
  ((store.affected username).map fun group =>
      (groupEventMemberLeft, group.header, group.memberNames.filter (· ≠ username))).Subperm
    ((groupStoreRemoveMember store username groupEventMaxChanges).2.1.map fun change =>
      (change.event.toCString, change.group.header, change.group.memberNames))

/-- The groups that survive a removal are the affected groups without the user. -/
theorem survivors_eq {groups : List GroupSnapshot} (wellFormed : ∀ group ∈ groups, group.WellFormed)
    (username : CString) :
    survivors username groups =
      (groups.filter fun group => decide (username ∈ group.memberNames) &&
        group.memberNames.any fun name => name ≠ username).map (GroupSnapshot.without · username) := by
  rw [survivors, List.filter_map, List.filter_filter]
  congr 1
  apply List.filter_congr
  intro group listed
  have own := wellFormed group listed
  have member : groupSnapshotHasMember group username = decide (username ∈ group.memberNames) := by
    rw [Bool.eq_iff_iff, own.hasMember_iff, decide_eq_true_iff]
  have remains : decide ((group.without username).memberCount ≠ 0) =
      group.memberNames.any fun name => name ≠ username := by
    rw [Bool.eq_iff_iff, decide_eq_true_iff, ne_eq, (own.without username).memberCount_eq_zero,
      own.without_memberNames, List.filter_eq_nil_iff, List.any_eq_true]
    simp
  rw [Function.comp_apply, remains, member, Bool.and_comm]

/-- The reported entries are those of the affected groups, as far as there is room. -/
theorem WellFormed.reported (wellFormed : store.WellFormed) (username : CString) (room : Nat) :
    ((groupStoreRemoveMember store username room).2.1.map fun change =>
        (change.event.toCString, change.group.header, change.group.memberNames)) =
      ((store.affected username).map fun group =>
        (groupEventMemberLeft, group.header, group.memberNames.filter (· ≠ username))).take room := by
  rw [wellFormed.removeMember_changes, survivors_eq wellFormed.groups, ← List.map_take,
    ← List.map_take, List.map_map, List.map_map]
  apply List.map_congr_left
  intro group inside
  have own : group.WellFormed :=
    wellFormed.groups group (List.mem_filter.mp (List.mem_of_mem_take inside)).1
  have event : (copyFixed 32 groupEventMemberLeft).toCString = groupEventMemberLeft :=
    copyFixed_toCString (by decide)
  simp only [Function.comp_apply, event, GroupSnapshot.without_header, own.without_memberNames,
    decide_not]

/-- After any calls, the report of a removal is complete exactly when at most
`GROUP_EVENT_MAX_CHANGES` groups contain the user and somebody else. -/
theorem reportsEveryChange_iff (reached : store.CallReachable) (username : CString) :
    store.ReportsEveryChange username ↔
      (store.affected username).length ≤ groupEventMaxChanges := by
  rw [ReportsEveryChange, reached.wellFormed.reported]
  constructor
  · intro complete
    have bound := complete.length_le
    simp only [List.length_map, List.length_take] at bound
    omega
  · intro few
    rw [List.take_of_length_le (by rwa [List.length_map])]

/-- A store with one group of two users more than a report holds. -/
def crowded : GroupStore :=
  (List.replicate (groupEventMaxChanges + 1) (GroupInput.create true (CString.ofString "ann")
    (CString.ofString "team") [CString.ofString "ben"])).foldl apply groupStoreInit

/-- The crowded store is reached by creations alone. -/
theorem crowded_reachable : crowded.CallReachable := callReachable_foldl _ (.start rfl)

/-- The condition decides for the crowded store. -/
theorem reportsEveryChange_iff_crowded :
    crowded.ReportsEveryChange (CString.ofString "ann") ↔
      (crowded.affected (CString.ofString "ann")).length ≤ groupEventMaxChanges :=
  reportsEveryChange_iff crowded_reachable (CString.ofString "ann")

/-- When the user leaves the crowded store, one group's change is not reported. -/
theorem reportsEveryChange_crowded : ¬ ∀ (store : GroupStore) (username : CString),
    store.CallReachable → store.ReportsEveryChange username := by
  intro claim
  have complete := (claim crowded (CString.ofString "ann") crowded_reachable).length_le
  rw [List.length_map, List.length_map] at complete
  have groups : (crowded.affected (CString.ofString "ann")).length = 65 := by decide +kernel
  have reported : (groupStoreRemoveMember crowded (CString.ofString "ann")
      groupEventMaxChanges).2.1.length = 64 := by decide +kernel
  omega

end GroupStore

end MultiUserChat
