import MultiUserChat.Verif.Changes
/-!
# What removing a member does

`group_store_remove_member` goes once through the list: it takes the user out of each group, takes
the groups that become empty out of the list and reports the others it changed as far as there is
room. Here the whole effect of a call is stated together.
-/

namespace MultiUserChat

namespace GroupSnapshot

variable {snapshot : GroupSnapshot}

/-- A group that does not list the user is as it was. -/
theorem WellFormed.without_absent (wellFormed : snapshot.WellFormed) {username : CString}
    (absent : username ∉ snapshot.memberNames) : snapshot.without username = snapshot := by
  have missing : snapshot.memberNames.findIdx? (· = username) = none := by
    rw [List.findIdx?_eq_none_iff]
    intro name member
    simpa using fun same : name = username => absent (same ▸ member)
  unfold GroupSnapshot.without
  rw [wellFormed.memberIndex_eq, missing]

/-- Nobody is left exactly when nobody else was listed. -/
theorem WellFormed.without_empty_iff (wellFormed : snapshot.WellFormed) (username : CString) :
    (snapshot.without username).memberNames = [] ↔
      ∀ name ∈ snapshot.memberNames, name = username := by
  rw [wellFormed.without_memberNames, List.filter_eq_nil_iff]
  simp

end GroupSnapshot

namespace GroupStore

open GroupSnapshot

variable {store : GroupStore}

/-- The groups that list nobody but the user. -/
def deserted (store : GroupStore) (username : CString) : List GroupSnapshot :=
  store.head.filter fun group => group.memberNames.all fun name => name = username

/-- The groups that are kept and those that list nobody else are all groups. -/
theorem WellFormed.kept_length (wellFormed : store.WellFormed) (username : CString) :
    ((store.head.map (GroupSnapshot.without · username)).filter
        fun group => group.memberNames ≠ []).length + (store.deserted username).length =
      store.head.length := by
  have emptied : store.deserted username = store.head.filter
      fun group => decide ((group.without username).memberNames = []) := by
    refine List.filter_congr fun group listed => ?_
    rw [Bool.eq_iff_iff, decide_eq_true_iff,
      (wellFormed.groups group listed).without_empty_iff username]
    simp
  have apart : ((fun group : GroupSnapshot => decide (group.memberNames ≠ [])) ∘
      (GroupSnapshot.without · username)) =
        fun group => decide ¬ decide ((group.without username).memberNames = []) = true := by
    funext group
    simp
  rw [emptied, List.filter_map, List.length_map, ← List.countP_eq_length_filter,
    ← List.countP_eq_length_filter, Nat.add_comm, apart]
  exact (List.length_eq_countP_add_countP _).symm

/-- A pass either has room for all changes or reports that it has not. -/
theorem removeMemberLoop_result (username : CString) (groups : List GroupSnapshot) (room : Nat) :
    (removeMemberLoop username groups room).result = .ok ∨
      (removeMemberLoop username groups room).result = .errFull := by
  induction groups generalizing room with
  | nil => exact .inl rfl
  | cons group groups ih =>
    rw [removeMemberLoop]
    split
    · exact ih room
    dsimp only
    split
    · exact ih room
    split
    · exact .inr rfl
    · exact ih (room - 1)

/-- A well-formed group has members exactly when its count says so. -/
theorem WellFormed.filter_count (wellFormed : store.WellFormed) (username : CString) :
    (store.head.map (GroupSnapshot.without · username)).filter
        (fun group => decide (group.memberCount ≠ 0)) =
      (store.head.map (GroupSnapshot.without · username)).filter
        fun group => decide (group.memberNames ≠ []) := by
  refine List.filter_congr fun group inside => ?_
  obtain ⟨before, listed, rfl⟩ := List.mem_map.mp inside
  have own := (wellFormed.groups before listed).without username
  rw [Bool.eq_iff_iff, decide_eq_true_iff, decide_eq_true_iff, ne_eq, ne_eq,
    own.memberCount_eq_zero]

/-- The effect of removing a valid user after any calls and with any number of change slots. The
groups without the user are listed in the same order, those that list nobody else are dropped and
counted, and no other group changes. Reported are the first of the changed groups that still have a
member, and `GROUP_ERR_FULL` says that there were more of them than slots. -/
theorem removeMember_effect (reached : store.CallReachable) {username : CString}
    (legal : validMemberName username = true) (maxChanges : Nat) :
    ∃ result changes store',
      groupStoreRemoveMember store username maxChanges = (result, changes, store') ∧
      store'.head = (store.head.map (GroupSnapshot.without · username)).filter
        (fun group => group.memberNames ≠ []) ∧
      (∀ group ∈ store.head, (group.without username).header = group.header ∧
        (group.without username).memberNames = group.memberNames.filter (· ≠ username) ∧
        (username ∉ group.memberNames → group.without username = group)) ∧
      store'.count + (store.deserted username).length = store.count ∧
      store'.nextId = store.nextId ∧
      changes = ((store.affected username).take maxChanges).map
        (fun group => ⟨copyFixed 32 groupEventMemberLeft, group.without username⟩) ∧
      (result = .errFull ↔ maxChanges < (store.affected username).length) ∧
      (result = .ok ∨ result = .errFull) := by
  have wellFormed := CallReachable.wellFormed reached
  obtain ⟨kept, changes, counted, result⟩ :=
    removeMemberLoop_eq username wellFormed.groups wellFormed.inhabited maxChanges
  have reported : survivors username store.head =
      (store.affected username).map (GroupSnapshot.without · username) :=
    survivors_eq wellFormed.groups username
  rw [wellFormed.filter_count] at kept
  rw [reported, ← List.map_take, List.map_map] at changes
  rw [reported, List.length_map] at result
  have dropped := wellFormed.kept_length username
  rw [← kept] at dropped
  have total := wellFormed.counted
  have ends := removeMemberLoop_result username store.head maxChanges
  have done : groupStoreRemoveMember store username maxChanges =
      ((removeMemberLoop username store.head maxChanges).result,
        (removeMemberLoop username store.head maxChanges).changes,
        { store with
          head := (removeMemberLoop username store.head maxChanges).kept
          count := store.count - (removeMemberLoop username store.head maxChanges).dropped }) := by
    rw [groupStoreRemoveMember, if_neg (by simpa using legal)]
  refine ⟨_, _, _, done, kept, fun group listed => ?_, ?_, rfl, changes, ?_, ends⟩
  · have own := wellFormed.groups group listed
    refine ⟨group.without_header username, ?_, own.without_absent⟩
    rw [own.without_memberNames]
    simp
  · dsimp only
    omega
  · rcases ends with ok | full
    · rw [ok] at result ⊢
      have fits := result.mp rfl
      exact iff_of_false (by simp) (Nat.not_lt.mpr fits)
    · rw [full] at result ⊢
      simpa using result

/-- The effect holds in a store with one group more of two users than there are change slots. -/
theorem removeMember_effect_crowded : ∃ result changes store',
    groupStoreRemoveMember crowded (CString.ofString "ann") groupEventMaxChanges =
        (result, changes, store') ∧
      store'.head = (crowded.head.map (GroupSnapshot.without · (CString.ofString "ann"))).filter
        (fun group => group.memberNames ≠ []) ∧ result = .errFull := by
  obtain ⟨result, changes, store', done, head, _, _, _, _, full, _⟩ :=
    removeMember_effect crowded_reachable (show validMemberName (CString.ofString "ann") = true by
      decide) groupEventMaxChanges
  exact ⟨result, changes, store', done, head, full.mpr (by decide +kernel)⟩

end GroupStore

end MultiUserChat
