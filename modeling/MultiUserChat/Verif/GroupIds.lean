import MultiUserChat.Verif.Changes
import MultiUserChat.Verif.Creation
/-!
# The ids of groups

`group_store_create` numbers the groups with a counter of 32 bits that is never compared with the ids
in use. The ids of a run are the texts of consecutive numbers, so they are distinct exactly as long as
the counter has not come round; a group that has been deleted is then never found under its id again.
-/

namespace MultiUserChat

/-- A sequence that repeats after a period, and not before, is distinct up to the period. -/
theorem nodup_map_range_iff {α : Type} {sequence : Nat → α} {period : Nat} (positive : 0 < period)
    (same : ∀ left right, sequence left = sequence right ↔ left % period = right % period)
    (count : Nat) : ((List.range count).map sequence).Nodup ↔ count ≤ period := by
  constructor
  · intro distinct
    by_contra longer
    have repeated : sequence 0 = sequence period := (same 0 period).mpr (by simp)
    have zero : 0 = period := List.inj_on_of_nodup_map distinct (List.mem_range.mpr (by omega))
      (List.mem_range.mpr (by omega)) repeated
    omega
  · intro short
    refine List.Nodup.map_on (fun left before right after equal => ?_) List.nodup_range
    rw [List.mem_range] at before after
    have residue := (same left right).mp equal
    rwa [Nat.mod_eq_of_lt (by omega), Nat.mod_eq_of_lt (by omega)] at residue

/-- Different numbers make different ids. -/
theorem groupIdText_injective : Function.Injective groupIdText := by
  intro left right same
  have bytes := congrArg CString.bytes same
  have digits : decimal 6 left.toNat = decimal 6 right.toNat :=
    CString.ext (List.cons.inj bytes).2
  exact UInt32.toNat_inj.mp (decimal_injective 6 digits)

/-- The number a counter has after some steps. -/
theorem nextId_eq_iff (start : UInt32) (left right : Nat) :
    start + UInt32.ofNat left = start + UInt32.ofNat right ↔ left % 2 ^ 32 = right % 2 ^ 32 := by
  rw [UInt32.add_right_inj, ← UInt32.toNat_inj, UInt32.toNat_ofNat', UInt32.toNat_ofNat']

namespace GroupStore

open GroupSnapshot

variable {store : GroupStore}

/-- The id of the group that a call creates. -/
def createdId (store : GroupStore) : GroupInput → Option CString
  | .create allocated creator name members =>
    match (groupStoreCreate allocated store creator name members).1 with
    | .ok snapshot => some snapshot.id.toCString
    | .error _ => none
  | .remove _ _ => none

/-- The store after some calls. -/
def applyAll (store : GroupStore) (inputs : List GroupInput) : GroupStore :=
  inputs.foldl apply store

/-- The ids of the groups that some calls create, in order. -/
def createdIds (store : GroupStore) : List GroupInput → List CString
  | [] => []
  | input :: inputs => (store.createdId input).toList ++ (store.apply input).createdIds inputs

/-- The ids of the groups that exist. -/
def listedIds (store : GroupStore) : List CString := store.head.map fun group => group.id.toCString

/-- The ids of two sequences of calls follow each other. -/
theorem createdIds_append (store : GroupStore) (front back : List GroupInput) :
    store.createdIds (front ++ back) =
      store.createdIds front ++ (store.applyAll front).createdIds back := by
  induction front generalizing store with
  | nil => rfl
  | cons input front ih =>
    rw [List.cons_append, createdIds, createdIds, ih, List.append_assoc]
    rfl

/-- A call creates the group with the next number and takes the number, or takes none; the ids of the
other groups that exist existed before. -/
theorem apply_ids (wellFormed : store.WellFormed) (input : GroupInput) :
    (store.createdId input = some (groupIdText store.nextId) ∧
        (store.apply input).nextId = store.nextId + 1 ∧
        (store.apply input).listedIds = groupIdText store.nextId :: store.listedIds) ∨
      store.createdId input = none ∧ (store.apply input).nextId = store.nextId ∧
        ((store.apply input).listedIds).Sublist store.listedIds := by
  cases input with
  | create allocated creator name members =>
    obtain ⟨result, refused⟩ | ⟨snapshot, created, done⟩ :=
      create_cases allocated store creator name members
    · simp only [createdId, apply, refused]
      exact .inr ⟨trivial, trivial, List.Sublist.refl _⟩
    · have id : snapshot.id.toCString = groupIdText store.nextId := by
        rw [created.id, groupIdText_copied]
      simp only [createdId, apply, done, listedIds, List.map_cons, id]
      exact .inl ⟨trivial, trivial, trivial⟩
  | remove username maxChanges =>
    refine .inr ⟨rfl, removeMember_nextId store username maxChanges, ?_⟩
    have headers := Roster.depart_headers (fun name => decide (name = username)) store.roster
    rw [← wellFormed.removeMember_roster username maxChanges] at headers
    have ids := headers.map fun header => FixedString.toCString header.1
    simp only [roster, List.map_map] at ids
    exact ids

/-- The ids of a run are the texts of consecutive numbers, and the groups that exist have ids of the
run or existed before. -/
theorem createdIds_eq (wellFormed : store.WellFormed) (inputs : List GroupInput) :
    store.createdIds inputs = (List.range (store.createdIds inputs).length).map
        (fun turn => groupIdText (store.nextId + UInt32.ofNat turn)) ∧
      ((store.applyAll inputs).listedIds).Sublist
        ((store.createdIds inputs).reverse ++ store.listedIds) := by
  induction inputs generalizing store with
  | nil => exact ⟨rfl, List.Sublist.refl _⟩
  | cons input inputs ih =>
    obtain ⟨numbered, listed⟩ := ih (wellFormed.apply input)
    have unfolded : store.applyAll (input :: inputs) = (store.apply input).applyAll inputs := rfl
    rw [createdIds, unfolded]
    obtain ⟨created, next, ids⟩ | ⟨created, next, ids⟩ := apply_ids wellFormed input
    · rw [created, Option.toList_some, List.singleton_append, List.length_cons,
        List.range_succ_eq_map, List.map_cons, List.map_map, List.reverse_cons, List.append_assoc,
        List.singleton_append, ← ids]
      refine ⟨?_, listed⟩
      have first : store.nextId + UInt32.ofNat 0 = store.nextId := UInt32.add_zero _
      rw [first]
      congr 1
      rw [next] at numbered
      refine numbered.trans (List.map_congr_left fun turn _ => ?_)
      rw [Function.comp_apply, Nat.succ_eq_add_one, Nat.add_comm turn 1, UInt32.ofNat_add,
        ← UInt32.add_assoc]
      rfl
    · rw [created, Option.toList_none, List.nil_append]
      rw [next] at numbered
      exact ⟨numbered, listed.trans (List.Sublist.append (List.Sublist.refl _) ids)⟩

/-- The ids of a run are distinct exactly when there are no more of them than the counter has
values. -/
theorem createdIds_nodup_iff (wellFormed : store.WellFormed) (inputs : List GroupInput) :
    (store.createdIds inputs).Nodup ↔ (store.createdIds inputs).length ≤ 2 ^ 32 := by
  conv_lhs => rw [(createdIds_eq wellFormed inputs).1]
  refine nodup_map_range_iff (by decide) (fun left right => ?_) _
  rw [groupIdText_injective.eq_iff, nextId_eq_iff]

/-- What the calls on a new store are to guarantee about ids. -/
structure IdsUnique (inputs : List GroupInput) : Prop where
  /-- Two successful creations return different ids. -/
  distinct : (groupStoreInit.createdIds inputs).Nodup
  /-- At any time at most one group has an id. -/
  single : ∀ front, front <+: inputs → (groupStoreInit.applyAll front).listedIds.Nodup
  /-- When the group that was given an id is gone, no group is found under the id again. -/
  lasting : ∀ front back, inputs = front ++ back →
    ∀ groupId ∈ groupStoreInit.createdIds front,
      (∀ group, groupStoreGetSnapshot (groupStoreInit.applyAll front) groupId ≠ .ok group) →
        ∀ group, groupStoreGetSnapshot (groupStoreInit.applyAll inputs) groupId ≠ .ok group

/-- Calls keep the invariant. -/
theorem WellFormed.applyAll (wellFormed : store.WellFormed) (inputs : List GroupInput) :
    (store.applyAll inputs).WellFormed := by
  induction inputs generalizing store with
  | nil => exact wellFormed
  | cons input inputs ih => exact ih (wellFormed.apply input)

/-- A group is found under an id exactly when some group has it. -/
theorem WellFormed.getSnapshot_iff (wellFormed : store.WellFormed) (groupId : CString) :
    (∃ group, groupStoreGetSnapshot store groupId = .ok group) ↔ groupId ∈ store.listedIds := by
  simp only [wellFormed.getSnapshot_ok, ← Option.isSome_iff_exists, List.find?_isSome, listedIds,
    List.mem_map, decide_eq_true_iff]

/-- Distinct ids are never used for another group. -/
theorem idsUnique_of_nodup {inputs : List GroupInput}
    (distinct : (groupStoreInit.createdIds inputs).Nodup) : IdsUnique inputs where
  distinct := distinct
  single := by
    rintro front ⟨back, rfl⟩
    rw [createdIds_append] at distinct
    have listed := (createdIds_eq wellFormed_init front).2
    rw [show groupStoreInit.listedIds = [] from rfl, List.append_nil] at listed
    exact listed.nodup (List.nodup_reverse.mpr distinct.of_append_left)
  lasting := by
    rintro front back rfl groupId created gone group found
    have middle := wellFormed_init.applyAll front
    have whole : groupStoreInit.applyAll (front ++ back) =
        (groupStoreInit.applyAll front).applyAll back := List.foldl_append
    rw [whole] at found
    have listed := ((middle.applyAll back).getSnapshot_iff groupId).mp ⟨group, found⟩
    rw [createdIds_append] at distinct
    -- The id belongs to a group that existed already or to one created later.
    rcases List.mem_append.mp ((createdIds_eq middle back).2.subset listed) with later | before
    · exact List.disjoint_of_nodup_append distinct created (List.mem_reverse.mp later)
    · obtain ⟨other, there⟩ := (middle.getSnapshot_iff groupId).mpr before
      exact gone other there

/-- The ids of a run on a new store are unique and never reused exactly when at most `2^32` groups
are created. -/
theorem idsUnique_iff (inputs : List GroupInput) :
    IdsUnique inputs ↔ (groupStoreInit.createdIds inputs).length ≤ 2 ^ 32 := by
  rw [← createdIds_nodup_iff wellFormed_init]
  exact ⟨fun unique => unique.distinct, idsUnique_of_nodup⟩

/-- A group of two is created, and then both leave. -/
def comeAndGo : List GroupInput :=
  [.create true (CString.ofString "ann") (CString.ofString "team") [CString.ofString "ben"],
    .remove (CString.ofString "ann") 64, .remove (CString.ofString "ben") 64]

/-- A group of two comes and goes in an empty store, which is left with the next number. -/
theorem comeAndGo_empty (wellFormed : store.WellFormed) (empty : store.head = []) :
    (store.createdIds comeAndGo).length = 1 ∧ (store.applyAll comeAndGo).head = [] := by
  have counted := wellFormed.counted
  obtain ⟨group, accepted⟩ := (create_ok_iff store (CString.ofString "ann") (CString.ofString "team")
    [CString.ofString "ben"]).mpr ⟨by decide, by decide, by decide,
      by decide, by decide, by rw [counted, empty]; decide⟩
  obtain ⟨result, refused⟩ | ⟨snapshot, created, done⟩ :=
    create_cases true store (CString.ofString "ann") (CString.ofString "team") [CString.ofString "ben"]
  · rw [refused] at accepted
    contradiction
  have grown := wellFormed.apply
    (.create true (CString.ofString "ann") (CString.ofString "team") [CString.ofString "ben"])
  constructor
  · simp [comeAndGo, createdIds, createdId, done]
  · have left := grown.removeMember_roster (CString.ofString "ann") 64
    have final := (grown.apply (.remove (CString.ofString "ann") 64)).removeMember_roster
      (CString.ofString "ben") 64
    simp only [apply, done] at left final
    rw [left] at final
    have names : snapshot.memberNames = [CString.ofString "ann", CString.ofString "ben"] := by
      rw [created.memberNames]
      decide
    rw [roster, roster, empty, List.map_singleton, entry, names] at final
    have nobody : Roster.depart (fun name => decide (name = CString.ofString "ben"))
        (Roster.depart (fun name => decide (name = CString.ofString "ann"))
          [(snapshot.header, [CString.ofString "ann", CString.ofString "ben"])]) = [] := by
      simp [Roster.depart]
    rw [nobody, List.map_eq_nil_iff] at final
    simpa only [applyAll, comeAndGo, List.foldl_cons, List.foldl_nil, apply, done, empty] using final

/-- When groups of two come and go, each turn uses a number. -/
theorem createdIds_comeAndGo (wellFormed : store.WellFormed) (empty : store.head = [])
    (turns : Nat) : (store.createdIds (List.replicate turns comeAndGo).flatten).length = turns := by
  induction turns generalizing store with
  | zero => rfl
  | succ turns ih =>
    obtain ⟨one, left⟩ := comeAndGo_empty wellFormed empty
    rw [List.replicate_succ, List.flatten_cons, createdIds_append, List.length_append, one,
      ih (wellFormed.applyAll comeAndGo) left, Nat.add_comm]

/-- When a group of two has come and gone once more than the counter has values, an id has been used
twice. -/
theorem idsUnique_comeAndGo : ¬ ∀ inputs, IdsUnique inputs := by
  intro claim
  have distinct := (claim (List.replicate (2 ^ 32 + 1) comeAndGo).flatten).distinct
  rw [createdIds_nodup_iff wellFormed_init, createdIds_comeAndGo wellFormed_init rfl] at distinct
  omega

end GroupStore

end MultiUserChat
