import MultiUserChat.Common.User
import MultiUserChat.Library.Lists
/-!
# The user store as a list of accounts

The two chains of the store are views of one set of records. Under `UserStore.WellFormed`, which
every operation keeps, a bucket lookup is a search of the linear scan order, and an assignment
through a record's address is a change of the one account with its name. The rest of the development
reads the store only through `UserStore.users` and the equations proved here.
-/

namespace MultiUserChat

/-- The invariant of the records and of the two chains through them. -/
structure UserStore.WellFormed (store : UserStore) : Prop where
  /-- The list runs over all records, the newest first. -/
  listed : store.head = (List.range store.nodes.length).reverse
  /-- A bucket holds the listed records that hash to it. -/
  bucketed : ∀ bucket, store.buckets bucket = store.head.filter fun address =>
    store.nodes[address]?.any fun user => hashUsername user.username.toCString = bucket
  /-- No two records have the same name. -/
  distinct : (store.nodes.map fun user => user.username.toCString).Nodup
  /-- Every name is valid. -/
  valid : ∀ user ∈ store.nodes, validUsername user.username.toCString = true
  /-- A user that is offline has no descriptor. -/
  detached : ∀ user ∈ store.nodes, user.online = false → user.socketFd = -1

namespace UserStore

variable {store : UserStore}

/-- The scan order is the order of the chain. -/
theorem users_eq_filterMap (store : UserStore) :
    store.users = store.head.filterMap (store.nodes[·]?) := by
  unfold users chain
  rw [List.map_filterMap]
  congr 1
  funext address
  cases store.nodes[address]? <;> rfl

/-- The scan visits every record once, the newest first. -/
theorem WellFormed.users_eq (wellFormed : store.WellFormed) : store.users = store.nodes.reverse := by
  rw [users_eq_filterMap, wellFormed.listed, List.filterMap_reverse, filterMap_getElem?_range]

/-- Membership in the scan is membership among the records. -/
theorem WellFormed.mem_users (wellFormed : store.WellFormed) {user : User} :
    user ∈ store.users ↔ user ∈ store.nodes := by
  rw [wellFormed.users_eq, List.mem_reverse]

/-- The names met by the scan are distinct. -/
theorem WellFormed.users_distinct (wellFormed : store.WellFormed) :
    (store.users.map fun user => user.username.toCString).Nodup := by
  rw [wellFormed.users_eq, List.map_reverse, List.nodup_reverse]
  exact wellFormed.distinct

/-- Users met by the scan are determined by their names. -/
theorem WellFormed.unique (wellFormed : store.WellFormed) {left right : User}
    (leftIn : left ∈ store.users) (rightIn : right ∈ store.users)
    (same : left.username.toCString = right.username.toCString) : left = right :=
  List.inj_on_of_nodup_map wellFormed.users_distinct leftIn rightIn same

/-- A search of the chain finds the address of the record that a search of the scan finds. -/
theorem find?_chain (store : UserStore) (test : User → Bool) :
    (store.chain.find? fun node => test node.2).map Prod.snd = store.users.find? test := by
  rw [users, List.find?_map]
  rfl

/-- What a search of the chain finds is a record at its address. -/
theorem find?_chain_some (test : User → Bool) {node : Nat × User}
    (found : (store.chain.find? fun node => test node.2) = some node) :
    store.nodes[node.1]? = some node.2 := by
  have member := List.mem_of_find?_eq_some found
  simp only [chain, List.mem_filterMap, Option.map_eq_some_iff] at member
  obtain ⟨address, _, user, present, rfl⟩ := member
  exact present

/-- The bucket lookup is a search of the whole scan. -/
theorem WellFormed.find_eq (wellFormed : store.WellFormed) (username : CString) :
    (findUserLocked store username).bind (store.nodes[·]?) =
      store.users.find? fun user => user.username.toCString = username := by
  by_cases legal : validUsername username
  · have inBucket : findUserLocked store username =
        store.head.find? (hasUsername store username) := by
      rw [findUserLocked, if_pos legal, wellFormed.bucketed, List.find?_filter]
      -- A record with the wanted name hashes to the bucket that is searched.
      congr 1
      funext address
      cases entry : store.nodes[address]? with
      | none => simp [hasUsername, entry]
      | some user =>
        by_cases same : user.username.toCString = username <;> simp [hasUsername, entry, same]
    rw [inBucket, users_eq_filterMap, List.find?_filterMap]
    congr 1
  · have absent : ∀ user ∈ store.users, ¬ user.username.toCString = username := by
      intro user member same
      exact legal (same ▸ wellFormed.valid user (wellFormed.mem_users.mp member))
    rw [findUserLocked, if_neg legal, Option.bind_none, eq_comm, List.find?_eq_none]
    simpa using absent

/-- The bucket lookup returns the address of the user with the name. -/
theorem WellFormed.find_some (wellFormed : store.WellFormed) {username : CString} {address : Nat}
    (found : findUserLocked store username = some address) :
    ∃ user, store.nodes[address]? = some user ∧ user.username.toCString = username ∧
      user ∈ store.users := by
  unfold findUserLocked at found
  split at found
  · have holds := List.find?_some found
    simp only [hasUsername, Option.any_eq_true, decide_eq_true_eq] at holds
    obtain ⟨user, present, same⟩ := holds
    exact ⟨user, present, same, wellFormed.mem_users.mpr (List.mem_of_getElem? present)⟩
  · contradiction

/-- The bucket lookup fails exactly when no user has the name. -/
theorem WellFormed.find_none (wellFormed : store.WellFormed) (username : CString) :
    findUserLocked store username = none ↔
      ∀ user ∈ store.users, user.username.toCString ≠ username := by
  constructor
  · intro missing
    have searched := wellFormed.find_eq username
    rw [missing] at searched
    simpa using List.find?_eq_none.mp searched.symm
  · intro absent
    cases found : findUserLocked store username with
    | none => rfl
    | some address =>
      obtain ⟨user, _, same, member⟩ := wellFormed.find_some found
      exact absurd same (absent user member)

/-! ## Changing one record -/

/-- Change the account with a name. -/
def change (username : CString) (edit : User → User) (users : List User) : List User :=
  users.map fun user => if user.username.toCString = username then edit user else user

/-- Assigning through the address of a record changes the account with its name. -/
theorem WellFormed.users_update (wellFormed : store.WellFormed) {address : Nat} {user : User}
    (present : store.nodes[address]? = some user) (edit : User → User) :
    (store.update address edit).users = change user.username.toCString edit store.users := by
  have nodes : store.nodes.modify address edit =
      change user.username.toCString edit store.nodes :=
    modify_eq_map (fun user : User => user.username.toCString) edit wellFormed.distinct present
  have unlisted : (store.update address edit).users =
      (store.nodes.modify address edit).reverse := by
    rw [users_eq_filterMap]
    change store.head.filterMap ((store.nodes.modify address edit)[·]?) = _
    rw [wellFormed.listed, List.filterMap_reverse, ← List.length_modify edit store.nodes address,
      filterMap_getElem?_range]
  rw [unlisted, nodes, wellFormed.users_eq, change, change, List.map_reverse]

/-- An assignment that keeps names, and detaches a user it takes offline, keeps the invariant. -/
theorem WellFormed.update (wellFormed : store.WellFormed) {address : Nat} {edit : User → User}
    (name : ∀ user, (edit user).username = user.username)
    (detach : ∀ user, (edit user).online = false → (edit user).socketFd = -1) :
    (store.update address edit).WellFormed := by
  have entry : ∀ position, (store.nodes.modify address edit)[position]? =
      store.nodes[position]?.map fun user => if address = position then edit user else user := by
    intro position
    rw [List.getElem?_modify]
    by_cases same : address = position <;> simp [same]
  have named : ∀ (position : Nat) (test : CString → Bool),
      ((store.nodes.modify address edit)[position]?.any fun user => test user.username.toCString) =
        store.nodes[position]?.any fun user => test user.username.toCString := by
    intro position test
    rw [entry]
    cases store.nodes[position]? with
    | none => rfl
    | some user => by_cases same : address = position <;> simp [same, name]
  have member : ∀ user ∈ store.nodes.modify address edit,
      ∃ original ∈ store.nodes, user = original ∨ user = edit original := by
    intro user inside
    obtain ⟨position, at_⟩ := List.mem_iff_getElem?.mp inside
    rw [entry, Option.map_eq_some_iff] at at_
    obtain ⟨original, present, rfl⟩ := at_
    refine ⟨original, List.mem_of_getElem? present, ?_⟩
    by_cases same : address = position <;> simp [same]
  constructor
  · change store.head = (List.range (store.nodes.modify address edit).length).reverse
    rw [List.length_modify, wellFormed.listed]
  · intro bucket
    change store.buckets bucket = store.head.filter fun position =>
      (store.nodes.modify address edit)[position]?.any fun user =>
        hashUsername user.username.toCString = bucket
    rw [wellFormed.bucketed]
    congr 1
    funext position
    exact (named position fun username => hashUsername username = bucket).symm
  · have names : ((store.nodes.modify address edit).map fun user => user.username.toCString) =
        store.nodes.map fun user => user.username.toCString := by
      apply List.ext_getElem?
      intro position
      rw [List.getElem?_map, List.getElem?_map, entry]
      cases store.nodes[position]? with
      | none => rfl
      | some user => by_cases same : address = position <;> simp [same, name]
    change ((store.nodes.modify address edit).map fun user => user.username.toCString).Nodup
    rw [names]
    exact wellFormed.distinct
  · intro user inside
    obtain ⟨original, old, rfl | rfl⟩ := member user inside
    · exact wellFormed.valid _ old
    · rw [name]
      exact wellFormed.valid _ old
  · intro user inside
    obtain ⟨original, old, rfl | rfl⟩ := member user inside
    · exact wellFormed.detached _ old
    · exact detach original

/-- Inserting a new valid account puts it in front of the scan and keeps the invariant. -/
theorem WellFormed.insert (wellFormed : store.WellFormed) {user : User} {inserted : UserStore}
    (valid : validUsername user.username.toCString = true)
    (detached : user.online = false → user.socketFd = -1)
    (done : insertUserLocked store user = some inserted) :
    inserted.WellFormed ∧ inserted.users = user :: store.users := by
  unfold insertUserLocked at done
  split at done
  · contradiction
  rename_i fresh
  have absent := (wellFormed.find_none user.username.toCString).mp (by simpa using fresh)
  obtain rfl := Option.some.inj done
  have appended : ∀ position ∈ store.head,
      (store.nodes ++ [user])[position]? = store.nodes[position]? := by
    intro position inside
    rw [wellFormed.listed, List.mem_reverse, List.mem_range] at inside
    exact List.getElem?_append_left inside
  have kept : ∀ test : User → Bool,
      (store.head.filter fun address => (store.nodes ++ [user])[address]?.any test) =
        store.head.filter fun address => store.nodes[address]?.any test := by
    intro test
    apply List.filter_congr
    intro position inside
    rw [appended position inside]
  have inserted : UserStore.WellFormed
      { nodes := store.nodes ++ [user]
        head := store.nodes.length :: store.head
        buckets := Function.update store.buckets (hashUsername user.username.toCString)
          (store.nodes.length :: store.buckets (hashUsername user.username.toCString)) } := by
    constructor
    · simp only [List.length_append, List.length_singleton, List.range_succ, List.reverse_append,
        List.reverse_singleton, List.singleton_append, wellFormed.listed]
    · intro bucket
      have last : (store.nodes ++ [user])[store.nodes.length]? = some user := by simp
      by_cases own : bucket = hashUsername user.username.toCString
      · subst own
        simp only [Function.update_self, List.filter_cons, last, Option.any_some, decide_true,
          ↓reduceIte, List.cons.injEq, true_and]
        rw [kept, wellFormed.bucketed]
      · have other : hashUsername user.username.toCString ≠ bucket := fun same => own same.symm
        simp only [Function.update_of_ne own, List.filter_cons, last, Option.any_some, other,
          decide_false, Bool.false_eq_true, ↓reduceIte]
        rw [kept, wellFormed.bucketed]
    · simp only [List.map_append, List.map_cons, List.map_nil]
      rw [List.nodup_append_comm, List.singleton_append, List.nodup_cons]
      refine ⟨?_, wellFormed.distinct⟩
      intro present
      obtain ⟨other, inside, same⟩ := List.mem_map.mp present
      exact absent other (wellFormed.mem_users.mpr inside) same
    · intro other inside
      rcases List.mem_append.mp inside with old | new
      · exact wellFormed.valid _ old
      · simp only [List.mem_singleton] at new
        exact new ▸ valid
    · intro other inside
      rcases List.mem_append.mp inside with old | new
      · exact wellFormed.detached _ old
      · simp only [List.mem_singleton] at new
        exact new ▸ detached
  refine ⟨inserted, ?_⟩
  rw [inserted.users_eq, wellFormed.users_eq]
  simp

/-- The empty store is well formed. -/
theorem wellFormed_init : userStoreInit.WellFormed := by
  constructor <;> simp [userStoreInit]

/-! ## The operations -/

/-- A copied valid name is the name. -/
theorem createUser_username {username salt hash : CString} (valid : validUsername username = true) :
    (createUser username salt hash).username.toCString = username := by
  simp only [validUsername, Bool.and_eq_true, decide_eq_true_eq] at valid
  exact copyFixed_toCString valid.1.1.2

/-- One line of the storage file adds at most one account, which is offline. -/
theorem WellFormed.loadLine (wellFormed : store.WellFormed) (line : List UInt8) (allocated : Bool) :
    (loadLine store line allocated).WellFormed ∧
      ((loadLine store line allocated).users = store.users ∨
        ∃ user, user.online = false ∧ (loadLine store line allocated).users = user :: store.users) := by
  unfold MultiUserChat.loadLine
  split
  · exact ⟨wellFormed, .inl rfl⟩
  split
  · exact ⟨wellFormed, .inl rfl⟩
  · rename_i username salt hash _ accepted
    simp only [Bool.or_eq_true, Bool.not_eq_true', not_or, Bool.not_eq_false] at accepted
    have valid : validUsername (createUser username salt hash).username.toCString = true := by
      rw [createUser_username accepted.1.1.1.1]
      exact accepted.1.1.1.1
    cases done : insertUserLocked store (createUser username salt hash) with
    | none => exact ⟨wellFormed, .inl rfl⟩
    | some inserted =>
      obtain ⟨kept, listed⟩ := wellFormed.insert valid (fun _ => rfl) done
      exact ⟨kept, .inr ⟨_, rfl, listed⟩⟩

/-- A loaded store is well formed and nobody in it is online. -/
theorem WellFormed.loadLines (wellFormed : store.WellFormed)
    (offline : ∀ user ∈ store.users, user.online = false) (allocated : Nat → Bool) (turns : Nat)
    (file : List UInt8) :
    (loadLines allocated turns store file).WellFormed ∧
      ∀ user ∈ (loadLines allocated turns store file).users, user.online = false := by
  induction turns generalizing store file with
  | zero => exact ⟨wellFormed, offline⟩
  | succ turns ih =>
    cases file with
    | nil => exact ⟨wellFormed, offline⟩
    | cons byte file =>
      obtain ⟨kept, same | ⟨added, detached, listed⟩⟩ :=
        wellFormed.loadLine (fgets 511 (byte :: file)).1 (allocated turns)
      · exact ih kept (same ▸ offline) _
      · refine ih kept ?_ _
        rw [listed]
        exact List.forall_mem_cons.mpr ⟨detached, offline⟩

/-- Registration leaves the store alone or adds one offline account with a fresh valid name. -/
theorem WellFormed.register [Sha256] (wellFormed : store.WellFormed) (outcome : RegisterOutcome)
    (file : List UInt8) (username password : CString) :
    (userStoreRegister outcome store file username password).2.1 = store ∨
      (userStoreRegister outcome store file username password).2.1.WellFormed ∧
        ∃ user, user.online = false ∧ user.socketFd = -1 ∧
          user.username.toCString = username ∧ validUsername username = true ∧
          (∀ other ∈ store.users, other.username.toCString ≠ username) ∧
          (userStoreRegister outcome store file username password).2.1.users =
            user :: store.users := by
  unfold userStoreRegister
  split
  · exact .inl rfl
  rename_i legal
  split
  · exact .inl rfl
  rename_i salt _
  split
  · exact .inl rfl
  rename_i hash _
  split
  · exact .inl rfl
  rename_i fresh
  split
  · exact .inl rfl
  simp only
  split
  · exact .inl rfl
  rename_i inserted done
  simp only [Bool.or_eq_true, Bool.not_eq_true', not_or, Bool.not_eq_false] at legal
  have named : (createUser username salt hash).username.toCString = username :=
    createUser_username legal.1
  obtain ⟨kept, listed⟩ := wellFormed.insert (by rw [named]; exact legal.1) (fun _ => rfl) done
  refine .inr ⟨kept, _, rfl, rfl, named, legal.1, ?_, listed⟩
  exact (wellFormed.find_none username).mp (by simpa using fresh)

/-- The account after a login. -/
def loggedIn (socketFd : Int) (user : User) : User :=
  { user with online := true, socketFd := socketFd }

/-- A login is refused and changes nothing, or sets the two fields of an offline account. -/
theorem WellFormed.login [Sha256] (wellFormed : store.WellFormed) (digested : Bool)
    (username password : CString) (socketFd : Int) :
    (userStoreLogin digested store username password socketFd).1 ≠ .ok ∧
        (userStoreLogin digested store username password socketFd).2 = store ∨
      (userStoreLogin digested store username password socketFd).1 = .ok ∧
        (userStoreLogin digested store username password socketFd).2.WellFormed ∧
        (∃ user ∈ store.users, user.username.toCString = username ∧ user.online = false ∧
          validPassword password = true ∧ verifyPassword digested password user.salt.toCString
            user.passwordHash.toCString = true) ∧
        (userStoreLogin digested store username password socketFd).2.users =
          change username (loggedIn socketFd) store.users := by
  unfold userStoreLogin
  split
  · exact .inl ⟨by simp, rfl⟩
  rename_i legal
  simp only [Bool.or_eq_true, Bool.not_eq_true', not_or, Bool.not_eq_false] at legal
  split
  · exact .inl ⟨by simp, rfl⟩
  rename_i address found
  obtain ⟨user, present, named, listed⟩ := wellFormed.find_some found
  simp only [present]
  split
  · exact .inl ⟨by simp, rfl⟩
  rename_i verified
  split
  · exact .inl ⟨by simp, rfl⟩
  · rename_i offline
    refine .inr ⟨rfl, wellFormed.update (fun _ => rfl) (fun user => ?_),
      ⟨user, listed, named, by simpa using offline, legal.2, by simpa using verified⟩, ?_⟩
    · simp
    · rw [← named]
      exact wellFormed.users_update present (loggedIn socketFd)

/-- Logging out a descriptor takes the first user on it offline, if there is one. -/
theorem WellFormed.logoutFd (wellFormed : store.WellFormed) (socketFd : Int) :
    (userStoreLogoutFd store socketFd).2.WellFormed ∧
      (userStoreLogoutFd store socketFd).2.users =
        match store.users.find? fun user => user.onlineAt socketFd with
        | none => store.users
        | some user => change user.username.toCString User.offline store.users := by
  rw [← find?_chain]
  unfold userStoreLogoutFd
  cases found : store.chain.find? fun node => node.2.onlineAt socketFd with
  | none => exact ⟨wellFormed, rfl⟩
  | some node =>
    exact ⟨wellFormed.update (fun _ => rfl) (fun _ _ => rfl),
      wellFormed.users_update
        (find?_chain_some (fun user => user.onlineAt socketFd) found) User.offline⟩

/-- A descriptor is returned exactly for a user that is online. -/
theorem WellFormed.getFd_ok (wellFormed : store.WellFormed) {username : CString} {fd : Int} :
    userStoreGetFd store username = .ok fd ↔
      ∃ user ∈ store.users, user.username.toCString = username ∧ user.online = true ∧
        user.socketFd = fd := by
  unfold userStoreGetFd
  rw [wellFormed.find_eq]
  constructor
  · intro answer
    split at answer
    · contradiction
    split at answer
    · contradiction
    rename_i user found
    split at answer
    · rename_i online
      refine ⟨user, List.mem_of_find?_eq_some found, ?_, online, Except.ok.inj answer⟩
      simpa using List.find?_some found
    · contradiction
  · rintro ⟨user, member, rfl, online, rfl⟩
    have valid := wellFormed.valid user (wellFormed.mem_users.mp member)
    have found : store.users.find? (fun other => other.username.toCString = user.username.toCString) =
        some user := by
      cases search : store.users.find?
          fun other => other.username.toCString = user.username.toCString with
      | none => simpa using List.find?_eq_none.mp search user member
      | some other =>
        have same := List.find?_some search
        rw [wellFormed.unique (List.mem_of_find?_eq_some search) member (by simpa using same)]
    simp [valid, found, online]

end UserStore

end MultiUserChat
