import MultiUserChat.Verif.Digests
import MultiUserChat.Verif.Stores
import MultiUserChat.Verif.UserStore
/-!
# Runs of the user store

A store is loaded once from its storage file and then serves calls. Every such run keeps
`UserStore.WellFormed`, from which the two chains are seen to pass through the same records, each
once, and a bucket lookup to be a scan of the list. The calls themselves are characterised here by
what they do to the records: a login by the password test it makes, a registration by the record it
adds and by when it adds one without saying so.
-/

namespace MultiUserChat

/-- A store and the bytes of its storage file. -/
structure StoredAccounts where
  /-- The records in memory. -/
  store : UserStore
  /-- The file at `storage_path`. -/
  file : List UInt8

/-- A call on a loaded store, with what the environment contributes to it. -/
inductive AccountCall
  /-- `user_store_register` -/
  | register (outcome : RegisterOutcome) (username password : CString)
  /-- `user_store_login` -/
  | login (digested : Bool) (username password : CString) (socketFd : Int)
  /-- `user_store_logout` -/
  | logout (username : CString)
  /-- `user_store_logout_fd` -/
  | logoutFd (socketFd : Int)

namespace AccountCall

/-- The result of a call, and the store and file after it. -/
def perform [Sha256] (call : AccountCall) (accounts : StoredAccounts) :
    UserResult × StoredAccounts :=
  match call with
  | register outcome username password =>
    let (result, store, file) :=
      userStoreRegister outcome accounts.store accounts.file username password
    (result, ⟨store, file⟩)
  | login digested username password socketFd =>
    let (result, store) := userStoreLogin digested accounts.store username password socketFd
    (result, ⟨store, accounts.file⟩)
  | logout username =>
    let (result, store) := userStoreLogout accounts.store username
    (result, ⟨store, accounts.file⟩)
  | logoutFd socketFd =>
    let (result, store) := userStoreLogoutFd accounts.store socketFd
    (result, ⟨store, accounts.file⟩)

/-- The store and file after a sequence of calls. -/
def performAll [Sha256] (calls : List AccountCall) (accounts : StoredAccounts) : StoredAccounts :=
  calls.foldl (fun accounts call => (call.perform accounts).2) accounts

end AccountCall

/-- The store and file after `user_store_init` and one `user_store_load`. -/
def loadedAccounts (opened : Bool) (allocated : Nat → Bool) (file : List UInt8) : StoredAccounts :=
  ⟨(userStoreLoad opened allocated file userStoreInit).2, file⟩

/-! ## What every run keeps -/

namespace UserStore

variable {store : UserStore}

/-- A store just initialised and loaded is well formed and nobody in it is online. -/
theorem wellFormed_load (opened : Bool) (allocated : Nat → Bool) (file : List UInt8) :
    (userStoreLoad opened allocated file userStoreInit).2.WellFormed ∧
      ∀ user ∈ (userStoreLoad opened allocated file userStoreInit).2.users, user.online = false := by
  have nobody : ∀ user ∈ userStoreInit.users, user.online = false := by
    intro user member
    simp [userStoreInit, users, chain] at member
  cases opened with
  | false => exact ⟨wellFormed_init, nobody⟩
  | true => exact wellFormed_init.loadLines nobody allocated file.length file

/-- Logging out a name takes the user with the name offline, if there is one. -/
theorem WellFormed.logout (wellFormed : store.WellFormed) (username : CString) :
    (userStoreLogout store username).2.WellFormed ∧
      (userStoreLogout store username).2.users = change username User.offline store.users := by
  have unchanged : (∀ user ∈ store.users, user.username.toCString ≠ username) →
      store.users = change username User.offline store.users := by
    intro absent
    conv_lhs => rw [← List.map_id store.users]
    refine List.map_congr_left fun user member => ?_
    rw [if_neg (absent user member), id]
  unfold userStoreLogout
  split
  · rename_i illegal
    refine ⟨wellFormed, unchanged fun user member same => ?_⟩
    have valid := wellFormed.valid user (wellFormed.mem_users.mp member)
    rw [same] at valid
    simp [valid] at illegal
  split
  · rename_i missing
    exact ⟨wellFormed, unchanged ((wellFormed.find_none username).mp missing)⟩
  · rename_i address found
    obtain ⟨user, present, named, _⟩ := wellFormed.find_some found
    refine ⟨wellFormed.update (fun _ => rfl) (fun _ _ => rfl), ?_⟩
    rw [← named]
    exact wellFormed.users_update present User.offline

end UserStore

namespace AccountCall

variable [Sha256] {accounts : StoredAccounts}

/-- A call keeps the invariant of the store. -/
theorem perform_wellFormed (call : AccountCall) (wellFormed : accounts.store.WellFormed) :
    (call.perform accounts).2.store.WellFormed := by
  cases call with
  | register outcome username password =>
    rcases wellFormed.register outcome accounts.file username password with same | ⟨kept, _⟩
    · exact (congrArg UserStore.WellFormed same).mpr wellFormed
    · exact kept
  | login digested username password socketFd =>
    rcases wellFormed.login digested username password socketFd with ⟨_, same⟩ | ⟨_, kept, _⟩
    · exact (congrArg UserStore.WellFormed same).mpr wellFormed
    · exact kept
  | logout username => exact (wellFormed.logout username).1
  | logoutFd socketFd => exact (wellFormed.logoutFd socketFd).1

/-- A sequence of calls keeps the invariant of the store. -/
theorem performAll_wellFormed (calls : List AccountCall) (wellFormed : accounts.store.WellFormed) :
    (performAll calls accounts).store.WellFormed := by
  induction calls generalizing accounts with
  | nil => exact wellFormed
  | cons call calls ih => exact ih (call.perform_wellFormed wellFormed)

end AccountCall

/-! ## The two chains -/

/-- The list and the buckets pass through the same records, and a bucket lookup is a linear scan. -/
structure UserStore.Chained (store : UserStore) : Prop where
  /-- The list passes through no address twice. -/
  listedOnce : store.head.Nodup
  /-- Each address on the list is that of a record. -/
  allocated : ∀ address ∈ store.head, ∃ user, store.nodes[address]? = some user
  /-- A bucket passes through no address twice. -/
  bucketedOnce : ∀ bucket, (store.buckets bucket).Nodup
  /-- A bucket holds exactly the listed records whose names hash to it. -/
  bucketed : ∀ bucket address, address ∈ store.buckets bucket ↔
    ∃ user, (address, user) ∈ store.chain ∧ hashUsername user.username.toCString = bucket
  /-- No two records have the same name. -/
  distinct : (store.users.map fun user => user.username.toCString).Nodup
  /-- Every name is valid. -/
  valid : ∀ user ∈ store.users, validUsername user.username.toCString = true
  /-- For every string the bucket lookup finds the record a scan of the list finds, or neither
  finds one. -/
  lookup : ∀ username, findUserLocked store username =
    (store.chain.find? fun node => node.2.username.toCString = username).map Prod.fst

namespace UserStore

variable {store : UserStore}

/-- What is met on the list is a record at its address. -/
theorem mem_chain {address : Nat} {user : User} :
    (address, user) ∈ store.chain ↔ address ∈ store.head ∧ store.nodes[address]? = some user := by
  simp only [chain, List.mem_filterMap, Option.map_eq_some_iff, Prod.mk.injEq]
  constructor
  · rintro ⟨_, listed, _, present, rfl, rfl⟩
    exact ⟨listed, present⟩
  · rintro ⟨listed, present⟩
    exact ⟨address, listed, user, present, rfl, rfl⟩

/-- The bucket lookup is a scan of the list. -/
theorem WellFormed.lookup (wellFormed : store.WellFormed) (username : CString) :
    findUserLocked store username =
      (store.chain.find? fun node => node.2.username.toCString = username).map Prod.fst := by
  cases found : findUserLocked store username with
  | none =>
    have absent := (wellFormed.find_none username).mp found
    rw [eq_comm, Option.map_eq_none_iff, List.find?_eq_none]
    intro node member
    simpa using absent node.2 (List.mem_map_of_mem member)
  | some address =>
    obtain ⟨user, present, named, listed⟩ := wellFormed.find_some found
    cases scanned : store.chain.find? fun node => node.2.username.toCString = username with
    | none =>
      obtain ⟨node, member, rfl⟩ := List.mem_map.mp listed
      simpa [named] using List.find?_eq_none.mp scanned node member
    | some node =>
      -- Both are records with the wanted name, and names determine addresses.
      have at_ := find?_chain_some (fun user => decide (user.username.toCString = username)) scanned
      have same : node.2.username.toCString = username := by simpa using List.find?_some scanned
      obtain ⟨inside, _⟩ := List.getElem?_eq_some_iff.mp present
      have left : (store.nodes.map fun user => user.username.toCString)[address]? =
          some username := by simp [present, named]
      have right : (store.nodes.map fun user => user.username.toCString)[node.1]? =
          some username := by simp [at_, same]
      have equal := (List.getElem?_inj (by simpa using inside) wellFormed.distinct).mp
        (left.trans right.symm)
      rw [Option.map_some, equal]

/-- The invariant says that the chains agree. -/
theorem WellFormed.chained (wellFormed : store.WellFormed) : store.Chained where
  listedOnce := by
    rw [wellFormed.listed, List.nodup_reverse]
    exact List.nodup_range
  allocated := by
    intro address listed
    rw [wellFormed.listed, List.mem_reverse, List.mem_range] at listed
    exact ⟨store.nodes[address], List.getElem?_eq_getElem listed⟩
  bucketedOnce := by
    intro bucket
    rw [wellFormed.bucketed, wellFormed.listed]
    exact (List.nodup_reverse.mpr List.nodup_range).filter _
  bucketed := by
    intro bucket address
    rw [wellFormed.bucketed, List.mem_filter, Option.any_eq_true]
    simp only [mem_chain, decide_eq_true_eq, and_assoc, exists_and_left]
  distinct := wellFormed.users_distinct
  valid := fun user member => wellFormed.valid user (wellFormed.mem_users.mp member)
  lookup := wellFormed.lookup

end UserStore

/-- In every run the list and the buckets pass through the same records, each once and in the
bucket of its name, names are distinct and valid, and a bucket lookup is a scan of the list. -/
theorem accounts_chained [Sha256] (opened : Bool) (allocated : Nat → Bool) (file : List UInt8)
    (calls : List AccountCall) :
    (AccountCall.performAll calls (loadedAccounts opened allocated file)).store.Chained :=
  (AccountCall.performAll_wellFormed calls
    (UserStore.wellFormed_load opened allocated file).1).chained

/-! ## Registration -/

/-- A registration passes its checks and draws this salt, so that it adds a record. -/
structure Enters (outcome : RegisterOutcome) (store : UserStore) (username password : CString)
    (salt : List.Vector UInt8 saltBytes) : Prop where
  /-- The name is legal. -/
  legalName : validUsername username = true
  /-- The password is legal. -/
  legalPassword : validPassword password = true
  /-- The random source delivers the salt. -/
  random : outcome.random = some salt
  /-- The digest is computed. -/
  digested : outcome.digested = true
  /-- The name is free. -/
  fresh : findUserLocked store username = none
  /-- The record is allocated. -/
  allocated : outcome.allocated = true

/-- The record a registration adds. -/
def registeredUser [Sha256] (username password : CString) (salt : List.Vector UInt8 saltBytes) :
    User :=
  createUser username (bytesToHex salt.toList) (saltedDigest salt.toList password)

section

variable [Sha256] {outcome : RegisterOutcome} {store : UserStore} {file : List UInt8}
  {username password : CString} {salt : List.Vector UInt8 saltBytes}

/-- A registration that enters inserts its record and returns what the append returns. -/
theorem Enters.register (enters : Enters outcome store username password salt)
    (file : List UInt8) :
    ∃ inserted, insertUserLocked store (registeredUser username password salt) = some inserted ∧
      userStoreRegister outcome store file username password =
        ((appendUserRecord outcome.appended file (registeredUser username password salt)).1,
          inserted,
          (appendUserRecord outcome.appended file (registeredUser username password salt)).2) := by
  have named : (registeredUser username password salt).username.toCString = username :=
    UserStore.createUser_username enters.legalName
  cases done : insertUserLocked store (registeredUser username password salt) with
  | none =>
    rw [insertUserLocked, named, enters.fresh] at done
    simp at done
  | some inserted =>
    refine ⟨inserted, rfl, ?_⟩
    have record : createUser username (bytesToHex salt.toList) (saltedDigest salt.toList password) =
        registeredUser username password salt := rfl
    simp [userStoreRegister, enters.legalName, enters.legalPassword, generateSaltHex, enters.random,
      hashPassword_generated, enters.digested, enters.fresh, enters.allocated, record, done]

/-- A registration that does not enter is refused and changes nothing. -/
theorem register_refused (refused : ∀ salt, ¬ Enters outcome store username password salt)
    (file : List UInt8) :
    ∃ result, result ≠ .ok ∧
      userStoreRegister outcome store file username password = (result, store, file) := by
  unfold userStoreRegister
  split
  · exact ⟨_, by simp, rfl⟩
  rename_i legal
  simp only [Bool.or_eq_true, Bool.not_eq_true', not_or, Bool.not_eq_false] at legal
  cases random : outcome.random with
  | none => exact ⟨.errIo, by simp, rfl⟩
  | some salt =>
    simp only [generateSaltHex, Option.map_some, hashPassword_generated]
    split
    · exact ⟨_, by simp, rfl⟩
    rename_i hash hashed
    have digested : outcome.digested = true := by
      by_contra failed
      simp [failed] at hashed
    split
    · exact ⟨_, by simp, rfl⟩
    rename_i fresh
    split
    · exact ⟨_, by simp, rfl⟩
    · rename_i allocated
      exact absurd ⟨legal.1, legal.2, random, digested, by simpa using fresh, by simpa using allocated⟩
        (refused salt)

omit [Sha256] in
/-- An inserted record is the last one allocated. -/
theorem insertUserLocked_nodes {user : User} {inserted : UserStore}
    (done : insertUserLocked store user = some inserted) :
    inserted.nodes = store.nodes ++ [user] := by
  unfold insertUserLocked at done
  split at done
  · contradiction
  · exact (congrArg UserStore.nodes (Option.some.inj done)).symm

/-- The record of a registration whose append fails is in memory all the same. -/
theorem Enters.lingers (enters : Enters outcome store username password salt)
    (failed : outcome.appended ≠ .completed) (file : List UInt8) :
    (userStoreRegister outcome store file username password).1 = .errIo ∧
      (userStoreRegister outcome store file username password).2.1.nodes =
        store.nodes ++ [registeredUser username password salt] := by
  obtain ⟨inserted, done, ran⟩ := enters.register file
  rw [ran]
  refine ⟨?_, insertUserLocked_nodes done⟩
  cases fate : outcome.appended with
  | openFailed => rfl
  | writeFailed written => rfl
  | closeFailed written => rfl
  | completed => exact absurd fate failed

/-- A registration that does not return `USER_OK` leaves the store as it was, unless it entered and
its append failed; and in that case it does not. -/
theorem register_traceless_iff (outcome : RegisterOutcome) (store : UserStore) (file : List UInt8)
    (username password : CString) :
    ((userStoreRegister outcome store file username password).1 ≠ .ok →
        (userStoreRegister outcome store file username password).2.1 = store) ↔
      ¬ ((∃ salt, Enters outcome store username password salt) ∧
        outcome.appended ≠ .completed) := by
  constructor
  · rintro traceless ⟨⟨salt, enters⟩, failed⟩
    obtain ⟨result, added⟩ := enters.lingers failed file
    rw [traceless (by simp [result])] at added
    simp at added
  · intro spared refused
    by_cases entered : ∃ salt, Enters outcome store username password salt
    · obtain ⟨salt, enters⟩ := entered
      have appended : outcome.appended = .completed := by
        by_contra failed
        exact spared ⟨⟨salt, enters⟩, failed⟩
      obtain ⟨_, _, ran⟩ := enters.register file
      rw [ran, appended] at refused
      exact absurd rfl refused
    · obtain ⟨result, _, ran⟩ := register_refused (not_exists.mp entered) file
      rw [ran]

end

section

attribute [local instance] sampleDigest

/-- Everything about a registration succeeds but the opening of the storage file. -/
def unwritten : RegisterOutcome := { (sampleOutcome true).registration with appended := .openFailed }

/-- A registration whose file cannot be opened is answered by an error and adds its record. -/
theorem register_unwritten : ¬ ∀ [Sha256] (opened : Bool) (allocated : Nat → Bool)
    (file : List UInt8) (calls : List AccountCall) (outcome : RegisterOutcome)
    (username password : CString),
    let accounts := AccountCall.performAll calls (loadedAccounts opened allocated file)
    (userStoreRegister outcome accounts.store accounts.file username password).1 ≠ .ok →
      (userStoreRegister outcome accounts.store accounts.file username password).2.1 =
        accounts.store := by
  intro claim
  have same := claim true (fun _ => true) [] [] unwritten (CString.ofString "alice") samplePassword
    (by decide +kernel)
  have sizes := congrArg (fun store : UserStore => store.nodes.length) same
  revert sizes
  decide +kernel

end

/-! ## Login -/

/-- The password is the one stored: the salt is 32 hexadecimal digits of either case, and the text of
the digest of the bytes they denote, followed by the password, is the stored one. -/
def User.opensWith [Sha256] (user : User) (password : CString) : Prop :=
  ∃ salt : List UInt8, salt.length = saltBytes ∧ user.salt.bytes.map lowerDigit = hexText salt ∧
    saltedDigest salt password = user.passwordHash.toCString

section

variable [Sha256] {store : UserStore}

/-- The record a registration adds is opened by its password. -/
theorem registeredUser_opensWith (username password : CString)
    (salt : List.Vector UInt8 saltBytes) :
    (registeredUser username password salt).opensWith password := by
  have saltFits : (bytesToHex salt.toList).length < saltHexLen + 1 := by
    change (hexText salt.toList).length < saltHexLen + 1
    rw [hexText_length, salt.toList_length]
    decide
  have hashFits : (saltedDigest salt.toList password).length < passwordHashHexLen + 1 := by
    rw [saltedDigest_length]
    decide
  refine ⟨salt.toList, salt.toList_length, ?_, (copyFixed_toCString hashFits).symm⟩
  change ((copyFixed (saltHexLen + 1) (bytesToHex salt.toList)).toCString.bytes).map lowerDigit = _
  rw [copyFixed_toCString saltFits]
  exact lowerDigit_hexText salt.toList

/-- A login is accepted exactly when both strings are legal and the user with the name is offline and
opened by the password. -/
theorem UserStore.WellFormed.login_ok (wellFormed : store.WellFormed) (digested : Bool)
    (username password : CString) (socketFd : Int) :
    (userStoreLogin digested store username password socketFd).1 = .ok ↔
      digested = true ∧ validUsername username = true ∧ validPassword password = true ∧
        ∃ user ∈ store.users, user.username.toCString = username ∧ user.online = false ∧
          user.opensWith password := by
  constructor
  · intro accepted
    rcases wellFormed.login digested username password socketFd with
      ⟨refused, _⟩ | ⟨_, _, ⟨user, member, named, offline, legal, verified⟩, _⟩
    · exact absurd accepted refused
    · obtain ⟨computed, opens⟩ := (verifyPassword_iff _ _ _ _).mp verified
      refine ⟨computed, ?_, legal, user, member, named, offline, opens⟩
      exact named ▸ wellFormed.valid user (wellFormed.mem_users.mp member)
  · rintro ⟨computed, legalName, legalPassword, user, member, named, offline, opens⟩
    have verified := (verifyPassword_iff digested password user.salt.toCString
      user.passwordHash.toCString).mpr ⟨computed, opens⟩
    cases found : findUserLocked store username with
    | none => exact absurd named ((wellFormed.find_none username).mp found user member)
    | some address =>
      obtain ⟨other, present, named', member'⟩ := wellFormed.find_some found
      obtain rfl := wellFormed.unique member' member (named'.trans named.symm)
      simp [userStoreLogin, legalName, legalPassword, found, present, verified, offline]

/-- An accepted login changes the two fields of the one record with the name; a refused one changes
nothing. -/
theorem UserStore.WellFormed.login_effect (wellFormed : store.WellFormed) (digested : Bool)
    (username password : CString) (socketFd : Int) :
    (userStoreLogin digested store username password socketFd).2 =
      if (userStoreLogin digested store username password socketFd).1 = .ok then
        { store with nodes := change username (loggedIn socketFd) store.nodes }
      else store := by
  unfold userStoreLogin
  split
  · rfl
  split
  · rfl
  rename_i address found
  obtain ⟨user, present, named, _⟩ := wellFormed.find_some found
  simp only [present]
  split
  · rfl
  split
  · rfl
  · rw [if_pos rfl, ← named]
    have nodes := modify_eq_map (fun user : User => user.username.toCString) (loggedIn socketFd)
      wellFormed.distinct present
    exact congrArg (fun nodes => { store with nodes }) nodes

/-- What the storage file keeps of a user. -/
def User.record (user : User) :
    FixedString usernameMaxLen × FixedString (saltHexLen + 1) ×
      FixedString (passwordHashHexLen + 1) :=
  (user.username, user.salt, user.passwordHash)

/-- Being opened by a password depends on the record. -/
theorem User.opensWith_congr {user other : User} (same : user.record = other.record)
    (password : CString) : user.opensWith password ↔ other.opensWith password := by
  simp only [User.record, Prod.mk.injEq] at same
  rw [User.opensWith, User.opensWith, same.2.1, same.2.2]

omit [Sha256] in
/-- Changes outside the records leave them as they are. -/
theorem map_record_change (edit : User → User) (keeps : ∀ user, (edit user).record = user.record)
    (username : CString) (users : List User) :
    (UserStore.change username edit users).map User.record = users.map User.record := by
  rw [UserStore.change, List.map_map]
  refine List.map_congr_left fun user _ => ?_
  rw [Function.comp_apply]
  split
  · exact keeps user
  · rfl

/-- Whether a call is a registration. -/
def AccountCall.registers : AccountCall → Bool
  | register .. => true
  | _ => false

/-- A call that is no registration keeps the records and the file. -/
theorem AccountCall.perform_records_eq {accounts : StoredAccounts} (call : AccountCall)
    (wellFormed : accounts.store.WellFormed) (plain : call.registers = false) :
    (call.perform accounts).2.store.users.map User.record =
        accounts.store.users.map User.record ∧ (call.perform accounts).2.file = accounts.file := by
  cases call with
  | register outcome username password => simp [registers] at plain
  | login digested username password socketFd =>
    refine ⟨?_, rfl⟩
    change (userStoreLogin digested accounts.store username password
      socketFd).2.users.map User.record = _
    rcases wellFormed.login digested username password socketFd with ⟨_, same⟩ | ⟨_, _, _, listed⟩
    · rw [same]
    · rw [listed, map_record_change (UserStore.loggedIn socketFd) (fun _ => rfl)]
  | logout username =>
    refine ⟨?_, rfl⟩
    change (userStoreLogout accounts.store username).2.users.map User.record = _
    rw [(wellFormed.logout username).2, map_record_change User.offline (fun _ => rfl)]
  | logoutFd socketFd =>
    refine ⟨?_, rfl⟩
    change (userStoreLogoutFd accounts.store socketFd).2.users.map User.record = _
    rw [(wellFormed.logoutFd socketFd).2]
    split
    · rfl
    · rw [map_record_change User.offline (fun _ => rfl)]

/-- A call keeps the records and their order; it may add one in front. -/
theorem AccountCall.perform_records {accounts : StoredAccounts} (call : AccountCall)
    (wellFormed : accounts.store.WellFormed) :
    accounts.store.users.map User.record <:+
      (call.perform accounts).2.store.users.map User.record := by
  cases plain : call.registers with
  | false => rw [(call.perform_records_eq wellFormed plain).1]
  | true =>
    cases call with
    | register outcome username password =>
      change _ <:+ (userStoreRegister outcome accounts.store accounts.file username
        password).2.1.users.map User.record
      rcases wellFormed.register outcome accounts.file username password with
        same | ⟨_, user, _, _, _, _, _, listed⟩
      · rw [same]
      · rw [listed, List.map_cons]
        exact List.suffix_cons _ _
    | login => simp [registers] at plain
    | logout => simp [registers] at plain
    | logoutFd => simp [registers] at plain

/-- A run keeps the records and their order; it adds new ones in front. -/
theorem AccountCall.performAll_records {accounts : StoredAccounts} (calls : List AccountCall)
    (wellFormed : accounts.store.WellFormed) :
    accounts.store.users.map User.record <:+
      (performAll calls accounts).store.users.map User.record := by
  induction calls generalizing accounts with
  | nil => exact List.suffix_rfl
  | cons call calls ih =>
    exact (call.perform_records wellFormed).trans (ih (call.perform_wellFormed wellFormed))

/-- The password of a registration that returned `USER_OK` opens its user ever after. -/
theorem AccountCall.registered_opensWith {accounts : StoredAccounts}
    (wellFormed : accounts.store.WellFormed) {outcome : RegisterOutcome}
    {username password : CString}
    (acknowledged : ((register outcome username password).perform accounts).1 = .ok)
    (later : List AccountCall) :
    validUsername username = true ∧ validPassword password = true ∧
      ∃ user ∈ (performAll (register outcome username password :: later) accounts).store.users,
        user.username.toCString = username ∧ user.opensWith password := by
  change (userStoreRegister outcome accounts.store accounts.file username password).1 = .ok
    at acknowledged
  by_cases entered : ∃ salt, Enters outcome accounts.store username password salt
  · obtain ⟨salt, enters⟩ := entered
    obtain ⟨inserted, done, ran⟩ := enters.register accounts.file
    have named : (registeredUser username password salt).username.toCString = username :=
      UserStore.createUser_username enters.legalName
    obtain ⟨kept, listed⟩ := wellFormed.insert (by rw [named]; exact enters.legalName)
      (fun _ => rfl) done
    have first : ((register outcome username password).perform accounts).2.store = inserted := by
      change (userStoreRegister outcome accounts.store accounts.file username password).2.1 = _
      rw [ran]
    have suffix := performAll_records later
      ((register outcome username password).perform_wellFormed wellFormed)
    rw [first, listed, List.map_cons] at suffix
    obtain ⟨user, member, same⟩ := List.mem_map.mp (suffix.subset List.mem_cons_self)
    refine ⟨enters.legalName, enters.legalPassword, user, member, ?_, ?_⟩
    · rw [← named]
      exact congrArg (fun record => record.1.toCString) same
    · exact (User.opensWith_congr same password).mpr (registeredUser_opensWith _ _ _)
  · obtain ⟨result, refused, ran⟩ := register_refused (not_exists.mp entered) accounts.file
    rw [ran] at acknowledged
    exact absurd acknowledged refused

end

/-- In every run a login is accepted exactly when both strings are legal and the user is offline and
opened by the password; it changes the two fields of that user and nothing when it is refused. The
password of an acknowledged registration is accepted whenever the user is offline. -/
theorem accounts_login [Sha256] (opened : Bool) (allocated : Nat → Bool) (file : List UInt8)
    (calls : List AccountCall) (username password : CString) (socketFd : Int) :
    let accounts := AccountCall.performAll calls (loadedAccounts opened allocated file)
    (∀ digested,
      ((userStoreLogin digested accounts.store username password socketFd).1 = .ok ↔
        digested = true ∧ validUsername username = true ∧ validPassword password = true ∧
          ∃ user ∈ accounts.store.users, user.username.toCString = username ∧
            user.online = false ∧ user.opensWith password) ∧
      (userStoreLogin digested accounts.store username password socketFd).2 =
        if (userStoreLogin digested accounts.store username password socketFd).1 = .ok then
          { accounts.store with
            nodes := UserStore.change username (UserStore.loggedIn socketFd) accounts.store.nodes }
        else accounts.store) ∧
    ∀ outcome later,
      ((AccountCall.register outcome username password).perform accounts).1 = .ok →
      let after := AccountCall.performAll (.register outcome username password :: later) accounts
      (∀ user ∈ after.store.users, user.username.toCString = username → user.online = false) →
        (userStoreLogin true after.store username password socketFd).1 = .ok := by
  intro accounts
  have wellFormed : accounts.store.WellFormed := AccountCall.performAll_wellFormed calls
    (UserStore.wellFormed_load opened allocated file).1
  refine ⟨fun digested => ⟨wellFormed.login_ok digested username password socketFd,
    wellFormed.login_effect digested username password socketFd⟩, ?_⟩
  intro outcome later acknowledged after offline
  obtain ⟨legalName, legalPassword, user, member, named, opens⟩ :=
    AccountCall.registered_opensWith wellFormed acknowledged later
  exact ((AccountCall.performAll_wellFormed _ wellFormed).login_ok true username password
    socketFd).mpr ⟨rfl, legalName, legalPassword, user, member, named, offline user member named, opens⟩

end MultiUserChat
