import MultiUserChat.Verif.RecordLines
import MultiUserChat.Verif.Stores
/-!
# Restarts

A run whose writes to the storage file succeed appends one line for each record it adds to the store. A
store loaded afresh from the file then holds the records of the run if the file was empty before, and
otherwise all of them as long as the tail of the old file does no harm to the first line.
-/

namespace MultiUserChat

section

variable [Sha256]

namespace AccountCall

/-- A registration writes its whole record if it comes to that. -/
def written : AccountCall → Bool
  | register outcome _ _ => outcome.appended = .completed
  | _ => true

/-- The results of a sequence of calls. -/
def results : List AccountCall → StoredAccounts → List UserResult
  | [], _ => []
  | call :: calls, accounts => (call.perform accounts).1 :: results calls (call.perform accounts).2

/-- The record of the user whose registration returns `USER_OK`. -/
def acknowledges (call : AccountCall) (accounts : StoredAccounts) : List User :=
  match call with
  | register _ username _ =>
    if (call.perform accounts).1 = .ok then
      (call.perform accounts).2.store.users.filter (UserStore.hasName username)
    else []
  | _ => []

/-- The records of the users whose registrations return `USER_OK`, in the order of the calls. -/
def acknowledged : List AccountCall → StoredAccounts → List User
  | [], _ => []
  | call :: calls, accounts =>
    call.acknowledges accounts ++ acknowledged calls (call.perform accounts).2

end AccountCall

/-- What a call with its writes adds to the records, to the file, and to what was acknowledged. -/
structure Adds (before after : StoredAccounts) (added : List User) : Prop where
  /-- The lines of what is added can be read back. -/
  storable : ∀ user ∈ added, Storable user
  /-- The file grows by the lines. -/
  file : after.file = before.file ++ added.flatMap recordLine
  /-- The store grows by the records. -/
  records : after.store.nodes.map User.record =
    before.store.nodes.map User.record ++ added.map User.record

namespace AccountCall

variable {accounts : StoredAccounts}

omit [Sha256] in
/-- The records in the order of the nodes are those of the scan in reverse. -/
theorem nodes_record {store : UserStore} (wellFormed : store.WellFormed) :
    store.nodes.map User.record = (store.users.map User.record).reverse := by
  rw [wellFormed.users_eq, List.map_reverse, List.reverse_reverse]

/-- A call adds exactly the record it acknowledges. -/
theorem perform_adds (call : AccountCall) (wellFormed : accounts.store.WellFormed)
    (written : call.written = true) :
    Adds accounts (call.perform accounts).2 (call.acknowledges accounts) := by
  have kept := call.perform_wellFormed wellFormed
  cases plain : call.registers with
  | false =>
    obtain ⟨records, file⟩ := call.perform_records_eq wellFormed plain
    have nothing : call.acknowledges accounts = [] := by
      cases call with
      | register => simp [registers] at plain
      | login => rfl
      | logout => rfl
      | logoutFd => rfl
    rw [nothing]
    exact ⟨by simp, by simp [file], by simp [nodes_record kept, nodes_record wellFormed, records]⟩
  | true =>
    cases call with
    | register outcome username password =>
      have appended : outcome.appended = .completed := of_decide_eq_true written
      by_cases entered : ∃ salt, Enters outcome accounts.store username password salt
      · obtain ⟨salt, enters⟩ := entered
        obtain ⟨inserted, done, ran⟩ := enters.register accounts.file
        rw [appended] at ran
        generalize added : registeredUser username password salt = user at done ran
        have named : user.username.toCString = username :=
          added ▸ UserStore.createUser_username enters.legalName
        have same : (register outcome username password).perform accounts =
            (.ok, ⟨inserted, accounts.file ++ recordLine user⟩) := by
          simp [perform, ran, appendUserRecord]
        have fresh := (wellFormed.find_none username).mp enters.fresh
        obtain ⟨_, listed⟩ := wellFormed.insert (by rw [named]; exact enters.legalName)
          (fun _ => added ▸ rfl) done
        have one : (register outcome username password).acknowledges accounts = [user] := by
          have others : accounts.store.users.filter (UserStore.hasName username) = [] := by
            rw [List.filter_eq_nil_iff]
            exact fun other member => by simpa [UserStore.hasName] using fresh other member
          simp [acknowledges, same, listed, others, UserStore.hasName, named]
        rw [one, same]
        refine ⟨?_, by simp, by simp [insertUserLocked_nodes done]⟩
        simpa [← added] using registeredUser_storable enters.legalName password salt
      · obtain ⟨result, refused, ran⟩ := register_refused (not_exists.mp entered) accounts.file
        have same : (register outcome username password).perform accounts = (result, accounts) := by
          simp [perform, ran]
        have nothing : (register outcome username password).acknowledges accounts = [] := by
          simp [acknowledges, same, refused]
        rw [nothing, same]
        exact ⟨by simp, by simp, by simp⟩
    | login => simp [registers] at plain
    | logout => simp [registers] at plain
    | logoutFd => simp [registers] at plain

/-- A run adds exactly the records it acknowledges. -/
theorem performAll_adds (calls : List AccountCall) (wellFormed : accounts.store.WellFormed)
    (written : ∀ call ∈ calls, call.written = true) :
    Adds accounts (performAll calls accounts) (acknowledged calls accounts) := by
  induction calls generalizing accounts with
  | nil => exact ⟨by simp [acknowledged], by simp [acknowledged, performAll], by
      simp [acknowledged, performAll]⟩
  | cons call calls ih =>
    obtain ⟨first, rest⟩ := List.forall_mem_cons.mp written
    obtain ⟨storable, file, records⟩ := call.perform_adds wellFormed first
    obtain ⟨storable', file', records'⟩ := ih (call.perform_wellFormed wellFormed) rest
    refine ⟨?_, ?_, ?_⟩
    · exact List.forall_mem_append.mpr ⟨storable, storable'⟩
    · rw [acknowledged, List.flatMap_append, ← List.append_assoc, ← file]
      exact file'
    · rw [acknowledged, List.map_append, ← List.append_assoc, ← records]
      exact records'

end AccountCall

/-! ## A file that was empty -/

/-- Logging every user out, one call each. -/
def logoutAll (accounts : StoredAccounts) : StoredAccounts :=
  AccountCall.performAll
    (accounts.store.users.map fun user => .logout user.username.toCString) accounts

/-- Logging names out takes their users offline and keeps the records and the file. -/
theorem performAll_logout {accounts : StoredAccounts} (wellFormed : accounts.store.WellFormed)
    (names : List CString) :
    (AccountCall.performAll (names.map .logout) accounts).store.WellFormed ∧
      (AccountCall.performAll (names.map .logout) accounts).file = accounts.file ∧
      (AccountCall.performAll (names.map .logout) accounts).store.users =
        accounts.store.users.map fun user =>
          if user.username.toCString ∈ names then user.offline else user := by
  induction names generalizing accounts with
  | nil => exact ⟨wellFormed, rfl, by simp [AccountCall.performAll]⟩
  | cons name names ih =>
    obtain ⟨_, listed⟩ := wellFormed.logout name
    obtain ⟨finally_, file, users⟩ :=
      ih ((AccountCall.logout name).perform_wellFormed wellFormed)
    refine ⟨finally_, file, users.trans ?_⟩
    change ((userStoreLogout accounts.store name).2.users.map fun user => _) = _
    rw [listed, UserStore.change, List.map_map]
    refine List.map_congr_left fun user _ => ?_
    by_cases this_ : user.username.toCString = name
    · by_cases later : user.username.toCString ∈ names <;> simp [this_, User.offline]
    · simp [this_]

omit [Sha256] in
/-- Users that are offline are determined by their records. -/
theorem eq_of_records {users others : List User}
    (offline : ∀ user ∈ users, user.online = false ∧ user.socketFd = -1)
    (offline' : ∀ user ∈ others, user.online = false ∧ user.socketFd = -1)
    (same : users.map User.record = others.map User.record) : users = others := by
  induction users generalizing others with
  | nil => exact (List.map_eq_nil_iff.mp same.symm).symm
  | cons user users ih =>
    cases others with
    | nil => simp at same
    | cons other others =>
      obtain ⟨first, rest⟩ := List.forall_mem_cons.mp offline
      obtain ⟨first', rest'⟩ := List.forall_mem_cons.mp offline'
      simp only [List.map_cons, List.cons.injEq, User.record, Prod.mk.injEq] at same
      obtain ⟨⟨name, salt, hash⟩, more⟩ := same
      rw [ih rest rest' more]
      obtain ⟨username, salt', hash', fd, online⟩ := user
      obtain ⟨username', salt'', hash'', fd', online'⟩ := other
      simp only at name salt hash first first'
      rw [name, salt, hash, first.1, first.2, first'.1, first'.2]

omit [Sha256] in
/-- Lines are read as the records they were written for. -/
theorem readRecord_lines {records : List User} (storable : ∀ user ∈ records, Storable user) :
    (∀ user ∈ (records.map recordLine).filterMap readRecord, UserStore.Admissible user) ∧
      ((records.map recordLine).filterMap readRecord).map User.record =
        records.map User.record := by
  constructor
  · intro user member
    obtain ⟨line, _, read⟩ := List.mem_filterMap.mp member
    obtain ⟨valid, offline, detached⟩ := readRecord_some read
    exact ⟨valid, offline, detached⟩
  · induction records with
    | nil => rfl
    | cons user records ih =>
      obtain ⟨first, rest⟩ := List.forall_mem_cons.mp storable
      obtain ⟨found, read, same⟩ := Option.map_eq_some_iff.mp first.readRecord_line
      rw [List.map_cons, List.filterMap_cons_some read, List.map_cons, ih rest, same, List.map_cons]

omit [Sha256] in
/-- Names are part of the records. -/
theorem map_name_eq {users others : List User}
    (same : users.map User.record = others.map User.record) :
    (users.map fun user => user.username.toCString) =
      others.map fun user => user.username.toCString := by
  have names := congrArg (List.map fun record => record.1.toCString) same
  rwa [List.map_map, List.map_map] at names

omit [Sha256] in
/-- A fresh store has no users. -/
theorem users_init : userStoreInit.users = [] := by
  simp [userStoreInit, UserStore.users, UserStore.chain]

omit [Sha256] in
/-- Loading lines written for records with distinct names gives these records, offline. -/
theorem load_lines {records : List User} (storable : ∀ user ∈ records, Storable user)
    (distinct : (records.map fun user => user.username.toCString).Nodup) :
    ∃ store : UserStore, userStoreLoad true (fun _ => true) (records.flatMap recordLine)
        userStoreInit = (.ok, store) ∧
      store.WellFormed ∧ store.users.map User.record = (records.map User.record).reverse ∧
      ∀ user ∈ store.users, user.online = false ∧ user.socketFd = -1 := by
  obtain ⟨admissible, read⟩ := readRecord_lines storable
  rw [userStoreLoad_eq, pieces_lines storable]
  generalize (records.map recordLine).filterMap readRecord = loaded at admissible read
  rw [← map_name_eq read] at distinct
  obtain ⟨formed, users⟩ := UserStore.wellFormed_init.insertRecords_fresh admissible
    (by simpa [users_init] using distinct)
  rw [users_init, List.append_nil] at users
  refine ⟨_, rfl, formed, ?_, fun user member => ?_⟩
  · rw [users, List.map_reverse, read]
  · rw [users, List.mem_reverse] at member
    exact ⟨(admissible user member).offline, (admissible user member).detached⟩

/-- Logging everybody out keeps the records and the file and leaves nobody online. -/
theorem logoutAll_spec {accounts : StoredAccounts} (wellFormed : accounts.store.WellFormed) :
    (logoutAll accounts).store.WellFormed ∧ (logoutAll accounts).file = accounts.file ∧
      (logoutAll accounts).store.users.map User.record = accounts.store.users.map User.record ∧
      ∀ user ∈ (logoutAll accounts).store.users, user.online = false ∧ user.socketFd = -1 := by
  obtain ⟨formed, file, users⟩ := performAll_logout wellFormed
    (accounts.store.users.map fun user => user.username.toCString)
  rw [List.map_map] at formed file users
  have everyone : (logoutAll accounts).store.users = accounts.store.users.map User.offline := by
    refine users.trans (List.map_congr_left fun user member => ?_)
    exact if_pos (List.mem_map_of_mem member)
  refine ⟨formed, file, ?_, fun user member => ?_⟩
  · rw [everyone, List.map_map]
    rfl
  · rw [everyone] at member
    obtain ⟨_, _, rfl⟩ := List.mem_map.mp member
    exact ⟨rfl, rfl⟩

/-- Loading the file of a run that began with an empty one gives the store of the run with everybody
logged out: the same records, each once, in the same chains, and the same results ever after. -/
theorem restart_equivalent (allocated : Nat → Bool) (calls : List AccountCall)
    (written : ∀ call ∈ calls, call.written = true) :
    let accounts := AccountCall.performAll calls (loadedAccounts true allocated [])
    let reloaded := userStoreLoad true (fun _ => true) accounts.file userStoreInit
    reloaded.1 = .ok ∧
      reloaded.2.users.map User.record = accounts.store.users.map User.record ∧
      (reloaded.2.users.map User.record).Nodup ∧
      (∀ user ∈ reloaded.2.users, user.online = false) ∧
      (⟨reloaded.2, accounts.file⟩ : StoredAccounts) = logoutAll accounts ∧
      ∀ later, AccountCall.results later ⟨reloaded.2, accounts.file⟩ =
        AccountCall.results later (logoutAll accounts) := by
  intro accounts reloaded
  have start : (loadedAccounts true allocated []).store.WellFormed :=
    (UserStore.wellFormed_load true allocated []).1
  have wellFormed : accounts.store.WellFormed := AccountCall.performAll_wellFormed calls start
  obtain ⟨storable, file, records⟩ := AccountCall.performAll_adds calls start written
  generalize AccountCall.acknowledged calls (loadedAccounts true allocated []) = added
    at storable file records
  replace file : accounts.file = added.flatMap recordLine := file
  replace records : accounts.store.nodes.map User.record = added.map User.record := records
  obtain ⟨store, load, formed, read, offline⟩ := load_lines storable
    (by rw [← map_name_eq records]; exact wellFormed.distinct)
  have loaded : reloaded = (.ok, store) := by
    rw [← load, ← file]
  have same : store.users.map User.record = accounts.store.users.map User.record := by
    rw [read, ← records, wellFormed.users_eq, List.map_reverse]
  obtain ⟨formed', file', same', offline'⟩ := logoutAll_spec wellFormed
  -- Both stores are well formed and hold the same offline users.
  have users : store.users = (logoutAll accounts).store.users :=
    eq_of_records offline offline' (same.trans same'.symm)
  have nodes : store.nodes = (logoutAll accounts).store.nodes := by
    rw [formed.users_eq, formed'.users_eq] at users
    exact List.reverse_injective users
  have equal : (⟨store, accounts.file⟩ : StoredAccounts) = logoutAll accounts := by
    rw [formed.eq_of_nodes formed' nodes, ← file']
  rw [loaded]
  refine ⟨rfl, same, ?_, fun user member => (offline user member).1, equal, fun later => ?_⟩
  · have names := formed.users_distinct
    refine List.Nodup.of_map (fun record => record.1.toCString) ?_
    rwa [List.map_map]
  · rw [equal]

end

section

attribute [local instance] sampleDigest

/-- A registration of the sample password in which everything succeeds. -/
def enrol (name : CString) : AccountCall :=
  .register (sampleOutcome true).registration name samplePassword

/-- Two registrations, one of them twice, and a restart. -/
theorem restart_equivalent_couple :
    let accounts := AccountCall.performAll [enrol (CString.ofString "ann"),
      enrol (CString.ofString "ben"), enrol (CString.ofString "ann")]
      (loadedAccounts true (fun _ => true) [])
    (⟨(userStoreLoad true (fun _ => true) accounts.file userStoreInit).2, accounts.file⟩ :
      StoredAccounts) = logoutAll accounts :=
  (restart_equivalent (fun _ => true) [enrol (CString.ofString "ann"),
    enrol (CString.ofString "ben"), enrol (CString.ofString "ann")] (by decide)).2.2.2.2.1

end

/-! ## A file with a torn tail -/

/-- The tail of a file in front of the first line written after it does no harm: it is colons that leave
room for the line, or by coincidence already holds the name, the salt and what is missing of the
hash; and if the line is cut in its name, nobody with another salt or hash is later registered
under what is left of the name. -/
def TailHarmless (tail : List UInt8) (first : User) (later : List User) : Prop :=
  ((∀ byte ∈ tail, byte = 58) ∧
      tail.length + first.username.bytes.length + 98 ≤ lineMax ∨
    0 ∉ tail ∧ tail.getLast? ≠ some 58 ∧ ∃ piece,
      tokens isDelimiter tail = [first.username.bytes, first.salt.bytes, piece] ∧
        piece ++ first.username.bytes.take (lineMax - tail.length) = first.passwordHash.bytes) ∧
  ∀ other ∈ later, other.username.bytes = first.username.bytes.drop (lineMax - tail.length) →
    other.salt = first.salt ∧ other.passwordHash = first.passwordHash

namespace UserStore

/-- A record is in the store exactly when its name is found and has it. -/
theorem WellFormed.exists_record {store : UserStore} (wellFormed : store.WellFormed) (user : User) :
    (∃ found ∈ store.users, found.record = user.record) ↔
      (store.users.find? (hasName user.username.toCString)).map User.record = some user.record := by
  have name : ∀ {found : User}, found.record = user.record →
      hasName user.username.toCString found = true := by
    intro found same
    exact decide_eq_true (congrArg (fun record => record.1.toCString) same)
  constructor
  · rintro ⟨found, member, same⟩
    cases search : store.users.find? (hasName user.username.toCString) with
    | none => exact absurd (name same) (by simpa using List.find?_eq_none.mp search found member)
    | some other =>
      have named : hasName user.username.toCString other = true := List.find?_some search
      have alike : other.username.toCString = found.username.toCString :=
        (of_decide_eq_true named).trans (of_decide_eq_true (name same)).symm
      rw [wellFormed.unique (List.mem_of_find?_eq_some search) member alike]
      exact congrArg some same
  · intro search
    obtain ⟨found, search, same⟩ := Option.map_eq_some_iff.mp search
    exact ⟨found, List.mem_of_find?_eq_some search, same⟩

/-- A loaded store finds each name at the first record read from the file. -/
theorem find?_load (file : List UInt8) (username : CString) :
    (userStoreLoad true (fun _ => true) file userStoreInit).2.users.find? (hasName username) =
      ((pieces file).filterMap readRecord).find? (hasName username) := by
  have admissible : ∀ user ∈ (pieces file).filterMap readRecord, Admissible user := by
    intro user member
    obtain ⟨piece, _, read⟩ := List.mem_filterMap.mp member
    obtain ⟨valid, offline, detached⟩ := readRecord_some read
    exact ⟨valid, offline, detached⟩
  rw [userStoreLoad_eq, (wellFormed_init.insertRecords admissible).2, users_init]
  rfl

end UserStore

/-- A record in front of a search is found if it has the name. -/
theorem find?_toList_append (first : Option User) (rest : List User) (test : User → Bool) :
    (first.toList ++ rest).find? test = (first.filter test).or (rest.find? test) := by
  cases first with
  | none => rfl
  | some user => cases holds : test user <;> simp [holds, Option.filter]

/-- A user with the same name as another has the name of the other. -/
theorem hasName_iff {user other : User} :
    UserStore.hasName user.username.toCString other = true ↔ other.username = user.username := by
  rw [UserStore.hasName, decide_eq_true_eq]
  exact ⟨FixedString.ext, congrArg _⟩

/-- Lists with the same records find the same record under a name. -/
theorem find?_congr {users others : List User}
    (same : users.map User.record = others.map User.record) (username : CString) :
    (users.find? (UserStore.hasName username)).map User.record =
      (others.find? (UserStore.hasName username)).map User.record := by
  have search : ∀ list : List User,
      (list.find? (UserStore.hasName username)).map User.record =
        (list.map User.record).find? fun record => decide (record.1.toCString = username) := by
    intro list
    rw [List.find?_map]
    rfl
  rw [search, search, same]

/-- Among users with distinct names each is found under its name. -/
theorem find?_own {users : List User}
    (distinct : (users.map fun user => user.username.toCString).Nodup) {user : User}
    (member : user ∈ users) :
    users.find? (UserStore.hasName user.username.toCString) = some user := by
  cases search : users.find? (UserStore.hasName user.username.toCString) with
  | none =>
    exact absurd (hasName_iff.mpr rfl) (by simpa using List.find?_eq_none.mp search user member)
  | some other =>
    have named := hasName_iff.mp (List.find?_some search)
    rw [List.inj_on_of_nodup_map distinct (List.mem_of_find?_eq_some search) member
      (congrArg _ named)]

/-- Records are found behind what is read from the line of the first and what is left of that line
exactly when the line is read as the first record and what is left of it does not take a later
name for another record. -/
theorem found_iff {first : User} {later read : List User} {glued left : Option User}
    (same : read.map User.record = later.map User.record)
    (distinct : ((first :: later).map fun user => user.username.toCString).Nodup)
    (leftName : ∀ user, left = some user → user.username ≠ first.username) :
    (∀ user ∈ first :: later, ((glued.toList ++ (left.toList ++ read)).find?
        (UserStore.hasName user.username.toCString)).map User.record = some user.record) ↔
      glued.map User.record = some first.record ∧
        ∀ user ∈ later, ∀ other, left = some other → other.username = user.username →
          other.record = user.record := by
  rw [List.map_cons, List.nodup_cons] at distinct
  obtain ⟨other_, distinct⟩ := distinct
  have firstNew : later.find? (UserStore.hasName first.username.toCString) = none := by
    rw [List.find?_eq_none]
    intro user member named
    exact other_ (List.mem_map.mpr ⟨user, member, congrArg _ (hasName_iff.mp named)⟩)
  have laterNew : ∀ user ∈ later, user.username ≠ first.username := by
    intro user member equal
    exact other_ (List.mem_map.mpr ⟨user, member, congrArg _ equal⟩)
  have atFirst : ((glued.toList ++ (left.toList ++ read)).find?
        (UserStore.hasName first.username.toCString)).map User.record =
      (glued.filter (UserStore.hasName first.username.toCString)).map User.record := by
    have skipped : left.filter (UserStore.hasName first.username.toCString) = none := by
      rw [Option.filter_eq_none_iff]
      exact fun user found named => leftName user found (hasName_iff.mp named)
    rw [find?_toList_append, find?_toList_append, skipped, Option.none_or, Option.map_or,
      find?_congr same, firstNew, Option.map_none, Option.or_none]
  have atLater : glued.map User.record = some first.record → ∀ user ∈ later,
      ((glued.toList ++ (left.toList ++ read)).find?
        (UserStore.hasName user.username.toCString)).map User.record =
      ((left.filter (UserStore.hasName user.username.toCString)).map User.record).or
        (some user.record) := by
    intro whole user member
    have skipped : glued.filter (UserStore.hasName user.username.toCString) = none := by
      rw [Option.filter_eq_none_iff]
      rintro other rfl named
      have record := Option.some.inj whole
      exact laterNew user member ((hasName_iff.mp named).symm.trans (congrArg Prod.fst record))
    rw [find?_toList_append, find?_toList_append, skipped, Option.none_or, Option.map_or,
      find?_congr same, find?_own distinct member, Option.map_some]
  have atFirst' : (glued.filter (UserStore.hasName first.username.toCString)).map User.record =
      some first.record ↔ glued.map User.record = some first.record := by
    cases glued with
    | none => simp
    | some user =>
      cases named : UserStore.hasName first.username.toCString user with
      | true => simp [Option.filter, named]
      | false =>
        have different : user.record ≠ first.record := fun record =>
          Bool.eq_false_iff.mp named (hasName_iff.mpr (congrArg Prod.fst record))
        simp [Option.filter, named, different]
  rw [List.forall_mem_cons, atFirst, atFirst']
  refine and_congr_right fun whole => forall_congr' fun user => forall_congr' fun member => ?_
  rw [atLater whole user member]
  cases left with
  | none => simp
  | some other =>
    cases named : UserStore.hasName user.username.toCString other with
    | true => simp [Option.filter, named, hasName_iff.mp named]
    | false =>
      have different : other.username ≠ user.username := fun equal =>
        Bool.eq_false_iff.mp named (hasName_iff.mpr equal)
      simp [Option.filter, named, different]

section

variable {first : User} {lost : Nat}

/-- What is left of a line behind its first byte is not read under the name of the line. -/
theorem Storable.left_name (storable : Storable first) (positive : 0 < lost) {user : User}
    (read : readRecord ((recordLine first).drop lost) = some user) :
    user.username ≠ first.username := by
  have record := storable.readRecord_drop lost
  rw [read] at record
  split at record
  · contradiction
  · intro equal
    have name : user.username = (ghost first lost).username :=
      congrArg Prod.fst (Option.some.inj record)
    have bytes := congrArg (fun array => array.bytes.length) (equal.symm.trans name)
    simp only [(ghost_fields first lost).1, List.length_drop] at bytes
    have := List.length_pos_iff.mpr storable.name_ne_nil
    omega

/-- What is left of a line takes no later name for another record exactly when those who are
registered under what is left of the name have the same salt and hash. -/
theorem Storable.left_harmless (storable : Storable first) (lost : Nat) {later : List User}
    (storableLater : ∀ user ∈ later, Storable user) :
    (∀ user ∈ later, ∀ other, readRecord ((recordLine first).drop lost) = some other →
        other.username = user.username → other.record = user.record) ↔
      ∀ user ∈ later, user.username.bytes = first.username.bytes.drop lost →
        user.salt = first.salt ∧ user.passwordHash = first.passwordHash := by
  refine forall_congr' fun user => forall_congr' fun member => ?_
  have record := storable.readRecord_drop lost
  obtain ⟨name, salt, hash⟩ := ghost_fields first lost
  split at record
  · rename_i gone
    have unread : readRecord ((recordLine first).drop lost) = none := by simpa using record
    rw [unread, gone]
    have nonempty := (storableLater user member).name_ne_nil
    simp [nonempty]
  · obtain ⟨other, read, same⟩ := Option.map_eq_some_iff.mp record
    simp only [User.record, Prod.mk.injEq] at same
    obtain ⟨sameName, sameSalt, sameHash⟩ := same
    rw [read]
    simp only [Option.some.injEq, forall_eq', User.record, Prod.mk.injEq, sameName, sameSalt,
      sameHash, salt, hash]
    have names : (ghost first lost).username = user.username ↔
        user.username.bytes = first.username.bytes.drop lost := by
      rw [← name]
      exact ⟨fun equal => equal ▸ rfl, fun equal => FixedString.ext (CString.ext equal.symm)⟩
    rw [← names]
    exact forall_congr' fun equal => by simp [equal, eq_comm]

end

/-- The records of the file of a run, name by name: a name that is not in the old file is searched for
from its torn tail on. -/
theorem find?_after {file lines : List UInt8} {username : CString}
    (fresh : (userStoreLoad true (fun _ => true) file userStoreInit).2.users.find?
      (UserStore.hasName username) = none) :
    (userStoreLoad true (fun _ => true) (file ++ lines) userStoreInit).2.users.find?
        (UserStore.hasName username) =
      ((pieces (tornTail file ++ lines)).filterMap readRecord).find?
        (UserStore.hasName username) := by
  obtain ⟨whole, cut, _, appended⟩ := pieces_append file
  rw [UserStore.find?_load] at fresh ⊢
  rw [cut, List.filterMap_append, List.find?_append, Option.or_eq_none_iff] at fresh
  rw [appended, List.filterMap_append, List.find?_append, fresh.1, Option.none_or]

/-- The torn tail of the old file is not read as a user whose name is not in it. -/
theorem tornTail_fresh {file : List UInt8} {user : User} (storable : Storable user)
    (fresh : (userStoreLoad true (fun _ => true) file userStoreInit).2.users.find?
      (UserStore.hasName user.username.toCString) = none) :
    ¬ [user.username.bytes, user.salt.bytes, user.passwordHash.bytes] <+:
      tokens isDelimiter (CString.ofBytes (tornTail file)).bytes := by
  obtain ⟨whole, cut, torn, _⟩ := pieces_append file
  rw [UserStore.find?_load, cut, List.filterMap_append, List.find?_append,
    Option.or_eq_none_iff] at fresh
  rw [← readRecord_iff storable]
  intro read
  obtain ⟨other, read, same⟩ := Option.map_eq_some_iff.mp read
  have nonempty : tornTail file ≠ [] := by
    intro empty
    rw [empty, readRecord_nil] at read
    contradiction
  have member : other ∈ (pieces (tornTail file)).filterMap readRecord := by
    rw [pieces_torn torn nonempty, List.filterMap_cons_some read]
    exact List.mem_cons_self
  have named : UserStore.hasName user.username.toCString other = true :=
    hasName_iff.mpr (congrArg Prod.fst same)
  exact absurd named (by simpa using List.find?_eq_none.mp fresh.2 other member)

/-- What is read from lines behind a torn tail: the first line with the tail, what is left of it, and
the other lines. -/
theorem records_glued {first : User} {later : List User} (storable : Storable first)
    (storableLater : ∀ user ∈ later, Storable user) {tail : List UInt8} (torn : Torn tail) :
    (pieces (tail ++ (first :: later).flatMap recordLine)).filterMap readRecord =
      (readRecord (tail ++ (recordLine first).take (lineMax - tail.length))).toList ++
        ((readRecord ((recordLine first).drop (lineMax - tail.length))).toList ++
          (later.map recordLine).filterMap readRecord) := by
  have step : ∀ (piece : List UInt8) (rest : List (List UInt8)),
      (piece :: rest).filterMap readRecord =
        (readRecord piece).toList ++ rest.filterMap readRecord := by
    intro piece rest
    cases read : readRecord piece with
    | none => rw [List.filterMap_cons_none read]; rfl
    | some user => rw [List.filterMap_cons_some read]; rfl
  rw [List.flatMap_cons, ← List.append_assoc, pieces_glued storable torn, pieces_lines storableLater,
    step]
  split
  · rename_i nothing
    rw [nothing, readRecord_nil]
    rfl
  · rw [List.singleton_append, step]

/-- After any file has been loaded and any calls with their writes succeeding, everybody whose
registration returned `USER_OK` is loaded again with the same record exactly when nobody was
registered or the torn tail of the file does no harm to the first line. -/
theorem acknowledged_survive_iff [Sha256] (file : List UInt8) (calls : List AccountCall)
    (written : ∀ call ∈ calls, call.written = true) :
    let loaded := loadedAccounts true (fun _ => true) file
    let accounts := AccountCall.performAll calls loaded
    (∀ user ∈ AccountCall.acknowledged calls loaded, ∃ found ∈ (userStoreLoad true (fun _ => true)
        accounts.file userStoreInit).2.users, found.record = user.record) ↔
      ∀ first later, AccountCall.acknowledged calls loaded = first :: later →
        TailHarmless (tornTail file) first later := by
  intro loaded accounts
  have start : loaded.store.WellFormed := (UserStore.wellFormed_load true (fun _ => true) file).1
  have wellFormed : accounts.store.WellFormed := AccountCall.performAll_wellFormed calls start
  obtain ⟨storable, file', records⟩ := AccountCall.performAll_adds calls start written
  replace file' : accounts.file = file ++ (AccountCall.acknowledged calls loaded).flatMap recordLine :=
    file'
  replace records : accounts.store.nodes.map User.record =
    loaded.store.nodes.map User.record ++
      (AccountCall.acknowledged calls loaded).map User.record := records
  generalize AccountCall.acknowledged calls loaded = added at storable file' records ⊢
  have distinct := wellFormed.distinct
  rw [← List.map_append] at records
  rw [map_name_eq records, List.map_append, List.nodup_append] at distinct
  have fresh : ∀ user ∈ added, loaded.store.users.find?
      (UserStore.hasName user.username.toCString) = none := by
    intro user member
    rw [List.find?_eq_none]
    intro other old named
    exact distinct.2.2 _ (List.mem_map_of_mem (start.mem_users.mp old)) _
      (List.mem_map_of_mem member) (congrArg _ (hasName_iff.mp named))
  have reloaded := (UserStore.wellFormed_load true (fun _ => true) accounts.file).1
  cases added with
  | nil => simp
  | cons first later =>
    obtain ⟨firstStorable, laterStorable⟩ := List.forall_mem_cons.mp storable
    have torn : Torn (tornTail file) := (pieces_append file).choose_spec.2.1
    have room : 0 < lineMax - (tornTail file).length := Nat.sub_pos_of_lt torn.1
    have present : ∀ user ∈ first :: later,
        ((∃ found ∈ (userStoreLoad true (fun _ => true) accounts.file userStoreInit).2.users,
          found.record = user.record) ↔ _) := fun user member => by
      rw [reloaded.exists_record, file', find?_after (fresh user member),
        records_glued firstStorable laterStorable torn]
    rw [forall₂_congr present, found_iff (readRecord_lines laterStorable).2 distinct.2.1
      fun user read => firstStorable.left_name room read, readRecord_iff firstStorable,
      glued_iff firstStorable torn (tornTail_fresh firstStorable (fresh first List.mem_cons_self)),
      firstStorable.left_harmless _ laterStorable]
    constructor
    · rintro harmless _ _ same
      obtain ⟨rfl, rfl⟩ := List.cons.inj same
      exact harmless
    · intro harmless
      exact harmless first later rfl

section

attribute [local instance] sampleDigest

/-- One registration after an empty file. -/
theorem acknowledged_survive_iff_enrol :
    (∀ user ∈ AccountCall.acknowledged [enrol (CString.ofString "ann")]
        (loadedAccounts true (fun _ => true) []),
      ∃ found ∈ (userStoreLoad true (fun _ => true)
        (AccountCall.performAll [enrol (CString.ofString "ann")]
          (loadedAccounts true (fun _ => true) [])).file userStoreInit).2.users,
        found.record = user.record) ↔
      ∀ first later, AccountCall.acknowledged [enrol (CString.ofString "ann")]
        (loadedAccounts true (fun _ => true) []) = first :: later →
          TailHarmless (tornTail []) first later :=
  acknowledged_survive_iff [] [enrol (CString.ofString "ann")] (by decide)

/-- A registration acknowledged after a file of one byte without a newline is lost. -/
theorem acknowledged_torn : ¬ ∀ [Sha256] (file : List UInt8) (calls : List AccountCall),
    (∀ call ∈ calls, call.registers = true ∧ call.written = true) →
      ∀ user ∈ AccountCall.acknowledged calls (loadedAccounts true (fun _ => true) file),
        ∃ found ∈ (userStoreLoad true (fun _ => true)
          (AccountCall.performAll calls (loadedAccounts true (fun _ => true) file)).file
          userStoreInit).2.users, found.record = user.record := by
  intro claim
  have survived := claim [120] [enrol (CString.ofString "ann")] (by decide)
  have acknowledged : (AccountCall.acknowledged [enrol (CString.ofString "ann")]
      (loadedAccounts true (fun _ => true) [120])).length = 1 := by decide +kernel
  have lost : (AccountCall.acknowledged [enrol (CString.ofString "ann")]
      (loadedAccounts true (fun _ => true) [120])).all (fun user =>
        (userStoreLoad true (fun _ => true)
          (AccountCall.performAll [enrol (CString.ofString "ann")]
            (loadedAccounts true (fun _ => true) [120])).file userStoreInit).2.users.all
          fun found => found.record ≠ user.record) = true := by decide +kernel
  obtain ⟨user, only⟩ := List.length_eq_one_iff.mp acknowledged
  have member : user ∈ AccountCall.acknowledged [enrol (CString.ofString "ann")]
      (loadedAccounts true (fun _ => true) [120]) := only ▸ List.mem_cons_self
  obtain ⟨found, present, same⟩ := survived user member
  have different := List.all_eq_true.mp (List.all_eq_true.mp lost user member) found present
  exact of_decide_eq_true different same

end

end MultiUserChat
