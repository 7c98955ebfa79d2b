import MultiUserChat.Common.Crypto
import MultiUserChat.Common.Protocol
/-!
# The user store

`common/user.c`. Each record is one allocated node that two intrusive chains pass through: the list
from `head` and the list of its hash bucket. A node's address is its index in `nodes`; the chains
are lists of addresses, so an assignment through either pointer is seen through both. Nodes are
only released with the whole store.

Each operation below is one critical section of the store's mutex. Success of allocation, of the
random source, of the digest library and of the file operations is an argument.
-/

namespace MultiUserChat

/-- `USER_HASH_BUCKETS` -/
abbrev userHashBuckets : Nat := 101

/-- `UserResult` -/
inductive UserResult
  | ok | errExists | errNotFound | errBadPassword | errAlreadyOnline | errOffline | errInvalid
  | errIo
deriving DecidableEq, Repr

/-- `user_result_message` -/
def userResultMessage : UserResult → CString
  | .ok => CString.ofString "成功"
  | .errExists => CString.ofString "用户名已存在"
  | .errNotFound => CString.ofString "用户不存在"
  | .errBadPassword => CString.ofString "密码错误"
  | .errAlreadyOnline => CString.ofString "用户已经在线"
  | .errOffline => CString.ofString "用户不在线"
  | .errInvalid => CString.ofString "输入不合法"
  | .errIo => CString.ofString "系统读写错误"

/-- `User`, without its two chain pointers. -/
structure User where
  /-- Account name. -/
  username : FixedString usernameMaxLen
  /-- Hexadecimal salt. -/
  salt : FixedString (saltHexLen + 1)
  /-- Hexadecimal password digest. -/
  passwordHash : FixedString (passwordHashHexLen + 1)
  /-- Descriptor of the connection the user is logged in on. -/
  socketFd : Int
  /-- Whether the user is logged in. -/
  online : Bool
deriving DecidableEq

/-- `UserStore` -/
structure UserStore where
  /-- Allocated records; a record's address is its index. -/
  nodes : List User
  /-- Addresses along `next` from `head`. -/
  head : List Nat
  /-- Addresses along `hash_next` from each bucket. -/
  buckets : Fin userHashBuckets → List Nat

namespace UserStore

/-- The nodes along the `next` chain with their addresses. -/
def chain (store : UserStore) : List (Nat × User) :=
  store.head.filterMap fun address => store.nodes[address]?.map (address, ·)

/-- The records in the order of a linear scan. -/
def users (store : UserStore) : List User := store.chain.map Prod.snd

/-- Assign through a pointer to a record. -/
def update (store : UserStore) (address : Nat) (change : User → User) : UserStore :=
  { store with nodes := store.nodes.modify address change }

end UserStore

/-- `user_store_init` -/
def userStoreInit : UserStore := ⟨[], [], fun _ => []⟩

/-- A `char` converted to `unsigned int`; the type is signed on the target. -/
def signExtend (char : UInt8) : UInt32 :=
  if char < 128 then char.toUInt32 else char.toUInt32 + 0xffffff00

/-- The loop of `hash_username`. -/
def usernameHash (username : CString) : UInt32 :=
  username.bytes.foldl (fun hash char => ((hash <<< 5) + hash) + signExtend char) 5381

/-- `hash_username` -/
def hashUsername (username : CString) : Fin userHashBuckets :=
  ⟨(usernameHash username).toNat % userHashBuckets, Nat.mod_lt _ (by decide)⟩

/-- `valid_username` -/
def validUsername (username : CString) : Bool :=
  username.length ≠ 0 && username.length < usernameMaxLen && !username.contains 58 &&
    !username.contains 10

/-- `valid_password` -/
def validPassword (password : CString) : Bool :=
  password.length ≠ 0 && password.length < passwordMaxLen && !password.contains 10

/-- The comparison made along a bucket chain. -/
def hasUsername (store : UserStore) (username : CString) (address : Nat) : Bool :=
  store.nodes[address]?.any fun user => user.username.toCString = username

/-- `find_user_locked` -/
def findUserLocked (store : UserStore) (username : CString) : Option Nat :=
  if validUsername username then
    (store.buckets (hashUsername username)).find? (hasUsername store username)
  else none

/-- `insert_user_locked` of a newly allocated record. -/
def insertUserLocked (store : UserStore) (user : User) : Option UserStore :=
  if (findUserLocked store user.username.toCString).isSome then none
  else
    let address := store.nodes.length
    let bucket := hashUsername user.username.toCString
    some
      { nodes := store.nodes ++ [user]
        head := address :: store.head
        buckets := Function.update store.buckets bucket (address :: store.buckets bucket) }

/-- `create_user` when its allocation succeeds. -/
def createUser (username salt hash : CString) : User where
  username := copyFixed usernameMaxLen username
  salt := copyFixed (saltHexLen + 1) salt
  passwordHash := copyFixed (passwordHashHexLen + 1) hash
  socketFd := -1
  online := false

/-! ## The storage file -/

/-- One `fgets` with a buffer of `limit + 1` bytes: a line with its newline, or the first `limit`
bytes of a longer one, and the rest of the file. -/
def fgets : Nat → List UInt8 → List UInt8 × List UInt8
  | 0, file => ([], file)
  | _, [] => ([], [])
  | limit + 1, byte :: file =>
    if byte = 10 then ([byte], file)
    else
      let (line, rest) := fgets limit file
      (byte :: line, rest)

/-- The delimiters `":\n"` of the storage file. -/
def isDelimiter (byte : UInt8) : Bool := byte = 58 || byte = 10

/-- One `strtok`: skip delimiters, return the token after them and what follows its delimiter. -/
def strtok (text : List UInt8) : Option (List UInt8 × List UInt8) :=
  match text.dropWhile isDelimiter with
  | [] => none
  | start => some (start.takeWhile (!isDelimiter ·), (start.dropWhile (!isDelimiter ·)).drop 1)

/-- The three tokens of a line of the storage file. -/
def parseRecord (line : List UInt8) : Option (CString × CString × CString) := do
  let (username, rest) ← strtok (CString.ofBytes line).bytes
  let (salt, rest) ← strtok rest
  let (hash, _) ← strtok rest
  return (CString.ofBytes username, CString.ofBytes salt, CString.ofBytes hash)

/-- One turn of the loop of `user_store_load`. -/
def loadLine (store : UserStore) (line : List UInt8) (allocated : Bool) : UserStore :=
  match parseRecord line with
  | none => store
  | some (username, salt, hash) =>
    if !validUsername username || salt.length ≠ saltHexLen || hash.length ≠ passwordHashHexLen ||
        (findUserLocked store username).isSome || !allocated then store
    else (insertUserLocked store (createUser username salt hash)).getD store

/-- The loop of `user_store_load`. Every line takes at least one byte, so the length of the file
bounds the number of turns; the allocations are numbered by the turns left. -/
def loadLines (allocated : Nat → Bool) : Nat → UserStore → List UInt8 → UserStore
  | 0, store, _ => store
  | _, store, [] => store
  | turns + 1, store, file =>
    let (line, rest) := fgets 511 file
    loadLines allocated turns (loadLine store line (allocated turns)) rest

/-- `user_store_load`; `opened` says that the directory and the file could be opened. -/
def userStoreLoad (opened : Bool) (allocated : Nat → Bool) (file : List UInt8)
    (store : UserStore) : UserResult × UserStore :=
  if opened then (.ok, loadLines allocated file.length store file) else (.errIo, store)

/-- What the file system makes of one appended record. -/
inductive AppendOutcome
  /-- `fopen` fails. -/
  | openFailed
  /-- `fprintf` fails after this many bytes reached the file. -/
  | writeFailed (written : Nat)
  /-- `fclose` fails after this many bytes reached the file. -/
  | closeFailed (written : Nat)
  /-- The whole record is written. -/
  | completed
deriving DecidableEq, Repr

/-- The line written for a record. -/
def recordLine (user : User) : List UInt8 :=
  user.username.bytes ++ 58 :: user.salt.bytes ++ 58 :: user.passwordHash.bytes ++ [10]

/-- `append_user_record`, with the file afterwards. -/
def appendUserRecord (outcome : AppendOutcome) (file : List UInt8) (user : User) :
    UserResult × List UInt8 :=
  match outcome with
  | .openFailed => (.errIo, file)
  | .writeFailed written => (.errIo, file ++ (recordLine user).take written)
  | .closeFailed written => (.errIo, file ++ (recordLine user).take written)
  | .completed => (.ok, file ++ recordLine user)

/-! ## Operations -/

/-- What the environment contributes to one registration. -/
structure RegisterOutcome where
  /-- The bytes of `RAND_bytes`, absent when it fails. -/
  random : Option (List.Vector UInt8 saltBytes)
  /-- The digest library's calls succeed. -/
  digested : Bool
  /-- The record can be allocated. -/
  allocated : Bool
  /-- The fate of the appended line. -/
  appended : AppendOutcome

/-- `user_store_register`, with the storage file before and after. -/
def userStoreRegister [Sha256] (outcome : RegisterOutcome) (store : UserStore)
    (file : List UInt8) (username password : CString) : UserResult × UserStore × List UInt8 :=
  if !validUsername username || !validPassword password then (.errInvalid, store, file)
  else
    match generateSaltHex outcome.random with
    | none => (.errIo, store, file)
    | some salt =>
      match hashPassword outcome.digested password salt with
      | none => (.errIo, store, file)
      | some hash =>
        if (findUserLocked store username).isSome then (.errExists, store, file)
        else if !outcome.allocated then (.errIo, store, file)
        else
          let user := createUser username salt hash
          match insertUserLocked store user with
          | none => (.errIo, store, file)
          | some inserted =>
            let (result, file) := appendUserRecord outcome.appended file user
            (result, inserted, file)

/-- `user_store_login` -/
def userStoreLogin [Sha256] (digested : Bool) (store : UserStore) (username password : CString)
    (socketFd : Int) : UserResult × UserStore :=
  if !validUsername username || !validPassword password then (.errInvalid, store)
  else
    match findUserLocked store username with
    | none => (.errNotFound, store)
    | some address =>
      match store.nodes[address]? with
      | none => (.errNotFound, store)
      | some user =>
        if !verifyPassword digested password user.salt.toCString user.passwordHash.toCString then
          (.errBadPassword, store)
        else if user.online then (.errAlreadyOnline, store)
        else
          (.ok, store.update address fun user => { user with online := true, socketFd := socketFd })

/-- The assignments that take a user offline. -/
def User.offline (user : User) : User := { user with online := false, socketFd := -1 }

/-- `user_store_logout` -/
def userStoreLogout (store : UserStore) (username : CString) : UserResult × UserStore :=
  if !validUsername username then (.errInvalid, store)
  else
    match findUserLocked store username with
    | none => (.errNotFound, store)
    | some address => (.ok, store.update address User.offline)

/-- The test `cur->online && cur->socket_fd == socket_fd` of the scans for a descriptor. -/
def User.onlineAt (user : User) (socketFd : Int) : Bool := user.online && user.socketFd = socketFd

/-- `user_store_logout_fd` -/
def userStoreLogoutFd (store : UserStore) (socketFd : Int) : UserResult × UserStore :=
  match store.chain.find? fun node => node.2.onlineAt socketFd with
  | none => (.errNotFound, store)
  | some (address, _) => (.ok, store.update address User.offline)

/-- `user_store_get_fd` -/
def userStoreGetFd (store : UserStore) (username : CString) : Except UserResult Int :=
  if !validUsername username then .error .errInvalid
  else
    match (findUserLocked store username).bind (store.nodes[·]?) with
    | none => .error .errNotFound
    | some user => if user.online then .ok user.socketFd else .error .errOffline

/-- The loop of `user_store_online_list`: the text so far, and whether a name is in it. -/
def onlineListLoop (outSize : Nat) : List User → List UInt8 → Bool → Option (List UInt8 × Bool)
  | [], text, listed => some (text, listed)
  | user :: rest, text, listed =>
    if !user.online then onlineListLoop outSize rest text listed
    else
      let piece := (if listed then [10] else []) ++ user.username.bytes
      if piece.length ≥ outSize - text.length then none
      else onlineListLoop outSize rest (text ++ piece) true

/-- `user_store_online_list` -/
def userStoreOnlineList (store : UserStore) (outSize : Nat) : Except UserResult CString :=
  match onlineListLoop outSize store.users [] false with
  | none => .error .errIo
  | some (_, false) => .ok (CString.ofString "当前没有在线用户")
  | some (text, true) => .ok (CString.ofBytes text)

/-- `user_store_snapshot_online_fds`. The array of the code holds the descriptors; the owner of each
is kept beside it so that a delivery can be traced to the user it is meant for. -/
def userStoreSnapshotOnlineFds (store : UserStore) (exceptFd : Int) (maxFds : Nat) :
    List (CString × Int) :=
  ((store.users.filter fun user =>
    user.online && decide (0 ≤ user.socketFd) && decide (user.socketFd ≠ exceptFd)).take maxFds).map
      fun user => (user.username.toCString, user.socketFd)

/-- `user_store_username_by_fd` into an array of the size of a user name. -/
def userStoreUsernameByFd (store : UserStore) (socketFd : Int) : Option CString :=
  (store.users.find? fun user => user.onlineAt socketFd).map fun user => user.username.toCString

end MultiUserChat
