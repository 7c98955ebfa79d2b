import MultiUserChat.Verif.GatewayPackets
import MultiUserChat.Web.Gateway
/-!
# What the browser's actions do

Each request of the browser either tells it something, or sends one packet on the open connection and
queues the entry that belongs to its type, or queues the entry and fails to send (`Asks`). A step of
the gateway is one of these, or an operation on its connections (`handleMessage_cases`,
`resume_cases`). What is encoded is the wire form of a packet whose names are what the other side
reads, so no encoding error hides behind a name that is short enough.
-/

namespace MultiUserChat.Web

/-! ## Encoded packets -/

/-- A name as the C programs read it from its field. -/
def wireName (name : Text) : CString := CString.ofBytes (Utf8.encode name)

/-- The zero bytes of a field do not belong to the name. -/
theorem ofBytes_nameField (name : Text) : CString.ofBytes (nameField name) = wireName name :=
  CString.ofBytes_append_zeros _ _

/-- A field that has room for the name ends in a NUL. -/
theorem nameField_last {name : Text} (fits : (Utf8.encode name).length < usernameMaxLen) :
    (nameField name)[31]? = some 0 := by
  have size : usernameMaxLen = 32 := rfl
  rw [nameField, List.getElem?_append_right (by omega), List.getElem?_replicate, if_pos (by omega)]

/-- What fits is encoded as a packet with its type, names and data. -/
theorem encodePacket_wire (type : Int32) {sender receiver : Text} {data : List UInt8}
    (senderFits : (Utf8.encode sender).length < usernameMaxLen)
    (receiverFits : (Utf8.encode receiver).length < usernameMaxLen)
    (dataFits : data.length ≤ packetDataMax) : ∃ packet : Packet,
      encodePacket type sender receiver data = .ok (wire packet) ∧ packet.type = type ∧
        packet.senderName = wireName sender ∧ packet.receiverName = wireName receiver ∧
        packet.payload = data := by
  let packet : Packet :=
    { type
      length := data.length
      sender := ⟨nameField sender, nameField_length senderFits⟩
      receiver := ⟨nameField receiver, nameField_length receiverFits⟩
      data := dataArray data dataFits
      length_le := dataFits
      sender_terminated := nameField_last senderFits
      receiver_terminated := nameField_last receiverFits
      cleared := List.drop_left }
  have payload : packet.payload = data := List.take_left
  refine ⟨packet, ?_, rfl, ofBytes_nameField sender, ofBytes_nameField receiver, payload⟩
  rw [encodePacket_bytes type senderFits receiverFits dataFits, wire_eq, payload]
  rfl

/-- A sequence that returns has returned in each part. -/
theorem bind_ok {ε α β : Type} {first : Except ε α} {rest : α → Except ε β} {result : β}
    (returned : (first >>= rest) = .ok result) :
    ∃ value, first = .ok value ∧ rest value = .ok result := by
  cases first with
  | error message => contradiction
  | ok value => exact ⟨value, rfl, returned⟩

/-- A check that throws did not, when the rest has returned. -/
theorem check_ok {ε β : Type} {failed : Prop} [Decidable failed] {message : ε}
    {rest : PUnit → Except ε β} {result : β}
    (returned : (if failed then throw message >>= rest else rest ⟨⟩) = .ok result) :
    ¬failed ∧ rest ⟨⟩ = .ok result := by
  by_cases wrong : failed
  · rw [if_pos wrong] at returned
    contradiction
  · rw [if_neg wrong] at returned
    exact ⟨wrong, returned⟩

/-! ## Requests -/

/-- The entry that a request of this type queues. -/
def pendingOf (username : Text) : MessageType → Option Pending
  | .msgRegister => some (.auth .register username)
  | .msgLogin => some (.auth .login username)
  | .msgPrivate => some (.status .sendPrivate)
  | .msgGroup => some (.status .sendGroup)
  | .msgGroupCreate => some (.status .createGroup)
  | .msgGroupMessage => some (.status .sendGroupMessage)
  | .msgFileEnd => some (.status .sendFile)
  | .msgLogout => some (.status .logout)
  | _ => none

/-- Message types that the browser can ask for. -/
def requested : MessageType → Bool
  | .msgHeartbeat | .msgBroadcast | .msgOk | .msgError | .msgGroupEvent => false
  | _ => true

/-- What a request sends. The name of its sender is the only part that may be too long. -/
structure Request where
  /-- Message type. -/
  type : MessageType
  /-- Name of the sender. -/
  sender : Text
  /-- Name of the receiver. -/
  receiver : Text
  /-- Data bytes. -/
  data : List UInt8
  /-- The browser can ask for it. -/
  requested : requested type = true
  /-- The name of the receiver fits its field. -/
  receiver_fits : byteLength receiver < usernameMaxLen
  /-- The data fit into a packet. -/
  data_fits : data.length ≤ packetDataMax

namespace Request

/-- What is written for the request. -/
def encoded (request : Request) : Except Text (List UInt8) :=
  encodePacket request.type.code request.sender request.receiver request.data

/-- The entry that is queued for the request. -/
def pending (request : Request) : Option Pending := pendingOf request.sender request.type

/-- A sender name that is short enough leaves nothing that could go wrong. -/
theorem encoded_wire (request : Request) (fits : byteLength request.sender < usernameMaxLen) :
    ∃ packet : Packet, request.encoded = .ok (wire packet) ∧ packet.type = request.type.code ∧
      packet.senderName = wireName request.sender := by
  obtain ⟨packet, encoded, type, sender, _⟩ :=
    encodePacket_wire request.type.code fits request.receiver_fits request.data_fits
  exact ⟨packet, encoded, type, sender⟩

/-- What was written is a packet of the request's type and sender. -/
theorem wire_of_encoded {request : Request} {bytes : List UInt8}
    (encoded : request.encoded = .ok bytes) : ∃ packet : Packet,
      bytes = wire packet ∧ packet.type = request.type.code ∧
        packet.senderName = wireName request.sender := by
  obtain ⟨packet, written, type, sender⟩ := request.encoded_wire (encodePacket_ok encoded).1
  rw [written, Except.ok.injEq] at encoded
  exact ⟨packet, encoded.symm, type, sender⟩

end Request

namespace ClientSession

/-- Queue the entry of a request, if it has one. -/
def queue (session : ClientSession) (pending : Option Pending) : ClientSession :=
  { session with pendingResponses := session.pendingResponses ++ pending.toList }

/-- A registration or login under a validated name, or a request of the user who is logged in. -/
def Origin (session : ClientSession) (request : Request) : Prop :=
  (request.type = .msgRegister ∨ request.type = .msgLogin) ∧
      byteLength request.sender < usernameMaxLen ∨
    session.loggedIn = true ∧ request.sender = session.username

/-- What a request does to the session; `queues` is what its handler has checked when it queues an
entry. -/
inductive Asks (session : ClientSession) (queues : Prop) : ClientSession → Prop
  /-- Nothing. -/
  | nothing : Asks session queues session
  /-- The browser is told something. -/
  | told (notice : Notice) : Asks session queues (session.send notice)
  /-- A packet is sent and its entry queued. -/
  | sent (request : Request) {socket : Nat} {bytes : List UInt8}
      (opened : session.openSocket = some socket) (encoded : request.encoded = .ok bytes)
      (origin : session.Origin request) :
      Asks session queues ((session.queue request.pending).write socket bytes)
  /-- The entry is queued, but there is no open connection or the sender name is too long. -/
  | unsent (request : Request) (notice : Notice) (queued : queues)
      (cannot : session.openSocket = none ∨ usernameMaxLen ≤ byteLength request.sender)
      (origin : session.Origin request) :
      Asks session queues ((session.queue request.pending).send notice)

/-- Sending on an open connection succeeds for what was encoded. -/
theorem post_cases (session : ClientSession) (packet : Except Text (List UInt8)) :
    (∃ socket bytes, session.openSocket = some socket ∧ packet = .ok bytes ∧
        session.post packet = .ok (session.write socket bytes)) ∨
      (∃ message, session.post packet = .error message) ∧
        (session.openSocket = none ∨ ∃ message, packet = .error message) := by
  cases packet with
  | error message => exact .inr ⟨⟨message, rfl⟩, .inr ⟨message, rfl⟩⟩
  | ok bytes =>
    have posted : session.post (.ok bytes) = session.sendPacket bytes := rfl
    rw [posted]
    unfold sendPacket
    cases opened : session.openSocket with
    | none => exact .inr ⟨⟨_, rfl⟩, .inl rfl⟩
    | some socket => exact .inl ⟨socket, bytes, rfl, rfl, rfl⟩

/-- Writing adds to what was written on one socket. -/
theorem write_written (session : ClientSession) (socket other : Nat) (bytes : List UInt8) :
    ((session.write socket bytes).sockets other).written =
      if other = socket then (session.sockets other).written ++ [bytes]
      else (session.sockets other).written := by
  by_cases same : other = socket
  · subst same
    simp [write, updateSocket]
  · simp [write, updateSocket, same]

/-- A request is sent, or its entry is queued and the error is told. -/
theorem Asks.request {session : ClientSession} {queues : Prop} (request : Request)
    (origin : session.Origin request) (queued : queues) {failed : Text → ClientSession}
    (tells : ∀ message, ∃ notice, failed message = (session.queue request.pending).send notice) :
    Asks session queues (match (session.queue request.pending).post request.encoded with
      | .ok session => session
      | .error message => failed message) := by
  rcases post_cases (session.queue request.pending) request.encoded with
    ⟨socket, bytes, opened, encoded, posted⟩ | ⟨⟨message, posted⟩, cannot⟩
  · rw [posted]
    exact .sent request opened encoded origin
  · rw [posted]
    obtain ⟨notice, told⟩ := tells message
    dsimp only
    rw [told]
    refine .unsent request notice queued (cannot.imp id fun ⟨message, refused⟩ => ?_) origin
    by_contra fits
    obtain ⟨packet, encoded, _⟩ := request.encoded_wire (Nat.not_le.mp fits)
    rw [encoded] at refused
    contradiction

/-- A request under `requireLogin` asks when its body does. -/
theorem Asks.login {session : ClientSession} {queues : Prop} {body : ClientSession → ClientSession}
    (asks : session.loggedIn = true → Asks session queues (body session)) :
    Asks session queues (session.requireLogin body) := by
  unfold requireLogin
  split
  · exact .told _
  · rename_i entered
    rw [not_or] at entered
    exact asks (by simpa using entered.1)

/-- A request of the user who is logged in. -/
theorem Asks.own {session : ClientSession} {queues : Prop} (entered : session.loggedIn = true)
    (request : Request) (own : request.sender = session.username) (queued : queues) :
    Asks session queues ((session.queue request.pending).caught
      ((session.queue request.pending).post request.encoded)) :=
  .request request (.inr ⟨entered, own⟩) queued fun _ => ⟨_, rfl⟩

/-- Nothing is queued for a request without an entry. -/
theorem queue_none (session : ClientSession) : session.queue none = session := by
  rw [queue, Option.toList_none, List.append_nil]

/-- A request without an entry of the user who is logged in. -/
theorem Asks.untracked {session : ClientSession} {queues : Prop} (entered : session.loggedIn = true)
    (request : Request) (own : request.sender = session.username)
    (untracked : request.pending = none) :
    Asks session queues (session.caught (session.post request.encoded)) := by
  rcases post_cases session request.encoded with
    ⟨socket, bytes, opened, encoded, posted⟩ | ⟨⟨message, posted⟩, _⟩
  · rw [posted]
    have sent : Asks session queues ((session.queue request.pending).write socket bytes) :=
      .sent request opened encoded (.inr ⟨entered, own⟩)
    rw [untracked, queue_none] at sent
    exact sent
  · rw [posted]
    exact .told _

/-- A validated name fits its field. -/
theorem validatePeerName_fits {receiver : Text} (valid : validatePeerName receiver = none) :
    byteLength receiver < usernameMaxLen := by
  unfold validatePeerName at valid
  split at valid
  · contradiction
  · rename_i fits
    simp only [not_or, ge_iff_le, Nat.not_le] at fits
    exact fits.2.1

/-- A validated text with its NUL fits into a packet. -/
theorem validateText_fits {text : Text} (valid : validateText text = none) :
    (Utf8.encode (text ++ [0])).length ≤ packetDataMax := by
  unfold validateText byteLength at valid
  split at valid
  · contradiction
  · rename_i fits
    rw [Utf8.encode_append, List.length_append]
    simp only [not_or, Nat.not_lt] at fits
    exact fits.2

/-- Writing inside a buffer keeps its size. -/
theorem overwrite_length {target bytes : List UInt8} {offset : Nat}
    (room : offset + bytes.length ≤ target.length) :
    (overwrite target offset bytes).length = target.length := by
  unfold overwrite
  simp only [List.length_append, List.length_take, List.length_drop]
  omega

/-- The payload of a file header has one size. -/
theorem encodeFileBeginPayload_length {filename : Text} {filesize : Nat} {payload : List UInt8}
    (encoded : encodeFileBeginPayload filename filesize = .ok payload) :
    payload.length = fileNameMaxLen + 8 := by
  unfold encodeFileBeginPayload writeFixedCString at encoded
  by_cases tooLong : (Utf8.encode filename).length ≥ fileNameMaxLen
  · simp only [if_pos tooLong] at encoded
    contradiction
  · simp only [if_neg tooLong] at encoded
    cases encoded
    have cleared : (overwrite (List.replicate (fileNameMaxLen + 8) 0) 0
        (List.replicate fileNameMaxLen 0)).length = fileNameMaxLen + 8 := by
      rw [overwrite_length (by simp), List.length_replicate]
    have name : (overwrite (overwrite (List.replicate (fileNameMaxLen + 8) 0) 0
        (List.replicate fileNameMaxLen 0)) 0 (Utf8.encode filename)).length = fileNameMaxLen + 8 := by
      rw [overwrite_length (by rw [cleared]; omega), cleared]
    have size : (bigEndian (filesize / 2 ^ 32) ++ bigEndian filesize).reverse.length = 8 := by
      rw [List.length_reverse, List.length_append, bigEndian_length, bigEndian_length]
    rw [overwrite_length (by rw [name, size]), name]

/-- The fields of a group payload fit into a packet. -/
theorem encodeGroupFieldsFrom_length {total : Nat} {fields : List Text} {bytes : List UInt8}
    (room : total ≤ packetDataMax) (encoded : encodeGroupFieldsFrom total fields = .ok bytes) :
    total + bytes.length ≤ packetDataMax := by
  induction fields generalizing total bytes with
  | nil =>
    cases encoded
    exact room
  | cons field fields ih =>
    obtain ⟨text, _, rest⟩ := bind_ok encoded
    obtain ⟨fits, rest⟩ := check_ok rest
    obtain ⟨chunks, later, rest⟩ := bind_ok rest
    cases rest
    have bound := ih (Nat.not_lt.mp fits) later
    rw [List.length_append]
    omega

/-- The payload of a group's creation fits into a packet. -/
theorem encodeGroupCreatePayload_length {name : Text} {members : List Text} {payload : List UInt8}
    (encoded : encodeGroupCreatePayload name members = .ok payload) :
    payload.length ≤ packetDataMax := by
  obtain ⟨_, _, rest⟩ := bind_ok encoded
  obtain ⟨_, _, rest⟩ := bind_ok rest
  obtain ⟨_, rest⟩ := check_ok rest
  obtain ⟨_, rest⟩ := check_ok rest
  have bound := encodeGroupFieldsFrom_length (Nat.zero_le _) rest
  omega

/-! ## The handlers -/

/-- The members of a group as `handleCreateGroup` takes them. -/
def otherMembers (session : ClientSession) (members : List Text) : List Text :=
  ((members.map trim).filter (· ≠ [])).filter (· ≠ session.username)

/-- The packet of a group message. -/
def groupMessagePacket (session : ClientSession) (groupId text : Text) : Except Text (List UInt8) := do
  let data ← encodeGroupMessagePayload (trim groupId) text
  encodePacket MessageType.msgGroupMessage.code session.username (trim groupId) data

/-- `handleGroupMessage` fails after its checks, and removes the entries of group messages. -/
def Withdraws (session : ClientSession) (groupId text : Text) : Prop :=
  session.loggedIn = true ∧ session.username ≠ [] ∧ trim groupId ≠ [] ∧ validateText text = none ∧
    (session.openSocket = none ∨ ∃ message, session.groupMessagePacket groupId text = .error message)

/-- The checks after which the handler of an action queues an entry. A group message is not listed,
since its entry is removed when it is not sent. -/
def Queues (session : ClientSession) (action : Action) : Prop :=
  session.loggedIn = true ∧
    match action with
    | .sendPrivate receiver text =>
      validatePeerName (trim receiver) = none ∧ validateText text = none
    | .sendGroup text => validateText text = none
    | .createGroup name members =>
      validateGroupName (trim name) = none ∧
        (∀ member ∈ session.otherMembers members, validatePeerName member = none) ∧
        ∃ payload, encodeGroupCreatePayload (trim name) (session.otherMembers members) = .ok payload
    | .sendFileEnd receiver => validatePeerName (trim receiver) = none
    | .logout => session.openSocket.isSome
    | _ => False

/-- `handleOnlineList` asks. -/
theorem handleOnlineList_asks (session : ClientSession) :
    Asks session (session.Queues .onlineList) session.handleOnlineList :=
  .login fun entered =>
    .untracked entered ⟨.msgOnlineList, session.username, [], [], rfl, by decide, by decide⟩ rfl rfl

/-- `handlePrivate` asks. -/
theorem handlePrivate_asks (session : ClientSession) (receiver text : Text) :
    Asks session (session.Queues (.sendPrivate receiver text))
      (session.handlePrivate receiver text) := by
  refine .login fun entered => ?_
  dsimp only
  split
  · exact .told _
  · rename_i valid
    rw [Option.or_eq_none_iff] at valid
    exact .own entered ⟨.msgPrivate, session.username, trim receiver, _, rfl,
      validatePeerName_fits valid.1, validateText_fits valid.2⟩ rfl ⟨entered, valid⟩

/-- `handleGroup` asks. -/
theorem handleGroup_asks (session : ClientSession) (text : Text) :
    Asks session (session.Queues (.sendGroup text)) (session.handleGroup text) := by
  refine .login fun entered => ?_
  split
  · exact .told _
  · rename_i valid
    exact .own entered ⟨.msgGroup, session.username, [], _, rfl, by decide, validateText_fits valid⟩
      rfl ⟨entered, valid⟩

/-- `handleGroupList` asks. -/
theorem handleGroupList_asks (session : ClientSession) :
    Asks session (session.Queues .groupList) session.handleGroupList :=
  .login fun entered =>
    .untracked entered ⟨.msgGroupList, session.username, [], [], rfl, by decide, by decide⟩ rfl rfl

/-- `handleCreateGroup` asks. -/
theorem handleCreateGroup_asks (session : ClientSession) (name : Text) (members : List Text) :
    Asks session (session.Queues (.createGroup name members))
      (session.handleCreateGroup name members) := by
  refine .login fun entered => ?_
  dsimp only
  split
  · exact .told _
  rename_i validName
  split
  · exact .told _
  rename_i validMembers
  split
  · exact .told _
  · rename_i payload encoded
    refine .own entered ⟨.msgGroupCreate, session.username, [], payload, rfl, by decide,
      encodeGroupCreatePayload_length encoded⟩ rfl ⟨entered, validName, ?_, payload, encoded⟩
    intro member listed
    have valid := List.find?_eq_none.mp validMembers member listed
    simpa using valid

/-- `handleGroupMessage` asks, or removes the entries of group messages. -/
theorem handleGroupMessage_asks (session : ClientSession) (groupId text : Text) :
    Asks session (session.Queues (.sendGroupMessage groupId text))
        (session.handleGroupMessage groupId text) ∨
      session.Withdraws groupId text ∧ ∃ message, session.handleGroupMessage groupId text =
        { session with
          pendingResponses := session.pendingResponses.filter
            (· ≠ Pending.status .sendGroupMessage) }.sendError message := by
  unfold handleGroupMessage requireLogin
  split
  · exact .inl (.told _)
  rename_i entered
  rw [not_or] at entered
  obtain ⟨entered, named⟩ := entered
  have entered : session.loggedIn = true := by simpa using entered
  dsimp only
  split
  · exact .inl (.told _)
  rename_i given
  split
  · exact .inl (.told _)
  rename_i valid
  change Asks _ _ (match (session.expect (.status .sendGroupMessage)).post
    (session.groupMessagePacket groupId text) with | .ok _ => _ | .error _ => _) ∨ _
  rcases post_cases (session.expect (.status .sendGroupMessage))
      (session.groupMessagePacket groupId text) with
    ⟨socket, bytes, opened, encoded, posted⟩ | ⟨⟨message, posted⟩, cannot⟩
  · rw [posted]
    obtain ⟨data, _, encoded⟩ := bind_ok encoded
    obtain ⟨_, receiverFits, dataFits⟩ := encodePacket_ok encoded
    exact .inl (.sent ⟨.msgGroupMessage, session.username, trim groupId, data, rfl, receiverFits,
      dataFits⟩ opened encoded (.inr ⟨entered, rfl⟩))
  · refine .inr ⟨⟨entered, named, given, valid, cannot⟩, message, ?_⟩
    have removed : (session.pendingResponses ++ [Pending.status .sendGroupMessage]).filter
        (· ≠ Pending.status .sendGroupMessage) =
          session.pendingResponses.filter (· ≠ Pending.status .sendGroupMessage) := by
      rw [List.filter_append]
      exact List.append_nil _
    change (match (session.expect (.status .sendGroupMessage)).post
      (session.groupMessagePacket groupId text) with | .ok _ => _ | .error _ => _) = _
    rw [posted, ← removed]
    rfl

/-- `handleSendFileBegin` asks. -/
theorem handleSendFileBegin_asks (session : ClientSession) (receiver filename : Text)
    (filesize : Number) :
    Asks session (session.Queues (.sendFileBegin receiver filename filesize))
      (session.handleSendFileBegin receiver filename filesize) := by
  refine .login fun entered => ?_
  dsimp only
  split
  · exact .told _
  rename_i valid
  split
  · exact .told _
  split
  · exact .told _
  · rename_i size _
    cases encoded : encodeFileBeginPayload filename size with
    | error message => exact .told _
    | ok payload =>
      exact .untracked entered ⟨.msgFileBegin, session.username, trim receiver, payload, rfl,
        validatePeerName_fits valid, by rw [encodeFileBeginPayload_length encoded]; decide⟩ rfl rfl

/-- `handleSendFileChunk` asks. -/
theorem handleSendFileChunk_asks (session : ClientSession) (receiver : Text) (data : List UInt8) :
    Asks session (session.Queues (.sendFileChunk receiver data))
      (session.handleSendFileChunk receiver data) := by
  refine .login fun entered => ?_
  dsimp only
  split
  · exact .told _
  rename_i valid
  split
  · exact .told _
  · rename_i fits
    exact .untracked entered ⟨.msgFileChunk, session.username, trim receiver, data, rfl,
      validatePeerName_fits valid, by omega⟩ rfl rfl

/-- `handleSendFileEnd` asks. -/
theorem handleSendFileEnd_asks (session : ClientSession) (receiver : Text) :
    Asks session (session.Queues (.sendFileEnd receiver)) (session.handleSendFileEnd receiver) := by
  refine .login fun entered => ?_
  dsimp only
  split
  · exact .told _
  · rename_i valid
    exact .own entered ⟨.msgFileEnd, session.username, trim receiver, [], rfl,
      validatePeerName_fits valid, by decide⟩ rfl ⟨entered, valid⟩

/-- `logout` asks when the user is logged in on an open connection. -/
theorem logout_asks {session : ClientSession}
    (open_ : session.loggedIn = true ∧ session.openSocket.isSome) :
    Asks session (session.Queues .logout) session.logout := by
  unfold logout
  rw [if_pos open_]
  exact .own open_.1 ⟨.msgLogout, session.username, [], [], rfl, by decide, by decide⟩ rfl open_

end ClientSession

/-! ## Calls -/

/-- What a call waits for has passed the validation. -/
def Purpose.Valid : Purpose → Prop
  | .connect => True
  | .auth _ username password =>
    byteLength username < usernameMaxLen ∧ byteLength password < passwordMaxLen

/-- The call has its connection and queues an entry when it goes on. -/
def Call.Queues (call : Call) : Prop :=
  match call.stage, call.purpose with
  | .returned, .auth _ _ _ => True
  | _, _ => False

/-- The connection that an action needs. -/
def Action.target : Action → Option Config
  | .connectTcp config => some config
  | .auth _ username password config =>
    if validateAuth (trim username) password = none then some config else none
  | _ => none

namespace Gateway

open ClientSession

/-- Validated credentials fit their fields. -/
theorem validateAuth_fits {username password : Text} (valid : validateAuth username password = none) :
    byteLength username < usernameMaxLen ∧ byteLength password < passwordMaxLen := by
  unfold validateAuth at valid
  split at valid
  · contradiction
  rename_i name
  split at valid
  · contradiction
  rename_i secret
  simp only [not_or, ge_iff_le, Nat.not_le] at name secret
  exact ⟨name.2.1, secret.2.1⟩

/-- An error of a call is told. -/
theorem threw_asks (session : ClientSession) (purpose : Purpose) (message : Text) :
    ∃ notice, threw session purpose message = session.send notice := by
  cases purpose <;> exact ⟨_, rfl⟩

/-- A call that has its connection asks. -/
theorem returned_asks {session : ClientSession} {call : Call} (valid : call.purpose.Valid)
    (returned_ : call.stage = .returned) :
    Asks session call.Queues (returned session call.purpose) := by
  obtain ⟨purpose, config, stage⟩ := call
  cases returned_
  cases purpose with
  | connect => exact .nothing
  | auth action username password =>
    have room : (Utf8.encode (password ++ [0])).length ≤ packetDataMax := by
      have bound := valid.2
      have size : passwordMaxLen = 64 := rfl
      unfold byteLength at bound
      rw [Utf8.encode_append, List.length_append]
      change _ + 1 ≤ 1024
      omega
    have tells (message : Text) : ∃ notice,
        threw (session.queue (some (.auth action username))) (.auth action username password)
          message = (session.queue (some (.auth action username))).send notice := threw_asks _ _ _
    cases action with
    | register =>
      exact .request ⟨.msgRegister, username, [], _, rfl, by decide, room⟩
        (.inl ⟨.inl rfl, valid.1⟩) trivial tells
    | login =>
      exact .request ⟨.msgLogin, username, [], _, rfl, by decide, room⟩
        (.inl ⟨.inr rfl, valid.1⟩) trivial tells

/-! ## Steps -/

/-- What a step does. -/
inductive Moves (gateway : Gateway) : Happening → Gateway → Prop
  | asked {action : Action} {session : ClientSession}
      (asks : Asks gateway.session (gateway.session.Queues action) session) :
      Moves gateway (.browser action) { gateway with session }
  | withdrew {groupId text : Text} (withdraws : gateway.session.Withdraws groupId text)
      (message : Text) :
      Moves gateway (.browser (.sendGroupMessage groupId text))
        { gateway with
          session := { gateway.session with
            pendingResponses := gateway.session.pendingResponses.filter
              (· ≠ Pending.status .sendGroupMessage) }.sendError message }
  | disconnected : Moves gateway (.browser .disconnectTcp)
      { gateway with session := gateway.session.disconnectTcp }
  | loggedOut (closed : ¬(gateway.session.loggedIn = true ∧ gateway.session.openSocket.isSome)) :
      Moves gateway (.browser .logout) { gateway with session := gateway.session.logout }
  | waits {action : Action} {purpose : Purpose} {config : Config} (valid : purpose.Valid)
      (target : action.target = some config) :
      Moves gateway (.browser action) (gateway.ensureTcp purpose config)
  | left : Moves gateway .leave { gateway with session := gateway.session.cleanup }
  | connected {socket : Nat} (created : socket < gateway.session.created)
      (waiting : (gateway.session.sockets socket).settled = false)
      (live : (gateway.session.sockets socket).destroyed = false) :
      Moves gateway (.connect socket)
        ⟨gateway.session.onConnect socket, gateway.calls.map (·.connected socket)⟩
  | lost {socket : Nat} (created : socket < gateway.session.created) :
      Moves gateway (.lost socket) { gateway with session := gateway.session.destroy socket }
  | failed {socket : Nat} {message : Text} (created : socket < gateway.session.created) :
      Moves gateway (.error socket message)
        ⟨gateway.session.updateSocket socket fun record => { record with settled := true },
          gateway.calls.map (·.failed socket message)⟩
  | broken {socket : Nat} {message : Text} :
      Moves gateway (.error socket message)
        { gateway with session := gateway.session.onError socket message }
  | closed {socket : Nat} (created : socket < gateway.session.created)
      (destroyed : (gateway.session.sockets socket).destroyed = true) :
      Moves gateway (.close socket)
        { gateway with
          session := (gateway.session.updateSocket socket fun record =>
            { record with closed := true }).onClose socket }
  | delivered {socket : Nat} {chunk : List UInt8} {session : ClientSession}
      (connected : (gateway.session.sockets socket).connected = true)
      (live : (gateway.session.sockets socket).destroyed = false)
      (handled : (gateway.session.handleTcpData chunk).2 = some session) :
      Moves gateway (.data socket chunk) { gateway with session }
  | ended {number : Nat} {wslHost : Text} {call : Call} {session : ClientSession}
      (found : gateway.calls[number]? = some call)
      (asks : Asks gateway.session call.Queues session) :
      Moves gateway (.resume number wslHost) ⟨session, gateway.calls.eraseIdx number⟩
  | gaveUp {number : Nat} {wslHost : Text} {call : Call} (member : call ∈ gateway.calls)
      (message : Text) :
      Moves gateway (.resume number wslHost)
        { gateway with calls := gateway.calls.set number { call with stage := .threw message } }
  | retried {number : Nat} {wslHost : Text} {call : Call} (member : call ∈ gateway.calls) :
      Moves gateway (.resume number wslHost)
        ⟨(gateway.session.createConnection call.config).1,
          gateway.calls.set number
            { call with stage := .connecting gateway.session.created true }⟩

/-- What a message of the browser does. -/
theorem handleMessage_moves (gateway : Gateway) (action : Action) :
    Moves gateway (.browser action) (gateway.handleMessage action) := by
  cases action with
  | connectTcp config => exact .waits trivial rfl
  | disconnectTcp => exact .disconnected
  | auth action username password config =>
    unfold handleMessage handleRegisterOrLogin
    dsimp only
    split
    · exact .asked (.told _)
    · rename_i valid
      exact .waits (validateAuth_fits valid) (if_pos valid)
  | logout =>
    by_cases open_ : gateway.session.loggedIn = true ∧ gateway.session.openSocket.isSome
    · exact .asked (logout_asks open_)
    · exact .loggedOut open_
  | onlineList => exact .asked (handleOnlineList_asks _)
  | sendPrivate receiver text => exact .asked (handlePrivate_asks _ _ _)
  | sendGroup text => exact .asked (handleGroup_asks _ _)
  | groupList => exact .asked (handleGroupList_asks _)
  | createGroup name members => exact .asked (handleCreateGroup_asks _ _ _)
  | sendGroupMessage groupId text =>
    rcases gateway.session.handleGroupMessage_asks groupId text with asks | ⟨withdraws, message, same⟩
    · exact .asked asks
    · have moves := Moves.withdrew withdraws message
      rw [← same] at moves
      exact moves
  | sendFileBegin receiver filename filesize => exact .asked (handleSendFileBegin_asks _ _ _ _)
  | sendFileChunk receiver data => exact .asked (handleSendFileChunk_asks _ _ _)
  | sendFileEnd receiver => exact .asked (handleSendFileEnd_asks _ _)

/-- What a call does when it goes on: it asks and ends, it fails for good, or it tries again. -/
theorem resume_moves {gateway gateway' : Gateway} {number : Nat} {wslHost : Text}
    (valid : ∀ call ∈ gateway.calls, call.purpose.Valid)
    (resumed : gateway.resume number wslHost = some gateway') :
    Moves gateway (.resume number wslHost) gateway' := by
  unfold resume at resumed
  split at resumed
  · contradiction
  rename_i call found
  have member := List.mem_of_getElem? found
  split at resumed
  · contradiction
  · rename_i returned_
    cases resumed
    exact .ended found (returned_asks (valid call member) returned_)
  · cases resumed
    obtain ⟨notice, told⟩ := threw_asks gateway.session call.purpose ‹_›
    exact .ended found (told ▸ .told notice)
  · generalize (if isLocalhost call.config.host then wslHost else []) = host at resumed
    dsimp only at resumed
    split at resumed
    · cases resumed
      exact .gaveUp member _
    · cases resumed
      exact .retried member

/-- A step is one of these. -/
theorem step_moves {gateway gateway' : Gateway} {happening : Happening}
    (valid : ∀ call ∈ gateway.calls, call.purpose.Valid)
    (taken : gateway.step happening = some gateway') : Moves gateway happening gateway' := by
  cases happening with
  | browser action =>
    obtain ⟨_, handled⟩ := Option.ite_none_left_eq_some.mp taken
    cases handled
    exact gateway.handleMessage_moves action
  | leave =>
    obtain ⟨_, handled⟩ := Option.ite_none_left_eq_some.mp taken
    cases handled
    exact .left
  | connect socket =>
    obtain ⟨possible, handled⟩ := Option.ite_none_right_eq_some.mp taken
    cases handled
    exact .connected possible.1 (by simpa using possible.2.1) (by simpa using possible.2.2)
  | lost socket =>
    obtain ⟨possible, handled⟩ := Option.ite_none_right_eq_some.mp taken
    cases handled
    exact .lost possible
  | error socket message =>
    obtain ⟨possible, handled⟩ := Option.ite_none_right_eq_some.mp taken
    split at handled
    · cases handled
      exact .failed possible.1
    · cases handled
      exact .broken
  | close socket =>
    obtain ⟨possible, handled⟩ := Option.ite_none_right_eq_some.mp taken
    cases handled
    exact .closed possible.1 possible.2.1
  | data socket chunk =>
    obtain ⟨possible, handled⟩ := Option.ite_none_right_eq_some.mp taken
    obtain ⟨session, answered, rfl⟩ := Option.map_eq_some_iff.mp handled
    exact .delivered possible.1 (by simpa using possible.2) answered
  | resume number wslHost => exact resume_moves valid taken

/-- A step keeps what calls wait for. -/
theorem Moves.calls {gateway gateway' : Gateway} {happening : Happening}
    (valid : ∀ call ∈ gateway.calls, call.purpose.Valid) (moves : Moves gateway happening gateway') :
    ∀ call ∈ gateway'.calls, call.purpose.Valid := by
  have mapped {change : Call → Call} (same : ∀ call, (change call).purpose = call.purpose) :
      ∀ call ∈ gateway.calls.map change, call.purpose.Valid := by
    intro call member
    obtain ⟨before, old, rfl⟩ := List.mem_map.mp member
    rw [same]
    exact valid before old
  have replaced {number : Nat} {new : Call} (fits : new.purpose.Valid) :
      ∀ call ∈ gateway.calls.set number new, call.purpose.Valid := by
    intro call member
    rcases List.mem_or_eq_of_mem_set member with old | rfl
    · exact valid call old
    · exact fits
  cases moves with
  | waits fits =>
    have added {stage : Stage} {config : Config} {purpose : Purpose} (fits : purpose.Valid) :
        ∀ call ∈ gateway.calls ++ [⟨purpose, config, stage⟩], call.purpose.Valid := by
      intro call member
      rcases List.mem_append.mp member with old | new
      · exact valid call old
      · rw [List.mem_singleton.mp new]
        exact fits
    unfold ensureTcp
    split
    · exact added fits
    · exact added fits
  | connected => exact mapped fun call => by unfold Call.connected; split <;> [split; skip] <;> rfl
  | failed => exact mapped fun call => by unfold Call.failed; split <;> [split; skip] <;> rfl
  | ended => exact fun call member => valid call (List.mem_of_mem_eraseIdx member)
  | @gaveUp _ _ call member message => exact replaced (valid call member)
  | @retried _ _ call member => exact replaced (valid call member)
  | _ => exact valid

end Gateway

end MultiUserChat.Web
