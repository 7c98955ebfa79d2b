import MultiUserChat.Verif.FileDelivery
import MultiUserChat.Verif.Framing
/-!
# What the gateway accepts and what the server sees

The gateway checks a name, a password or a text by its length and for colons and line ends; the server
reads what it wrote up to the first NUL. The two agree exactly on texts without a NUL, and the text is
the same again at another gateway when it has no lone surrogate.
-/

namespace MultiUserChat.Web

/-! ## Texts in fields -/

/-- A text is read back as it was written exactly when it has no NUL. -/
theorem ofBytes_encode_iff {text : Text} :
    (CString.ofBytes (Utf8.encode text)).bytes = Utf8.encode text ↔ 0 ∉ text := by
  change (Utf8.encode text).takeWhile (· ≠ 0) = _ ↔ _
  rw [List.takeWhile_eq_self_iff, ← @Utf8.zero_mem_encode text]
  simp only [ne_eq, decide_not, Bool.not_eq_true', decide_eq_false_iff_not]
  exact ⟨fun others zero => others 0 zero rfl, fun nulFree byte member zero => nulFree (zero ▸ member)⟩

/-- The NUL that ends a text does not belong to it. -/
theorem ofBytes_encode_terminated (text : Text) :
    CString.ofBytes (Utf8.encode (text ++ [0])) = CString.ofBytes (Utf8.encode text) := by
  rw [Utf8.encode_append]
  exact CString.ofBytes_append_zeros (Utf8.encode text) 1

/-- A text without a NUL is read as it was written exactly when it has no lone surrogate. -/
theorem readFixedCString_encode_iff {text : Text} (nulFree : 0 ∉ text) :
    readFixedCString (Utf8.encode (text ++ [0])) = text ↔ ∀ point ∈ text, Utf8.Scalar point := by
  have bytes := congrArg CString.bytes (ofBytes_encode_terminated text)
  rw [ofBytes_encode_iff.mpr nulFree] at bytes
  have read : readFixedCString (Utf8.encode (text ++ [0])) = Utf8.decode (Utf8.encode text) :=
    congrArg Utf8.decode bytes
  rw [read, Utf8.decode_encode_iff]

/-- The server's rule for names accepts a name that the gateway has accepted, when it has no NUL. -/
theorem validUsername_of_validateAuth {username password : Text}
    (valid : validateAuth username password = none) (nulFree : 0 ∉ username) :
    validUsername (CString.ofBytes (Utf8.encode username)) = true := by
  unfold validateAuth at valid
  split at valid
  · contradiction
  rename_i checks
  simp only [not_or, Nat.not_le, ge_iff_le] at checks
  obtain ⟨given, fits, colon, line⟩ := checks
  have bytes := ofBytes_encode_iff.mpr nulFree
  simp only [validUsername, CString.length, CString.contains, bytes, Bool.and_eq_true,
    decide_eq_true_eq, Bool.not_eq_true', List.contains_eq_mem, decide_eq_false_iff_not, ne_eq,
    List.length_eq_zero_iff, Utf8.encode_eq_nil]
  exact ⟨⟨⟨given, fits⟩, mt (Utf8.ascii_mem_encode (by decide)).mp colon⟩,
    mt (Utf8.ascii_mem_encode (by decide)).mp line⟩

/-- The server's rule for passwords accepts a password that the gateway has accepted, when it has no
NUL. -/
theorem validPassword_of_validateAuth {username password : Text}
    (valid : validateAuth username password = none) (nulFree : 0 ∉ password) :
    validPassword (CString.ofBytes (Utf8.encode password)) = true := by
  unfold validateAuth at valid
  split at valid
  · contradiction
  split at valid
  · contradiction
  rename_i checks
  simp only [not_or, Nat.not_le, ge_iff_le] at checks
  obtain ⟨given, fits, line⟩ := checks
  have bytes := ofBytes_encode_iff.mpr nulFree
  simp only [validPassword, CString.length, CString.contains, bytes, Bool.and_eq_true,
    decide_eq_true_eq, Bool.not_eq_true', List.contains_eq_mem, decide_eq_false_iff_not, ne_eq,
    List.length_eq_zero_iff, Utf8.encode_eq_nil]
  exact ⟨⟨given, fits⟩, mt (Utf8.ascii_mem_encode (by decide)).mp line⟩

/-! ## Packets of text -/

/-- The packet was encoded from these texts. -/
structure WrittenAs (packet : Packet) (sender receiver text : Text) : Prop where
  /-- The name of the sender. -/
  sender : packet.senderName = wireName sender
  /-- The name of the receiver. -/
  receiver : packet.receiverName = wireName receiver
  /-- The text with its NUL. -/
  payload : packet.payload = Utf8.encode (text ++ [0])

/-- `recv_packet` returns the packet, and its strings are the UTF-8 of these texts. -/
structure ReadAs (packet : Packet) (sender receiver text : Text) : Prop where
  /-- The packet is received, whatever follows it. -/
  received : ∀ rest, recvPacket (wire packet ++ rest) = some (packet, rest)
  /-- The name of the sender. -/
  sender : packet.senderName.bytes = Utf8.encode sender
  /-- The name of the receiver. -/
  receiver : packet.receiverName.bytes = Utf8.encode receiver
  /-- The text. -/
  data : packet.dataText.bytes = Utf8.encode text

/-- What is written is read exactly when there is no NUL in it. -/
theorem WrittenAs.readAs_iff {packet : Packet} {sender receiver text : Text}
    (written : WrittenAs packet sender receiver text) :
    ReadAs packet sender receiver text ↔ 0 ∉ sender ∧ 0 ∉ receiver ∧ 0 ∉ text := by
  have data : packet.dataText = wireName text := by
    rw [packet.dataText_eq, written.payload, ofBytes_encode_terminated]
    rfl
  constructor
  · rintro ⟨_, own, peer, content⟩
    rw [written.sender] at own
    rw [written.receiver] at peer
    rw [data] at content
    exact ⟨ofBytes_encode_iff.mp own, ofBytes_encode_iff.mp peer, ofBytes_encode_iff.mp content⟩
  · rintro ⟨noSender, noReceiver, noText⟩
    refine ⟨recvPacket_wire packet, ?_, ?_, ?_⟩
    · rw [written.sender]
      exact ofBytes_encode_iff.mpr noSender
    · rw [written.receiver]
      exact ofBytes_encode_iff.mpr noReceiver
    · rw [data]
      exact ofBytes_encode_iff.mpr noText

/-- A text packet that fits is encoded. -/
theorem encodeTextPacket_wire (type : Int32) {sender receiver text : Text}
    (senderFits : byteLength sender < usernameMaxLen)
    (receiverFits : byteLength receiver < usernameMaxLen)
    (textFits : (Utf8.encode (text ++ [0])).length ≤ packetDataMax) : ∃ packet : Packet,
      encodeTextPacket type sender receiver text = .ok (wire packet) ∧ packet.type = type ∧
        WrittenAs packet sender receiver text := by
  obtain ⟨packet, made, type_, own, peer, payload⟩ :=
    encodePacket_wire type senderFits receiverFits textFits
  exact ⟨packet, made, type_, own, peer, payload⟩

/-! ## What the gateway writes -/

/-- The gateway writes one packet of a type on an open connection. -/
def Writes (session session' : ClientSession) (socket : Nat) (type : MessageType)
    (packet : Packet) : Prop :=
  (session'.sockets socket).written = (session.sockets socket).written ++ [wire packet] ∧
    packet.type = type.code

/-- The packet that was written is the only one. -/
theorem Writes.unique {session session' : ClientSession} {socket : Nat} {type type' : MessageType}
    {packet packet' : Packet} (writes : Writes session session' socket type packet)
    (other : Writes session session' socket type' packet') : packet = packet' := by
  have same := writes.1.symm.trans other.1
  rw [List.append_cancel_left_eq] at same
  exact wire_injective (List.singleton_inj.mp same)

/-- Writing a packet writes it, also after an entry was queued. -/
theorem writes_write (session : ClientSession) (pending : Option Pending) (socket : Nat)
    {type : MessageType} {packet : Packet} (type_ : packet.type = type.code) :
    Writes session ((session.queue pending).write socket (wire packet)) socket type packet := by
  refine ⟨?_, type_⟩
  rw [ClientSession.write_written, if_pos rfl]
  rfl

variable {session : ClientSession} {socket : Nat} {username password receiver text : Text}

/-- The message type of an action. -/
def AuthAction.type : AuthAction → MessageType
  | .register => .msgRegister
  | .login => .msgLogin

/-- A validated name and password fit their packet. -/
theorem validateAuth_fits (valid : validateAuth username password = none) :
    byteLength username < usernameMaxLen ∧
      (Utf8.encode (password ++ [0])).length ≤ packetDataMax := by
  unfold validateAuth byteLength at valid
  split at valid
  · contradiction
  rename_i name
  split at valid
  · contradiction
  rename_i secret
  simp only [not_or, Nat.not_le, ge_iff_le] at name secret
  refine ⟨name.2.1, ?_⟩
  have short : (Utf8.encode password).length < 64 := secret.2.1
  rw [Utf8.encode_append, List.length_append]
  change (Utf8.encode password).length + 1 ≤ 1024
  omega

/-- What was encoded is posted on an open connection, also after an entry was queued. -/
theorem post_queue (opened : session.openSocket = some socket) (pending : Option Pending)
    (bytes : List UInt8) :
    (session.queue pending).post (.ok bytes) = .ok ((session.queue pending).write socket bytes) := by
  have open_ : (session.queue pending).openSocket = some socket := opened
  change (session.queue pending).sendPacket bytes = _
  rw [ClientSession.sendPacket, open_]

/-- A registration or a login is written. -/
theorem returned_writes (valid : validateAuth username password = none)
    (opened : session.openSocket = some socket) (action : AuthAction) : ∃ packet,
      Writes session (Gateway.returned session (.auth action username password)) socket action.type
        packet ∧ WrittenAs packet username [] password := by
  obtain ⟨fits, textFits⟩ := validateAuth_fits valid
  obtain ⟨packet, made, type_, written⟩ :=
    @encodeTextPacket_wire action.type.code username [] password fits (by decide) textFits
  refine ⟨packet, ?_, written⟩
  have posted := post_queue opened (some (.auth action username)) (wire packet)
  rw [← made] at posted
  have returned : Gateway.returned session (.auth action username password) =
      (session.queue (some (.auth action username))).write socket (wire packet) := by
    unfold Gateway.returned
    dsimp only
    split
    · rename_i posts
      exact Except.ok.inj (posts.symm.trans posted)
    · rename_i posts
      cases posts.symm.trans posted
  rw [returned]
  exact writes_write session _ socket type_

/-- A private message is written. -/
theorem handlePrivate_writes (ready : session.Ready socket)
    (peer : validatePeerName (trim receiver) = none) (message : validateText text = none) :
    ∃ packet, Writes session (session.handlePrivate receiver text) socket .msgPrivate packet ∧
      WrittenAs packet session.username (trim receiver) text := by
  obtain ⟨packet, made, type_, written⟩ := encodeTextPacket_wire MessageType.msgPrivate.code ready.fits
    (ClientSession.validatePeerName_fits peer) (ClientSession.validateText_fits message)
  refine ⟨packet, ?_, written⟩
  have posted := ready.post packet (some (.status .sendPrivate))
  rw [← made] at posted
  have handled : session.handlePrivate receiver text =
      (session.queue (some (.status .sendPrivate))).write socket (wire packet) := by
    rw [ClientSession.handlePrivate, ready.requireLogin]
    dsimp only
    rw [peer, message]
    exact posted
  rw [handled]
  exact writes_write session _ socket type_

/-- A group message is written. -/
theorem handleGroup_writes (ready : session.Ready socket) (message : validateText text = none) :
    ∃ packet, Writes session (session.handleGroup text) socket .msgGroup packet ∧
      WrittenAs packet session.username [] text := by
  obtain ⟨packet, made, type_, written⟩ := @encodeTextPacket_wire MessageType.msgGroup.code
    session.username [] text ready.fits (by decide) (ClientSession.validateText_fits message)
  refine ⟨packet, ?_, written⟩
  have posted := ready.post packet (some (.status .sendGroup))
  rw [← made] at posted
  have handled : session.handleGroup text =
      (session.queue (some (.status .sendGroup))).write socket (wire packet) := by
    rw [ClientSession.handleGroup, ready.requireLogin]
    dsimp only
    rw [message]
    exact posted
  rw [handled]
  exact writes_write session _ socket type_

/-! ## The law -/

/-- The server reads a registration or a login as it was asked for, and its rules accept it. -/
def AuthSeen (username password : Text) : Prop :=
  ∀ (action : AuthAction) (session : ClientSession) (socket : Nat),
    session.openSocket = some socket → ∃ packet,
      Writes session (Gateway.returned session (.auth action username password)) socket action.type
        packet ∧ ReadAs packet username [] password ∧
        validUsername packet.senderName = true ∧ validPassword packet.dataText = true

/-- The server reads a private message as it was asked for, and another gateway its text. -/
def PrivateSeen (username receiver text : Text) : Prop :=
  ∀ (session : ClientSession) (socket : Nat), session.Ready socket → session.username = username →
    ∃ packet, Writes session (session.handlePrivate receiver text) socket .msgPrivate packet ∧
      ReadAs packet username (trim receiver) text ∧
      packetText (packetOfFrame (wire packet)) = text

/-- The server reads a group message as it was asked for, and another gateway its text. -/
def GroupSeen (username text : Text) : Prop :=
  ∀ (session : ClientSession) (socket : Nat), session.Ready socket → session.username = username →
    ∃ packet, Writes session (session.handleGroup text) socket .msgGroup packet ∧
      ReadAs packet username [] text ∧ packetText (packetOfFrame (wire packet)) = text

/-- A session in which the user is logged in. -/
def sessionOf (username : Text) : ClientSession where
  tcpSocket := some 0
  username
  loggedIn := true
  created := 1

/-- The text of a packet that was written is read by another gateway as it was exactly when it has no
lone surrogate. -/
theorem WrittenAs.packetText_iff {packet : Packet} {sender : Text}
    (written : WrittenAs packet sender receiver text) (nulFree : 0 ∉ text) :
    packetText (packetOfFrame (wire packet)) = text ↔ ∀ point ∈ text, Utf8.Scalar point := by
  have data : (receivedFrom packet).data = Utf8.encode (text ++ [0]) := written.payload
  rw [packetOfFrame_eq, packetText, data, readFixedCString_encode_iff nulFree]

/-- What is seen as it was asked for has no NUL, and its text no lone surrogate. -/
theorem plain_of_seen (auth : validateAuth username password = none)
    (peer : validatePeerName (trim receiver) = none) (message : validateText text = none)
    (auths : AuthSeen username password) (privates : PrivateSeen username receiver text) :
    (∀ accepted ∈ [username, password, trim receiver, text], 0 ∉ accepted) ∧
      ∀ point ∈ text, Utf8.Scalar point := by
  have named : username ≠ [] := by
    rintro rfl
    simp [validateAuth] at auth
  have ready : (sessionOf username).Ready 0 := ⟨rfl, named, (validateAuth_fits auth).1, rfl⟩
  simp only [List.forall_mem_cons, List.not_mem_nil, false_imp_iff, implies_true, and_true]
  obtain ⟨packet, writes, read, _⟩ := auths .login _ 0 ready.opened
  obtain ⟨packet', writes', written⟩ := returned_writes auth ready.opened .login
  obtain rfl := writes.unique writes'
  obtain ⟨name, _, secret⟩ := written.readAs_iff.mp read
  obtain ⟨packet, writes, read, shown⟩ := privates _ 0 ready rfl
  obtain ⟨packet', writes', written⟩ := handlePrivate_writes ready peer message
  obtain rfl := writes.unique writes'
  obtain ⟨_, addressee, content⟩ := written.readAs_iff.mp read
  exact ⟨⟨name, secret, addressee, content⟩, (written.packetText_iff content).mp shown⟩

/-- What the gateway accepts is what the server sees, and what another gateway shows, exactly when
there is no NUL in it and no lone surrogate in the text. -/
theorem accepted_seen_iff (auth : validateAuth (trim username) password = none)
    (peer : validatePeerName (trim receiver) = none) (message : validateText text = none) :
    (AuthSeen (trim username) password ∧ PrivateSeen (trim username) receiver text ∧
        GroupSeen (trim username) text) ↔
      (∀ accepted ∈ [trim username, password, trim receiver, text], 0 ∉ accepted) ∧
        ∀ point ∈ text, Utf8.Scalar point := by
  constructor
  · rintro ⟨auths, privates, _⟩
    exact plain_of_seen auth peer message auths privates
  simp only [List.forall_mem_cons, List.not_mem_nil, false_imp_iff, implies_true, and_true]
  rintro ⟨⟨name, secret, addressee, content⟩, scalars⟩
  refine ⟨fun action session socket opened => ?_, fun session socket ready user => ?_,
    fun session socket ready user => ?_⟩
  · obtain ⟨packet, writes, written⟩ := returned_writes auth opened action
    have read := written.readAs_iff.mpr ⟨name, List.not_mem_nil, secret⟩
    refine ⟨packet, writes, read, ?_, ?_⟩
    · rw [written.sender]
      exact validUsername_of_validateAuth auth name
    · have data : packet.dataText = CString.ofBytes (Utf8.encode password) :=
        CString.ext (read.data.trans (ofBytes_encode_iff.mpr secret).symm)
      rw [data]
      exact validPassword_of_validateAuth auth secret
  · obtain ⟨packet, writes, written⟩ := handlePrivate_writes ready peer message
    rw [user] at written
    exact ⟨packet, writes, written.readAs_iff.mpr ⟨name, addressee, content⟩,
      (written.packetText_iff content).mpr scalars⟩
  · obtain ⟨packet, writes, written⟩ := handleGroup_writes ready message
    rw [user] at written
    exact ⟨packet, writes, written.readAs_iff.mpr ⟨name, List.not_mem_nil, content⟩,
      (written.packetText_iff content).mpr scalars⟩

/-- Names and texts of plain characters, with white space around the names. -/
theorem accepted_seen_iff_plain :
    AuthSeen (trim (literal " alice ")) (literal "secret") ∧
      PrivateSeen (trim (literal " alice ")) (literal "bob\n") (literal "你好") ∧
        GroupSeen (trim (literal " alice ")) (literal "你好") :=
  (accepted_seen_iff (by decide) (by decide) (by decide)).mpr
    ⟨by decide, by decide⟩

/-- A name with a NUL is accepted, and the server logs in the user named by what stands in front of
it. -/
theorem accepted_seen_iff_nul :
    (¬ ∀ username password receiver text : Text,
      validateAuth (trim username) password = none → validatePeerName (trim receiver) = none →
      validateText text = none → AuthSeen (trim username) password ∧
        PrivateSeen (trim username) receiver text ∧ GroupSeen (trim username) text) ∧
      wireName (literal "alice" ++ [0] ++ literal "x") = CString.ofString "alice" := by
  refine ⟨fun seen => ?_, by decide⟩
  have same : trim (literal "alice" ++ [0] ++ literal "x") = literal "alice" ++ [0] ++ literal "x" := by
    decide
  have auth : validateAuth (trim (literal "alice" ++ [0] ++ literal "x")) (literal "secret") = none := by
    decide
  have peer : validatePeerName (trim (literal "bob")) = none := by decide
  have message : validateText (literal "hello") = none := by decide
  obtain ⟨auths, privates, _⟩ := seen _ (literal "secret") (literal "bob") (literal "hello") auth peer
    message
  rw [same] at auth auths privates
  exact (plain_of_seen auth peer message auths privates).1 _ List.mem_cons_self (by decide)

end MultiUserChat.Web
