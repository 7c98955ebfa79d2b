import MultiUserChat.Verif.Matching
import MultiUserChat.Web.Site
/-!
# What a browser can make the gateway write

Nothing is known of the browser: any bytes may come over its WebSocket, and anything may come from the
chat server. The gateway writes whole packets of the kinds that clients ask with, and a packet that is
neither a registration nor a login is sent under a name that the chat server has accepted the login of
(`raw_contained`). The chat server reads these packets, one after the other.
-/

namespace MultiUserChat.Web

open Gateway

/-! ## Messages of any bytes -/

/-- What can happen to a session of which nothing is known. -/
inductive RawEvent
  /-- Some bytes come over the WebSocket. -/
  | message (raw : List UInt8)
  /-- Anything else. -/
  | other (happening : Happening)

/-- One event, when it is possible. -/
def Gateway.rawStep (settings : Settings) (gateway : Gateway) : RawEvent → Option Gateway
  | .message raw => if gateway.session.closing then none else gateway.handleRaw settings raw
  | .other happening => if happening.isBrowser then none else gateway.step happening

/-- A session that some events lead to. -/
def RawReachable (settings : Settings) (gateway : Gateway) : Prop :=
  Reachable (· = Gateway.accepted)
    (fun gateway event gateway' => gateway.rawStep settings event = some gateway') gateway

/-- What comes of a message: something is asked for, a host is refused, or the browser is told
something. -/
inductive Reads (gateway : Gateway) : Gateway → Prop
  | acts (action : Action) : Reads gateway (gateway.handleMessage action)
  | refuses (purpose : Purpose) (message : Text) (valid : purpose.Valid) :
      Reads gateway (gateway.ensureRefused purpose message)
  | tells (notice : Notice) : Reads gateway (gateway.tell notice)
  | ignores : Reads gateway gateway

section

variable {settings : Settings} {gateway gateway' : Gateway}

/-- A handler that needs a login. -/
theorem request_reads (action : Except Text Action) : Reads gateway (gateway.request action) := by
  unfold Gateway.request
  split
  · exact .acts _
  · rename_i message
    unfold ClientSession.requireLogin
    split
    · exact .tells _
    · exact .tells (.error none none message)

/-- The action `connect_tcp`. -/
theorem connectTcp_reads {msg : Json} (read : gateway.connectTcp settings msg = some gateway') :
    Reads gateway gateway' := by
  unfold Gateway.connectTcp at read
  split at read
  · obtain ⟨target, _, rfl⟩ := Option.map_eq_some_iff.mp read
    cases target with
    | config config => exact .acts _
    | refused message => exact .refuses _ _ trivial
  · cases read
    exact .tells _

/-- The actions `register` and `login`. -/
theorem authenticate_reads {action : AuthAction} {msg : Json}
    (read : gateway.authenticate settings action msg = some gateway') : Reads gateway gateway' := by
  unfold Gateway.authenticate at read
  split at read
  · split at read
    · cases read
      exact .tells _
    · rename_i valid
      split at read
      · obtain ⟨target, _, rfl⟩ := Option.map_eq_some_iff.mp read
        cases target with
        | config config => exact .acts _
        | refused message => exact .refuses _ _ (Gateway.validateAuth_fits valid)
      · cases read
        exact .tells _
  · cases read
    exact .tells _
  · cases read
    exact .tells _

/-- An action that is none. -/
theorem unknownAction_reads (action : Option Json) : Reads gateway (gateway.unknownAction action) := by
  unfold Gateway.unknownAction
  split
  · exact .tells _
  · exact .tells _

/-- One case of the switch, and those behind it. -/
theorem reads_ite {selected : Prop} [Decidable selected] {first others : Option Gateway}
    (here : ∀ gateway', first = some gateway' → Reads gateway gateway')
    (behind : ∀ gateway', others = some gateway' → Reads gateway gateway') :
    ∀ gateway', (if selected then first else others) = some gateway' → Reads gateway gateway' := by
  intro gateway' read
  by_cases this : selected
  · rw [if_pos this] at read
    exact here gateway' read
  · rw [if_neg this] at read
    exact behind gateway' read

/-- The switch. -/
theorem dispatch_reads {action : Text} {msg : Json} :
    ∀ gateway', gateway.dispatch settings action msg = some gateway' → Reads gateway gateway' := by
  have told {result : Gateway} (reads : Reads gateway result) :
      ∀ gateway', some result = some gateway' → Reads gateway gateway' :=
    fun _ same => Option.some.inj same ▸ reads
  unfold Gateway.dispatch
  apply reads_ite (told (.tells _))
  apply reads_ite fun _ => connectTcp_reads
  apply reads_ite (told (.acts _))
  apply reads_ite fun _ => authenticate_reads
  apply reads_ite fun _ => authenticate_reads
  apply reads_ite (told (.acts _))
  apply reads_ite (told (.acts _))
  apply reads_ite (told (request_reads _))
  apply reads_ite (told (request_reads _))
  apply reads_ite (told (.acts _))
  apply reads_ite (told (request_reads _))
  apply reads_ite (told (request_reads _))
  apply reads_ite (told (request_reads _))
  apply reads_ite (told (request_reads _))
  apply reads_ite (told (request_reads _))
  apply reads_ite
  · cases numberOf (msg.get (literal "port")) with
    | ok port => exact told .ignores
    | error message => exact told (.tells _)
  · exact told (unknownAction_reads _)

/-- Whatever the bytes are. -/
theorem handleRaw_reads {raw : List UInt8} (read : gateway.handleRaw settings raw = some gateway') :
    Reads gateway gateway' := by
  unfold Gateway.handleRaw at read
  split at read
  · cases read
    exact .tells _
  · cases read
    exact .tells _
  · split at read
    · exact dispatch_reads _ read
    · cases read
      exact unknownAction_reads _

end

/-! ## What is kept -/

namespace ClientSession

/-- The browser has been told that the chat server has accepted the login of a name. -/
def Greeted (session : ClientSession) (name : Text) : Prop :=
  ∃ message, Notice.authResult .login true message name ∈ session.notices

/-- A client may send such a packet, under a name that has been accepted unless it is a registration or
a login. -/
def Vouches (session : ClientSession) (packet : Packet) : Prop :=
  ∃ type, requested type = true ∧ packet.type = type.code ∧
    (type = .msgRegister ∨ type = .msgLogin ∨
      ∃ name, session.Greeted name ∧ packet.senderName = wireName name)

/-- Who is logged in has been accepted, and so is all that is written. -/
structure Contained (session : ClientSession) : Prop where
  /-- The user. -/
  user : session.loggedIn = true → session.Greeted session.username
  /-- What is written. -/
  written : ∀ socket, ∃ packets : List Packet,
    (session.sockets socket).written = packets.map wire ∧ ∀ packet ∈ packets, session.Vouches packet

variable {session session' : ClientSession}

/-- Who has been accepted stays accepted. -/
theorem Greeted.later {name : Text} (greeted : session.Greeted name)
    (since : session.notices <+: session'.notices) : session'.Greeted name := by
  obtain ⟨message, told⟩ := greeted
  exact ⟨message, since.subset told⟩

/-- A packet that could be sent can be sent later. -/
theorem Vouches.later {packet : Packet} (vouches : session.Vouches packet)
    (since : session.notices <+: session'.notices) : session'.Vouches packet := by
  obtain ⟨type, asked, same, sender⟩ := vouches
  refine ⟨type, asked, same, sender.imp id (Or.imp id ?_)⟩
  rintro ⟨name, greeted, own⟩
  exact ⟨name, greeted.later since, own⟩

namespace Contained

/-- Something else changes. -/
theorem keep (contained : session.Contained) (since : session.notices <+: session'.notices)
    (user : session'.loggedIn = true →
      session.loggedIn = true ∧ session'.username = session.username ∨
        session'.Greeted session'.username)
    (written : ∀ socket, (session'.sockets socket).written = (session.sockets socket).written ∨
      (session'.sockets socket).written = []) : session'.Contained where
  user entered := by
    rcases user entered with ⟨before, same⟩ | greeted
    · rw [same]
      exact (contained.user before).later since
    · exact greeted
  written socket := by
    rcases written socket with same | none
    · obtain ⟨packets, all, vouched⟩ := contained.written socket
      exact ⟨packets, same.trans all, fun packet inside => (vouched packet inside).later since⟩
    · exact ⟨[], none, by simp⟩

/-- Nothing is written, and the user stays. -/
theorem quiet (contained : session.Contained) (since : session.notices <+: session'.notices)
    (loggedIn : session'.loggedIn = session.loggedIn) (username : session'.username = session.username)
    (written : ∀ socket, (session'.sockets socket).written = (session.sockets socket).written) :
    session'.Contained :=
  contained.keep since (fun entered => .inl ⟨loggedIn ▸ entered, username⟩)
    fun socket => .inl (written socket)

/-- The browser is told something. -/
theorem send (contained : session.Contained) (notice : Notice) : (session.send notice).Contained :=
  contained.quiet (List.prefix_append _ _) rfl rfl fun _ => rfl

/-- A packet is written. -/
theorem write (contained : session.Contained) (socket : Nat) {packet : Packet}
    (vouches : session.Vouches packet) : (session.write socket (wire packet)).Contained where
  user := contained.user
  written other := by
    obtain ⟨packets, all, vouched⟩ := contained.written other
    rw [write_written]
    split
    · refine ⟨packets ++ [packet], ?_, fun each inside => ?_⟩
      · rw [all, List.map_append, List.map_singleton]
      · rcases List.mem_append.mp inside with before | last
        · exact vouched each before
        · rw [List.mem_singleton.mp last]
          exact vouches
    · exact ⟨packets, all, vouched⟩

/-- A packet of the user who is logged in. -/
theorem vouches (contained : session.Contained) {packet : Packet} {type : MessageType}
    (asked : requested type = true) (same : packet.type = type.code)
    (entered : session.loggedIn = true) (sender : packet.senderName = wireName session.username) :
    session.Vouches packet :=
  ⟨type, asked, same, .inr (.inr ⟨_, contained.user entered, sender⟩)⟩

/-- A request. -/
theorem asks (contained : session.Contained) {queues : Prop} (asks : Asks session queues session') :
    session'.Contained := by
  cases asks with
  | nothing => exact contained
  | told notice => exact contained.send notice
  | sent request opened encoded origin =>
    obtain ⟨packet, rfl, type, sender⟩ := Request.wire_of_encoded encoded
    have queued : (session.queue request.pending).Contained :=
      contained.quiet List.prefix_rfl rfl rfl fun _ => rfl
    apply queued.write
    rcases origin with ⟨register | login, _⟩ | ⟨entered, own⟩
    · exact ⟨request.type, request.requested, type, .inl register⟩
    · exact ⟨request.type, request.requested, type, .inr (.inl login)⟩
    · exact queued.vouches request.requested type entered (sender.trans (congrArg wireName own))
  | unsent request notice queued cannot origin =>
    exact contained.quiet (List.prefix_append _ _) rfl rfl fun _ => rfl

/-- The connection is closed, with a logout or without one. -/
theorem closeTcp (contained : session.Contained) (sendLogout : Bool) :
    (session.closeTcp sendLogout).Contained where
  user entered := by
    obtain ⟨sockets, same⟩ := session.closeTcp_eq sendLogout
    rw [same] at entered ⊢
    exact contained.user entered
  written other := by
    have notices : (session.closeTcp sendLogout).notices = session.notices := by
      obtain ⟨sockets, same⟩ := session.closeTcp_eq sendLogout
      rw [same]
    have later {packet : Packet} (vouches : session.Vouches packet) :
        (session.closeTcp sendLogout).Vouches packet :=
      vouches.later (notices ▸ List.prefix_rfl)
    obtain ⟨packets, all, vouched⟩ := contained.written other
    rcases session.closeTcp_written sendLogout other with
      same | ⟨_, _, entered, bytes, encoded, written⟩
    · exact ⟨packets, same.trans all, fun packet inside => later (vouched packet inside)⟩
    · obtain ⟨senderFits, receiverFits, dataFits⟩ := encodePacket_ok encoded
      obtain ⟨packet, wired, type, sender, _⟩ :=
        encodePacket_wire MessageType.msgLogout.code senderFits receiverFits dataFits
      rw [wired, Except.ok.injEq] at encoded
      refine ⟨packets ++ [packet], ?_, fun each inside => ?_⟩
      · rw [written, all, ← encoded, List.map_append, List.map_singleton]
      · apply later
        rcases List.mem_append.mp inside with before | last
        · exact vouched each before
        · rw [List.mem_singleton.mp last]
          exact contained.vouches (show requested .msgLogout = true from rfl) type entered sender

/-- A reply: only the one that accepts a login makes somebody the user. -/
theorem handleCommandResponse (contained : session.Contained) (packet : ReceivedPacket) :
    (session.handleCommandResponse packet).Contained := by
  have since (notice : Notice) : session.notices <+: session.notices ++ [notice] :=
    List.prefix_append _ _
  unfold ClientSession.handleCommandResponse
  cases session.pendingResponses.head? with
  | none => exact contained.quiet (since _) rfl rfl fun _ => rfl
  | some pending =>
    cases pending with
    | auth action username =>
      dsimp only
      split
      · rename_i accepted
        obtain ⟨ok, rfl⟩ := accepted
        refine contained.keep (since _) (fun _ => .inr ⟨packetText packet, ?_⟩) fun _ => .inl rfl
        change _ ∈ session.notices ++ [_]
        rw [decide_eq_true ok]
        exact List.mem_append_right _ (List.mem_singleton_self _)
      · exact contained.quiet (since _) rfl rfl fun _ => rfl
    | status action =>
      cases action with
      | logout =>
        apply closeTcp
        exact contained.keep (since _) (fun entered => by contradiction) fun _ => .inl rfl
      | _ => exact contained.quiet (since _) rfl rfl fun _ => rfl

/-- A group is known. -/
theorem setGroup (contained : session.Contained) (group : Group) : (session.setGroup group).Contained :=
  contained.quiet List.prefix_rfl rfl rfl fun _ => rfl

/-- Some groups are known. -/
theorem setGroups (contained : session.Contained) (groups : List Group) :
    (groups.foldl ClientSession.setGroup session).Contained := by
  obtain ⟨groupsById, same⟩ := foldl_setGroup_eq session groups
  rw [same]
  exact contained.quiet List.prefix_rfl rfl rfl fun _ => rfl

/-- Other packets. -/
theorem handlePacket (contained : session.Contained) {packet : ReceivedPacket}
    (handled : session.handlePacket packet = some session') : session'.Contained := by
  have told {later : ClientSession} (keeps : later.Contained) (same : some later = some session') :
      session'.Contained := Option.some.inj same ▸ keeps
  unfold ClientSession.handlePacket at handled
  split at handled
  · exact told (contained.handleCommandResponse packet) handled
  · exact told (contained.handleCommandResponse packet) handled
  · exact told (contained.send _) handled
  · exact told (contained.send _) handled
  · exact told (contained.send _) handled
  · obtain ⟨groups, _, handled⟩ := Option.bind_eq_some_iff.mp handled
    have none : ({ session with groupsById := [] } : ClientSession).Contained :=
      contained.quiet List.prefix_rfl rfl rfl fun _ => rfl
    exact told ((none.setGroups groups).send _) handled
  · obtain ⟨⟨event, group⟩, _, handled⟩ := Option.bind_eq_some_iff.mp handled
    exact told ((contained.setGroup group).send _) handled
  · obtain ⟨⟨groupId, groupName, text⟩, _, handled⟩ := Option.bind_eq_some_iff.mp handled
    exact told ((contained.setGroup _).send _) handled
  · refine told ?_ handled
    unfold ClientSession.handleIncomingFileBegin
    split
    · exact contained.send _
    · split
      · exact contained.send _
      · exact contained.quiet (List.prefix_append _ _) rfl rfl fun _ => rfl
  · refine told ?_ handled
    unfold ClientSession.handleIncomingFileChunk
    split
    · exact contained
    · exact contained.quiet (List.prefix_append _ _) rfl rfl fun _ => rfl
  · refine told ?_ handled
    unfold ClientSession.handleIncomingFileEnd
    split
    · exact contained
    · dsimp only
      split
      · exact contained.quiet (List.prefix_append _ _) rfl rfl fun _ => rfl
      · exact contained.quiet (List.prefix_append _ _) rfl rfl fun _ => rfl
  · exact told (contained.send _) handled

/-- All packets of a chunk. -/
theorem handlePackets (contained : session.Contained) {packets : List ReceivedPacket}
    (handled : (session.handlePackets packets).2 = some session') : session'.Contained := by
  induction packets generalizing session with
  | nil =>
    cases handled
    exact contained
  | cons packet packets ih =>
    rw [handlePackets_cons] at handled
    cases first : session.handlePacket packet with
    | none =>
      rw [first] at handled
      contradiction
    | some middle =>
      rw [first] at handled
      exact ih (contained.handlePacket first) handled

/-- A chunk. -/
theorem handleTcpData (contained : session.Contained) {chunk : List UInt8}
    (handled : (session.handleTcpData chunk).2 = some session') : session'.Contained := by
  unfold ClientSession.handleTcpData at handled
  split at handled
  · cases handled
    apply closeTcp
    exact contained.quiet (List.prefix_append _ _) rfl rfl fun _ => rfl
  · have kept : ({ session with tcpDecoder := ‹PacketDecoder› } : ClientSession).Contained :=
      contained.quiet List.prefix_rfl rfl rfl fun _ => rfl
    exact kept.handlePackets handled

/-- A connection is created. -/
theorem createConnection (contained : session.Contained) (config : Config) :
    (session.createConnection config).1.Contained := by
  refine contained.keep List.prefix_rfl (fun entered => .inl ⟨entered, rfl⟩) fun socket => ?_
  unfold ClientSession.createConnection
  dsimp only
  by_cases new : socket = session.created
  · rw [new, Function.update_self]
    exact .inr rfl
  · rw [Function.update_of_ne new]
    exact .inl rfl

/-- A socket changes in what is not written to it. -/
theorem updateSocket (contained : session.Contained) (socket : Nat) {change : Socket → Socket}
    (same : ∀ record, (change record).written = record.written) :
    (session.updateSocket socket change).Contained :=
  contained.quiet List.prefix_rfl rfl rfl (updateSocket_written session socket same)

/-- The connection of the session is gone. -/
theorem onClose (contained : session.Contained) (socket : Nat) : (session.onClose socket).Contained := by
  unfold ClientSession.onClose
  split
  · exact contained
  dsimp only
  split
  · exact contained.quiet List.prefix_rfl rfl rfl fun _ => rfl
  have left : ({ session with
      tcpSocket := none, tcpConfig := none, pendingResponses := [], loggedIn := false,
      username := [], groupsById := [] } : ClientSession).Contained :=
    contained.keep List.prefix_rfl (fun entered => by contradiction) fun _ => .inl rfl
  split
  · exact left.send _
  · split
    · exact left.send _
    · exact left.send _

end Contained

end ClientSession

/-! ## Runs -/

section

variable {settings : Settings} {gateway gateway' : Gateway}

/-- A step of a session. -/
theorem Gateway.Moves.contained {happening : Happening} (moves : Moves gateway happening gateway')
    (contained : gateway.session.Contained) : gateway'.session.Contained := by
  cases moves with
  | asked asks => exact contained.asks asks
  | withdrew withdraws message =>
    exact contained.quiet (List.prefix_append _ _) rfl rfl fun _ => rfl
  | disconnected => exact (contained.closeTcp true).send _
  | loggedOut closed =>
    dsimp only
    unfold ClientSession.logout
    rw [if_neg closed]
    apply ClientSession.Contained.send
    apply ClientSession.Contained.closeTcp
    exact contained.keep List.prefix_rfl (fun entered => by contradiction) fun _ => .inl rfl
  | waits valid target =>
    unfold ensureTcp
    split
    · exact contained
    · exact (contained.closeTcp false).createConnection _
  | left =>
    apply ClientSession.Contained.closeTcp
    exact contained.quiet List.prefix_rfl rfl rfl fun _ => rfl
  | @connected socket created waiting live =>
    have opened : (gateway.session.updateSocket socket fun record =>
        { record with settled := true, connected := true }).Contained :=
      contained.updateSocket _ (by intro _; rfl)
    exact opened.quiet (List.prefix_append _ _) rfl rfl fun _ => rfl
  | @lost socket created =>
    have gone : (gateway.session.destroy socket).Contained :=
      contained.updateSocket _ (by intro _; rfl)
    exact gone
  | @failed socket message created =>
    have settled : (gateway.session.updateSocket socket fun record =>
        { record with settled := true }).Contained := contained.updateSocket _ (by intro _; rfl)
    exact settled
  | broken =>
    dsimp only
    unfold ClientSession.onError
    split
    · exact contained
    · exact contained.send _
  | @closed socket created destroyed =>
    have shut : (gateway.session.updateSocket socket fun record =>
        { record with closed := true }).Contained := contained.updateSocket _ (by intro _; rfl)
    exact shut.onClose _
  | delivered connected live handled => exact contained.handleTcpData handled
  | ended found asks => exact contained.asks asks
  | gaveUp member message => exact contained
  | retried member => exact contained.createConnection _

/-- A session that has been accepted. -/
theorem accepted_contained : Gateway.accepted.session.Contained where
  user entered := by contradiction
  written socket := ⟨[], rfl, by simp⟩

/-- Everything that is written is contained. -/
theorem RawReachable.contained (reached : RawReachable settings gateway) :
    (∀ call ∈ gateway.calls, call.purpose.Valid) ∧ gateway.session.Contained := by
  refine Reachable.invariant (fun gateway : Gateway =>
    (∀ call ∈ gateway.calls, call.purpose.Valid) ∧ gateway.session.Contained) ?_ ?_ reached
  · rintro _ rfl
    exact ⟨fun call member => absurd member List.not_mem_nil, accepted_contained⟩
  · rintro gateway event gateway' _ ⟨valid, contained⟩ taken
    cases event with
    | message raw =>
      obtain ⟨_, read⟩ := Option.ite_none_left_eq_some.mp taken
      cases handleRaw_reads read with
      | acts action =>
        have moves := gateway.handleMessage_moves action
        exact ⟨moves.calls valid, moves.contained contained⟩
      | refuses purpose message own =>
        refine ⟨fun call member => ?_, contained.closeTcp false⟩
        rcases List.mem_append.mp member with old | new
        · exact valid call old
        · rw [List.mem_singleton.mp new]
          exact own
      | tells notice => exact ⟨valid, contained.send notice⟩
      | ignores => exact ⟨valid, contained⟩
    | other happening =>
      obtain ⟨_, stepped⟩ := Option.ite_none_left_eq_some.mp taken
      have moves := step_moves valid stepped
      exact ⟨moves.calls valid, moves.contained contained⟩

/-- Whatever comes over the WebSocket and from the chat server: on each connection a session has
written whole packets, which the chat server reads one after the other, of the kinds that clients ask
with, and each one that is neither a registration nor a login is sent under a name whose login the
browser has been told to be accepted. -/
theorem raw_contained (reached : RawReachable settings gateway) (socket : Nat) :
    ∃ packets : List Packet,
      (gateway.session.sockets socket).written = packets.map wire ∧
        recvPackets packets.length (gateway.session.sockets socket).written.flatten =
          some (packets, []) ∧
        ∀ packet ∈ packets, gateway.session.Vouches packet := by
  obtain ⟨packets, all, vouched⟩ := reached.contained.2.written socket
  refine ⟨packets, all, ?_, vouched⟩
  have read := recvPackets_wires packets []
  rw [List.append_nil] at read
  rw [all]
  exact read

end

/-! ## A run -/

/-- The bytes of a message of the page. -/
def requestBytes (request : PageRequest) : List UInt8 := Utf8.encode request.json.stringify

/-- The reply of the chat server to a login that it accepts. -/
def acceptance : List UInt8 :=
  match encodePacket MessageType.msgOk.code (literal "server") [] (Utf8.encode (literal "hi")) with
  | .ok bytes => bytes
  | .error _ => []

/-- Bytes that are no text, a text that comes too early, a login, and the text again. -/
def rawTraffic : List RawEvent :=
  [.message [0x7b, 0xff], .message (requestBytes (.sendPrivate (literal "v") (literal "hi"))),
    .message (requestBytes (.auth .login (literal "u") (literal "p"))), .other (.connect 0),
    .other (.resume 0 []), .other (.data 0 acceptance),
    .message (requestBytes (.sendPrivate (literal "v") (literal "hi")))]

/-- The traffic can happen. -/
theorem rawTraffic_returns : (rawTraffic.foldlM (rawStep {}) Gateway.accepted).isSome := by
  decide +kernel

/-- The session after it. -/
def rawGateway : Gateway := (rawTraffic.foldlM (rawStep {}) Gateway.accepted).get rawTraffic_returns

/-- The login and one text have been written. -/
theorem raw_contained_traffic : ∃ packets : List Packet, packets.length = 2 ∧
    recvPackets 2 (rawGateway.session.sockets 0).written.flatten = some (packets, []) ∧
      ∀ packet ∈ packets, rawGateway.session.Vouches packet := by
  have reached : RawReachable {} rawGateway :=
    Reachable.of_foldlM (.start rfl) (Option.some_get rawTraffic_returns).symm
  obtain ⟨packets, all, read, vouched⟩ := raw_contained reached 0
  have two : (rawGateway.session.sockets 0).written.length = 2 := by decide +kernel
  rw [all, List.length_map] at two
  rw [two] at read
  exact ⟨packets, two, read, vouched⟩

end MultiUserChat.Web
