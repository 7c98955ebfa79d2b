import MultiUserChat.Library.Utf8Scalar
import MultiUserChat.Verif.Addressable
import MultiUserChat.Verif.Conversations
import MultiUserChat.Verif.GroupTexts
import MultiUserChat.Verif.Mirror
/-!
# From one page to another

A private text on its way: the page writes it as JSON, its gateway reads that and writes a packet, the
server relays the packet, the gateway of the receiver decodes it from whatever chunks it arrives in,
and the other page lists the message. At the end it is the text that was typed
(`privateText_delivered`).
-/

namespace MultiUserChat

open Program

/-! ## The server -/

section

variable [Sha256] {outcomes : Nat → Outcome} {machine : ServerMachine}

/-- A private message to a user who is online is relayed to the descriptor of its login, and
confirmed. -/
theorem served_private (wellFormed : machine.state.WellFormed) (success : SendsSucceed outcomes machine)
    {fd : Int} (connected : (machine.state.connectionAt fd).isSome) {packet : Packet}
    (type : packet.type = MessageType.msgPrivate.code)
    (online : machine.state.online packet.receiverName = true) : ∃ machine' reply,
      Served outcomes machine (.packet fd packet) machine' ∧
        deliveries machine machine' =
          [(machine.state.descriptorOf packet.receiverName, packet), (fd, reply)] ∧
        reply.type = MessageType.msgOk.code := by
  obtain ⟨⟨⟩, machine', ran⟩ := handler_returns outcomes (processPacket fd packet) wellFormed
  have served := served_packet.mpr ⟨connected, ran⟩
  rw [processPacket, type, MessageType.ofCode?_code] at ran
  unfold handlePrivate at ran
  simp only [perform_bind, done_bind, runs_perform, answer_userGetFd,
    (getFd_online wellFormed online).1] at ran
  set looked := machine.after (serverSemantics outcomes) (.userGetFd packet.receiverName)
  have later : SendsSucceed outcomes looked := success.later (extends_after machine _)
  simp only [answer_send, later.here, ↓reduceIte] at ran
  have sent := @deliveries_send _ _ _ (machine.state.descriptorOf packet.receiverName) packet
    (some packet.receiverName) later.here
  obtain ⟨_, reply, ok, answered⟩ := sendTextResponse_delivers (later.later (extends_after looked _))
    (by decide) ran
  refine ⟨machine', reply, served, ?_, ok⟩
  rw [deliveries_silent ((extends_after looked _).trans (extends_of_runs ran)) (by simp),
    deliveries_append (extends_after looked _) (extends_of_runs ran), sent, answered]
  rfl

end

namespace Web

open Page

/-! ## Chunks -/

/-- All that a session does with a packet is to learn of a group and to tell something. -/
def Tells (packet : Packet) (notice : Notice) : Prop :=
  ∀ session : ClientSession, ∃ groupsById, session.handlePacket (receivedFrom packet) =
    some (ClientSession.send { session with groupsById } notice)

namespace Gateway

variable {gateway : Gateway} {tcp : Nat}

/-- Some chunks arrive on a socket. -/
def receive (gateway : Gateway) (tcp : Nat) (chunks : List (List UInt8)) : Option Gateway :=
  chunks.foldlM (fun gateway chunk => gateway.step (.data tcp chunk)) gateway

/-- A socket has been connected and is there. -/
def Connected (gateway : Gateway) (tcp : Nat) : Prop :=
  (gateway.session.sockets tcp).connected = true ∧ (gateway.session.sockets tcp).destroyed = false

/-- A chunk arrives. -/
theorem Connected.data (connected : gateway.Connected tcp) (chunk : List UInt8) :
    gateway.step (.data tcp chunk) =
      (gateway.session.handleTcpData chunk).2.map fun session => { gateway with session } := by
  unfold Gateway.step
  dsimp only
  rw [if_pos (by simp [connected.1, connected.2])]

/-- Part of a packet is kept. -/
theorem Connected.part (connected : gateway.Connected tcp) {chunk : List UInt8}
    (cut : packetCut (gateway.session.tcpDecoder.buffer ++ chunk) = .more) :
    gateway.step (.data tcp chunk) =
      some { gateway with session := { gateway.session with
        tcpDecoder := ⟨gateway.session.tcpDecoder.buffer ++ chunk⟩ } } := by
  have decoded := decode_wires [] cut
  rw [List.flatMap_nil, List.nil_append] at decoded
  rw [connected.data, (ClientSession.handleTcpData_accepted (by rw [decoded])).2, decoded]
  rfl

/-- The last packet is complete, and the session has told something and knows some groups. -/
def telling (gateway : Gateway) (groupsById : List (Text × Group)) (notice : Notice) : Gateway :=
  { gateway with
    session := ClientSession.send { gateway.session with tcpDecoder := ⟨[]⟩, groupsById } notice }

/-- The end of a packet of which a session tells something. -/
theorem Connected.whole (connected : gateway.Connected tcp) {chunk : List UInt8} {packet : Packet}
    (whole : gateway.session.tcpDecoder.buffer ++ chunk = wire packet) {notice : Notice}
    (tells : Tells packet notice) :
    ∃ groupsById, gateway.step (.data tcp chunk) = some (gateway.telling groupsById notice) := by
  obtain ⟨groupsById, told⟩ := tells { gateway.session with tcpDecoder := ⟨[]⟩ }
  have decoded := decode_wires [packet] (show packetCut [] = .more from rfl)
  rw [List.flatMap_singleton, List.append_nil, ← whole] at decoded
  refine ⟨groupsById, ?_⟩
  rw [connected.data, (ClientSession.handleTcpData_accepted (by rw [decoded])).2, decoded]
  change Option.map _ (ClientSession.handlePackets _ [packetOfFrame (wire packet)]).2 = _
  rw [packetOfFrame_eq, ClientSession.handlePackets, told]
  rfl

/-- Nothing arrives. -/
theorem Connected.nothing {chunks : List (List UInt8)} (connected : gateway.Connected tcp)
    (empty : gateway.session.tcpDecoder = ⟨[]⟩) (none : chunks.flatten = []) :
    gateway.receive tcp chunks = some gateway := by
  induction chunks with
  | nil => rfl
  | cons chunk chunks ih =>
    rw [List.flatten_cons, List.append_eq_nil_iff] at none
    obtain ⟨rfl, none⟩ := none
    have first := @Connected.part gateway tcp connected [] (by rw [empty]; rfl)
    have same : ({ gateway with session := { gateway.session with
        tcpDecoder := ⟨gateway.session.tcpDecoder.buffer ++ []⟩ } } : Gateway) = gateway := by
      rw [empty]
      exact congrArg (fun decoder => { gateway with session := { gateway.session with
        tcpDecoder := decoder } }) empty.symm
    rw [same] at first
    rw [receive, List.foldlM_cons, first]
    exact ih none

/-- However a packet is cut into chunks, the session tells once what it says. -/
theorem Connected.receive {chunks : List (List UInt8)} {packet : Packet}
    (connected : gateway.Connected tcp)
    (whole : gateway.session.tcpDecoder.buffer ++ chunks.flatten = wire packet)
    (more : gateway.session.tcpDecoder.buffer ≠ wire packet) {notice : Notice}
    (tells : Tells packet notice) :
    ∃ groupsById, gateway.receive tcp chunks = some (gateway.telling groupsById notice) := by
  induction chunks generalizing gateway with
  | nil =>
    rw [List.flatten_nil, List.append_nil] at whole
    exact absurd whole more
  | cons chunk chunks ih =>
    rw [List.flatten_cons, ← List.append_assoc] at whole
    rw [Gateway.receive, List.foldlM_cons]
    by_cases complete : gateway.session.tcpDecoder.buffer ++ chunk = wire packet
    · obtain ⟨groupsById, told⟩ := connected.whole complete tells
      rw [told]
      have none : chunks.flatten = [] := by
        rw [complete] at whole
        exact List.append_right_eq_self.mp whole
      exact ⟨groupsById, @Connected.nothing (gateway.telling groupsById notice) tcp _ connected rfl none⟩
    · have start : gateway.session.tcpDecoder.buffer ++ chunk <+: wire packet := ⟨_, whole⟩
      have short : (gateway.session.tcpDecoder.buffer ++ chunk).length < (wire packet).length := by
        refine lt_of_le_of_ne start.length_le fun same => ?_
        exact complete (start.eq_of_length same)
      rw [connected.part (packetCut_part start short)]
      exact ih connected whole complete

end Gateway

/-! ## Packets of private messages -/

/-- A session that receives a private message tells the browser its names and its text. -/
theorem handlePacket_private {packet : Packet} {sender receiver text : Text}
    (type : packet.type = MessageType.msgPrivate.code) (written : WrittenAs packet sender receiver text)
    (nulFree : 0 ∉ sender) (content : 0 ∉ text)
    (scalars : ∀ point ∈ sender, Utf8.Scalar point) (whole : ∀ point ∈ text, Utf8.Scalar point) :
    ∃ shown, Tells packet (.chatMessage "private" sender shown text) := by
  refine ⟨(receivedFrom packet).receiver, fun session => ⟨session.groupsById, ?_⟩⟩
  have kind : MessageType.ofCode? (receivedFrom packet).type = some .msgPrivate := by
    change MessageType.ofCode? packet.type = _
    rw [type, MessageType.ofCode?_code]
  have own : (receivedFrom packet).sender = sender := by
    have bytes : packet.senderName.bytes = Utf8.encode sender := by
      rw [written.sender]
      exact ofBytes_encode_iff.mpr nulFree
    change Utf8.decode packet.senderName.bytes = sender
    rw [bytes, Utf8.decode_encode_of_scalar scalars]
  have said : (receivedFrom packet).text = text := by
    have read := (written.packetText_iff content).mpr whole
    rw [packetOfFrame_eq] at read
    exact read
  rw [ClientSession.handlePacket, kind]
  dsimp only
  rw [own, said]

/-- A session that receives a group message knows the group from then on. -/
theorem handlePacket_group {packet : Packet} {groupId groupName text : Text}
    (type : packet.type = MessageType.msgGroupMessage.code)
    (decoded : decodeGroupMessagePayload packet.payload = some (groupId, groupName, text)) :
    Tells packet (.groupChatMessage groupId groupName (textOf packet.senderName) text) := by
  intro session
  have kind : MessageType.ofCode? (receivedFrom packet).type = some .msgGroupMessage := by
    change MessageType.ofCode? packet.type = _
    rw [type, MessageType.ofCode?_code]
  have read : decodeGroupMessagePayload (receivedFrom packet).data =
      some (groupId, groupName, text) := decoded
  rw [ClientSession.handlePacket, kind]
  dsimp only
  rw [read]
  exact ⟨_, rfl⟩

/-- A message is added to its conversation. -/
theorem Page.receiveChat_conversations [Browser] (page : Page) (conversation : Conversation)
    (sender text : Text) :
    (page.receiveChat conversation sender text).conversations (conversationKey conversation) =
      page.conversations (conversationKey conversation) ++
        [⟨page.now, if sender = page.currentUsername then .outgoing else .incoming, sender,
          .text text⟩] := by
  have listed := congrArg Correspondence.conversations
    (page.receiveChat_correspondence conversation sender text)
  exact (congrFun listed _).trans (Function.update_self _ _ _)

/-! ## Sites -/

namespace Site

variable [Browser] {settings : Settings} {site : Site} {ws tcp : Nat}

/-- Some events. -/
def run (settings : Settings) (site : Site) (events : List SiteEvent) : Option Site :=
  events.foldlM (step settings) site

/-- A user of the page is logged in, and the session has read all requests. -/
structure Chatting (site : Site) (ws tcp : Nat) : Prop where
  /-- Requests go over this WebSocket. -/
  live : site.page.liveSocket = some ws
  /-- It is open. -/
  opened : (site.page.sockets ws).readyState = .opened
  /-- All requests have been read. -/
  read : site.handled ws = (site.page.sockets ws).sent.length
  /-- The other side of it is there. -/
  there : (site.gateways ws).session.closing = false
  /-- Its user is logged in on an open connection. -/
  ready : (site.gateways ws).session.Ready tcp

/-- The page has read all notices of a session, which is connected and waits for a packet. -/
structure Listening (site : Site) (ws tcp : Nat) : Prop where
  /-- The WebSocket has been created. -/
  created : ws < site.page.created
  /-- It is open. -/
  opened : (site.page.sockets ws).readyState = .opened
  /-- All notices have been read. -/
  shown : site.shown ws = (site.gateways ws).session.notices.length
  /-- The session is connected. -/
  connected : (site.gateways ws).Connected tcp
  /-- The last packet was complete. -/
  whole : (site.gateways ws).session.tcpDecoder.buffer = []

omit [Browser] in
/-- A session that has gone on. -/
theorem updateGateway_gateways (gateway : Gateway) :
    (site.updateGateway ws gateway).gateways ws = gateway := Function.update_self _ _ _

/-- A session's events are none of the page. -/
theorem run_gateway {happenings : List Happening} (created : ws < site.page.created)
    (own : ∀ happening ∈ happenings, happening.isBrowser = false) :
    site.run settings (happenings.map (.gateway ws)) =
      (happenings.foldlM Gateway.step (site.gateways ws)).map (site.updateGateway ws) := by
  induction happenings generalizing site with
  | nil =>
    have same : site.updateGateway ws (site.gateways ws) = site := by
      rw [updateGateway, Function.update_eq_self]
    rw [List.map_nil, List.foldlM_nil, Option.pure_def, Option.map_some, same]
    rfl
  | cons happening happenings ih =>
    have first := own happening List.mem_cons_self
    have others := fun other inside => own other (List.mem_cons_of_mem _ inside)
    have stepped : site.step settings (.gateway ws happening) =
        ((site.gateways ws).step happening).map (site.updateGateway ws) := by
      rw [step, if_neg (by simp [first, created])]
    rw [List.map_cons, run, List.foldlM_cons, stepped, List.foldlM_cons]
    cases (site.gateways ws).step happening with
    | none => rfl
    | some gateway =>
      have later := @ih (site.updateGateway ws gateway) created others
      rw [updateGateway_gateways] at later
      refine later.trans ?_
      change Option.map _ _ = Option.map _ (happenings.foldlM Gateway.step gateway)
      congr 1
      funext last
      rw [updateGateway, updateGateway, updateGateway]
      exact congrArg (fun gateways => { site with gateways }) (Function.update_idem _ _ _)

/-- The bytes of a packet arrive, and the page reads what the session tells of it. -/
theorem Listening.reads (listening : site.Listening ws tcp) {chunks : List (List UInt8)}
    {packet : Packet} (whole : chunks.flatten = wire packet) {notice : Notice}
    (tells : Tells packet notice) :
    ∃ site', site.run settings
        (chunks.map (fun chunk => .gateway ws (.data tcp chunk)) ++ [.notice ws]) = some site' ∧
      site'.page = site.page.handleGatewayMessage notice := by
  have empty := listening.whole
  have more : (site.gateways ws).session.tcpDecoder.buffer ≠ wire packet := by
    intro same
    have frame := packetCut_wire packet []
    rw [List.append_nil, ← same, empty] at frame
    contradiction
  obtain ⟨groupsById, arrived⟩ :=
    listening.connected.receive (by rw [empty, List.nil_append, whole]) more tells
  set site' := site.updateGateway ws ((site.gateways ws).telling groupsById notice)
  have received : site.run settings (chunks.map fun chunk => .gateway ws (.data tcp chunk)) =
      some site' := by
    have ran := @run_gateway _ settings site ws (chunks.map fun chunk => .data tcp chunk)
      listening.created (by simp [Happening.isBrowser])
    rw [List.map_map, List.foldlM_map] at ran
    rw [Gateway.receive] at arrived
    exact ran.trans (by rw [arrived]; rfl)
  have next : (site'.gateways ws).session.notices[site.shown ws]? = some notice := by
    have here : (site'.gateways ws).session.notices =
        (site.gateways ws).session.notices ++ [notice] := by
      rw [updateGateway_gateways]
      rfl
    rw [here, listening.shown]
    exact List.getElem?_concat_length
  have page : site.page.step (.message ws notice) = some (site.page.handleGatewayMessage notice) :=
    if_pos ⟨listening.created, listening.opened⟩
  have read : site'.step settings (.notice ws) = some
      { site' with
        page := site.page.handleGatewayMessage notice
        shown := Function.update site.shown ws (site.shown ws + 1) } := by
    change ((site'.gateways ws).session.notices[site.shown ws]?).bind (fun notice =>
      (site.page.step (.message ws notice)).bind _) = _
    rw [next, Option.bind_some, page]
    rfl
  have ran : site.run settings
      (chunks.map (fun chunk => .gateway ws (.data tcp chunk)) ++ [.notice ws]) =
        site'.step settings (.notice ws) := by
    rw [run] at received
    rw [run, List.foldlM_append, received]
    simp
  exact ⟨_, ran.trans read, rfl⟩

/-- The user submits the composer, and the session reads the request. -/
theorem Chatting.submits (chatting : site.Chatting ws tcp) {request : PageRequest}
    (sockets : site.page.submitComposer.sockets = (site.page.send request).sockets)
    (writable : request.Writable) {action : Action} (asked : request.action = some action) :
    ∃ site', site.run settings [.page .submit, .request ws] = some site' ∧
      site'.page = site.page.submitComposer ∧
      site'.gateways ws = (site.gateways ws).handleMessage action := by
  have sent : site.page.submitComposer.sockets =
      Function.update site.page.sockets ws ((site.page.sockets ws).submitAll [request]) :=
    sockets.trans (congrArg Page.sockets (Page.sendAll_live chatting.live [request]))
  have next : (site.page.submitComposer.sockets ws).sent[site.handled ws]? = some request := by
    rw [sent, Function.update_self, PageSocket.submitAll, if_pos chatting.opened, chatting.read]
    exact List.getElem?_concat_length
  have handled := handleRaw_request settings (site.gateways ws) writable
  rw [asked] at handled
  refine ⟨{ ({ site with page := site.page.submitComposer } : Site).updateGateway ws
    ((site.gateways ws).handleMessage action) with
      handled := Function.update site.handled ws (site.handled ws + 1) }, ?_, rfl,
    updateGateway_gateways _⟩
  have first : site.step settings (.page .submit) =
      some { site with page := site.page.submitComposer } := rfl
  rw [run, List.foldlM_cons, first]
  change ((site.page.submitComposer.sockets ws).sent[site.handled ws]?).bind _ >>= _ = _
  rw [next, Option.bind_some, if_neg (by simp [chatting.there])]
  change (((site.gateways ws).handleRaw settings (Utf8.encode request.json.stringify)).bind _) >>=
    _ = _
  rw [handled]
  rfl

/-- A private text is listed, and goes to the server as a packet. -/
theorem Chatting.sends (chatting : site.Chatting ws tcp) {peer text : Text}
    (composed : site.page.composed = some (.sendPrivate peer text))
    (peerPaired : Utf16.Paired peer) (textPaired : Utf16.Paired text)
    (addressed : validatePeerName (trim peer) = none) (accepted : validateText text = none) :
    ∃ site' packet, site.run settings [.page .submit, .request ws] = some site' ∧
      site'.page.conversations (friendKey peer) = site.page.conversations (friendKey peer) ++
        [⟨site.page.now, .outgoing, [], .text text⟩] ∧
      ((site'.gateways ws).session.sockets tcp).written =
        ((site.gateways ws).session.sockets tcp).written ++ [wire packet] ∧
      packet.type = MessageType.msgPrivate.code ∧
      WrittenAs packet (site.gateways ws).session.username (trim peer) text := by
  have listed := submitComposer_private composed
  have writable : (PageRequest.sendPrivate peer text).Writable := by
    refine ⟨fun given inside => ?_, Nat.two_pow_pos 53⟩
    simp only [PageRequest.texts, List.mem_cons, List.not_mem_nil, or_false] at inside
    rcases inside with rfl | rfl
    · exact peerPaired
    · exact textPaired
  obtain ⟨site', ran, page, gateway⟩ :=
    @Chatting.submits _ settings site ws tcp chatting _ (congrArg Correspondence.sockets listed)
      writable _ rfl
  obtain ⟨packet, ⟨written, type⟩, texts⟩ := handlePrivate_writes chatting.ready addressed accepted
  refine ⟨site', packet, ran, ?_, ?_, type, texts⟩
  · have conversations := congrArg Correspondence.conversations listed
    obtain ⟨ws', created, sockets, same⟩ := site.page.send_eq (.sendPrivate peer text)
    rw [page]
    refine (congrFun conversations (friendKey peer)).trans ?_
    rw [same]
    exact Function.update_self _ _ _
  · rw [gateway]
    exact written

/-- A text for a group goes to the server as a packet, and is not listed yet. -/
theorem Chatting.sendsGroup (chatting : site.Chatting ws tcp) {groupId text : Text}
    (composed : site.page.composed = some (.sendGroupMessage groupId text))
    (idPaired : Utf16.Paired groupId) (textPaired : Utf16.Paired text)
    (accepted : validateText text = none) (fits : byteLength (trim groupId) < usernameMaxLen)
    {payload : List UInt8} (encoded : encodeGroupMessagePayload (trim groupId) text = .ok payload) :
    ∃ site' packet, site.run settings [.page .submit, .request ws] = some site' ∧
      site'.page.conversations = site.page.conversations ∧
      ((site'.gateways ws).session.sockets tcp).written =
        ((site.gateways ws).session.sockets tcp).written ++ [wire packet] ∧
      packet.type = MessageType.msgGroupMessage.code ∧
      packet.receiverName = wireName (trim groupId) ∧ packet.payload = payload := by
  have listed := submitComposer_group composed
  have writable : (PageRequest.sendGroupMessage groupId text).Writable := by
    refine ⟨fun given inside => ?_, Nat.two_pow_pos 53⟩
    simp only [PageRequest.texts, List.mem_cons, List.not_mem_nil, or_false] at inside
    rcases inside with rfl | rfl
    · exact idPaired
    · exact textPaired
  obtain ⟨site', ran, page, gateway⟩ :=
    @Chatting.submits _ settings site ws tcp chatting _ (congrArg Correspondence.sockets listed)
      writable _ rfl
  obtain ⟨packet, ⟨written, type⟩, receiver, data⟩ :=
    handleGroupMessage_writes chatting.ready accepted fits encoded
  refine ⟨site', packet, ran, ?_, ?_, type, receiver, data⟩
  · obtain ⟨ws', created, sockets, same⟩ := site.page.send_eq (.sendGroupMessage groupId text)
    rw [page]
    refine (congrArg Correspondence.conversations listed).trans ?_
    rw [same]
    rfl
  · rw [gateway]
    exact written

end Site

/-- A private text that the user of one page sends to a user who is online arrives as it is: it is
listed with the sender, goes to the server as one packet, from there to the connection of the receiver
alone, and however the bytes are cut on the way, a page that reads what comes over this connection
lists the text in the conversation with the sender. -/
theorem privateText_delivered [Sha256] [Browser] {settings : Settings} {outcomes : Nat → Outcome}
    {site : Site} {ws tcp : Nat} (chatting : site.Chatting ws tcp)
    (nulFree : 0 ∉ (site.gateways ws).session.username)
    (readable : ∀ point ∈ (site.gateways ws).session.username, Utf8.Scalar point)
    {peer text : Text} (composed : site.page.composed = some (.sendPrivate peer text))
    (accepted : validateText text = none) (content : 0 ∉ text)
    (scalars : ∀ point ∈ text, Utf8.Scalar point)
    {name : CString} (shows_ : Shows peer name) (trimmed : trim peer = peer)
    {machine : ServerMachine} (reached : ServerReachable outcomes machine)
    (success : SendsSucceed outcomes machine) {fd : Int}
    (connected : (machine.state.connectionAt fd).isSome)
    (online : machine.state.online name = true) : ∃ site' packet machine' reply,
      site.run settings [.page .submit, .request ws] = some site' ∧
        site'.page.conversations (friendKey peer) = site.page.conversations (friendKey peer) ++
          [⟨site.page.now, .outgoing, [], .text text⟩] ∧
        ((site'.gateways ws).session.sockets tcp).written =
          ((site.gateways ws).session.sockets tcp).written ++ [wire packet] ∧
        (∀ rest, recvPacket (wire packet ++ rest) = some (packet, rest)) ∧
        MultiUserChat.Served outcomes machine (.packet fd packet) machine' ∧
        deliveries machine machine' = [(machine.state.descriptorOf name, packet), (fd, reply)] ∧
        reply.type = MessageType.msgOk.code ∧
        machine.state.LoggedIn (machine.state.descriptorOf name) name ∧
        ∀ (other : Site) (ws' tcp' : Nat) (chunks : List (List UInt8)), other.Listening ws' tcp' →
          chunks.flatten = wire packet → ∃ other',
            other.run settings
                (chunks.map (fun chunk => .gateway ws' (.data tcp' chunk)) ++ [.notice ws']) =
              some other' ∧
            other'.page.conversations (friendKey (site.gateways ws).session.username) =
              other.page.conversations (friendKey (site.gateways ws).session.username) ++
                [⟨other.page.now,
                  if (site.gateways ws).session.username = other.page.currentUsername then .outgoing
                  else .incoming,
                  (site.gateways ws).session.username, .text text⟩] := by
  have wellFormed := serverReachable_wellFormed reached
  have peerScalars : ∀ point ∈ peer, Utf8.Scalar point := by
    rw [← shows_.text]
    exact Utf8.decode_scalar _
  obtain ⟨site', packet, ran, listed, written, type, texts⟩ := @Site.Chatting.sends _ settings site
    ws tcp chatting peer text composed (Utf8.paired_of_scalar peerScalars)
    (Utf8.paired_of_scalar scalars) (trimmed.symm ▸ shows_.peer) accepted
  have receiver : packet.receiverName = name := by
    rw [texts.receiver, trimmed, shows_.written]
  obtain ⟨machine', reply, served, delivered, ok⟩ :=
    served_private wellFormed success connected type (receiver.symm ▸ online)
  rw [receiver] at delivered
  obtain ⟨shown, tells⟩ := handlePacket_private type texts nulFree content readable scalars
  refine ⟨site', packet, machine', reply, ran, listed, written, recvPacket_wire packet, served,
    delivered, ok, (getFd_online wellFormed online).2,
    fun other ws' tcp' chunks listening whole => ?_⟩
  obtain ⟨other', arrived, page⟩ := @Site.Listening.reads _ settings _ _ _ listening _ _ whole _ tells
  refine ⟨other', arrived, ?_⟩
  rw [page]
  exact other.page.receiveChat_conversations (other.page.friendConversation _) _ text

/-- A text that the user of one page sends to a group arrives as it is: it goes to the server as one
packet, from there to each member, the sender among them, and to nobody else, and however the bytes
are cut on the way, the page of a member lists the text in the conversation of the group. -/
theorem groupText_delivered [Sha256] [Browser] {settings : Settings} {outcomes : Nat → Outcome}
    {site : Site} {ws tcp : Nat} (chatting : site.Chatting ws tcp) {groupId text : Text}
    (composed : site.page.composed = some (.sendGroupMessage groupId text))
    (accepted : validateText text = none) (scalars : ∀ point ∈ text, Utf8.Scalar point)
    (readable : ∀ point ∈ groupId, Utf8.Scalar point) {payload : List UInt8}
    (encoded : encodeGroupMessagePayload (trim groupId) text = .ok payload)
    {machine : ServerMachine} (reached : ServerReachable outcomes machine)
    (success : SendsSucceed outcomes machine) {fd : Int}
    (connected : (machine.state.connectionAt fd).isSome) {username : CString}
    (session : userStoreUsernameByFd machine.state.users fd = some username)
    {group : GroupSnapshot} (named : wireName (trim groupId) = group.id.toCString)
    (listed : groupStoreGetSnapshot machine.state.groups group.id.toCString = .ok group)
    (member : username ∈ group.memberNames)
    (fits : group.id.length + group.name.length + byteLength text + 3 ≤ packetDataMax) :
    ∃ site' packet machine' message reply,
      site.run settings [.page .submit, .request ws] = some site' ∧
        site'.page.conversations = site.page.conversations ∧
        ((site'.gateways ws).session.sockets tcp).written =
          ((site.gateways ws).session.sockets tcp).written ++ [wire packet] ∧
        (∀ rest, recvPacket (wire packet ++ rest) = some (packet, rest)) ∧
        MultiUserChat.Served outcomes machine (.packet fd packet) machine' ∧
        deliveries machine machine' =
          group.memberNames.map (fun member => (machine.state.descriptorOf member, message)) ++
            [(fd, reply)] ∧
        reply.type = MessageType.msgOk.code ∧ group.memberNames.Nodup ∧
        (∀ member ∈ group.memberNames,
          machine.state.LoggedIn (machine.state.descriptorOf member) member) ∧
        ∀ (other : Site) (ws' tcp' : Nat) (chunks : List (List UInt8)), other.Listening ws' tcp' →
          chunks.flatten = wire message → ∃ other',
            other.run settings
                (chunks.map (fun chunk => .gateway ws' (.data tcp' chunk)) ++ [.notice ws']) =
              some other' ∧
            let conversation := groupConversation (trim groupId) (textOf group.name.toCString)
            other'.page.conversations (conversationKey conversation) =
              other.page.conversations (conversationKey conversation) ++
                [⟨other.page.now,
                  if textOf username = other.page.currentUsername then .outgoing else .incoming,
                  textOf username, .text text⟩] := by
  obtain ⟨_, plain, _, nulFree, content⟩ := encodeGroupMessagePayload_ok encoded
  obtain ⟨idLength, textLength, nonempty, _⟩ := accepted_read encoded
  have idFits := group.id.fits
  rw [← CString.length, ← named, idLength] at idFits
  obtain ⟨site', packet, ran, same, written, type, receiver, data⟩ := @Site.Chatting.sendsGroup _
    settings site ws tcp chatting groupId text composed (Utf8.paired_of_scalar readable)
    (Utf8.paired_of_scalar scalars) accepted idFits payload encoded
  rw [named] at receiver
  rw [← textLength] at fits
  obtain ⟨machine', processed, delivered⟩ := groupMessage_delivered reached success session
    (receiver.symm ▸ listed) member type (data.trans content) nonempty fits
  obtain ⟨distinct, own, message, reply, ⟨kind, sender, _, decoded⟩, ok, sent⟩ := delivered
  have texts : Utf8.decode group.id.bytes = trim groupId ∧
      Utf8.decode (CString.ofBytes packet.payload).bytes = text := by
    have trimmed : ∀ point ∈ trim groupId, Utf8.Scalar point :=
      fun point inside => readable point ((trim_inside groupId).subset inside)
    have idBytes : group.id.bytes = Utf8.encode (trim groupId) := by
      rw [← ofBytes_encode_iff.mpr plain]
      exact congrArg CString.bytes named.symm
    have textBytes : (CString.ofBytes packet.payload).bytes = Utf8.encode text := by
      rw [data, content, CString.terminated, CString.ofBytes_append_nul]
      exact ofBytes_encode_iff.mpr nulFree
    rw [idBytes, textBytes, Utf8.decode_encode_of_scalar trimmed, Utf8.decode_encode_of_scalar scalars]
    exact ⟨rfl, rfl⟩
  rw [texts.1, texts.2] at decoded
  have tells := handlePacket_group kind decoded
  rw [sender] at tells
  refine ⟨site', packet, machine', message, reply, ran, same, written, recvPacket_wire packet,
    served_packet.mpr ⟨connected, processed⟩, sent, ok, distinct, own,
    fun other ws' tcp' chunks listening whole => ?_⟩
  obtain ⟨other', arrived, page⟩ := @Site.Listening.reads _ settings _ _ _ listening _ _ whole _ tells
  refine ⟨other', arrived, ?_⟩
  rw [page]
  exact other.page.receiveChat_conversations (groupConversation _ _) _ text

/-! ## Texts -/

/-- A user opens the page and logs in. -/
def entering (name : String) : List SiteEvent :=
  [.page (.opened 0), .notice 0, .page (.typeAuth (literal name) (literal "p")),
    .page (.auth .login)] ++ pageEnters ++ [.request 0, .request 0, .request 0]

/-- The bytes of a packet of the server. -/
def serverBytes (type : MessageType) (fields : List String) : List UInt8 :=
  match encodePacket type.code (literal "server") [] (encodeFields (fields.map CString.ofString)) with
  | .ok bytes => bytes
  | .error _ => []

/-- One user types a text for another one, who is online. -/
def typing : List SiteEvent :=
  entering "ben" ++ [.gateway 0 (.data 0 (serverBytes .msgOnlineList ["ann\nben"])), .notice 0,
    .page (.pick 0), .page (.typeMessage (literal " hello "))]

/-- The text can be typed. -/
theorem typing_returns : (siteAfter (some ([], "")) typing).isSome := by decide +kernel

/-- The page of the one. -/
def typingSite : Site := (siteAfter (some ([], "")) typing).get typing_returns

/-- The same user types a text for a group of three. -/
def teamTyping : List SiteEvent :=
  entering "ben" ++ [.gateway 0 (.data 0 (serverBytes .msgGroupEvent
      ["created", "g000001", "team", "ann", "3", "ann", "ben", "cid"])), .notice 0,
    .page (.tab .groups), .page (.pick 0), .page (.typeMessage (literal "hello "))]

/-- The text for the group can be typed. -/
theorem teamTyping_returns : (siteAfter (some ([], "")) teamTyping).isSome := by decide +kernel

/-- The page of the member. -/
def teamSite : Site := (siteAfter (some ([], "")) teamTyping).get teamTyping_returns

/-- The other one logs in. -/
theorem entering_returns : (siteAfter (some ([], "")) (entering "ann")).isSome := by decide +kernel

/-- The page of the other one. -/
def waitingSite : Site := (siteAfter (some ([], "")) (entering "ann")).get entering_returns

/-- A request is composed, and the user is logged in. -/
def Site.Composed (site : Site) (request : PageRequest) : Prop :=
  (site.page.composed = some request ∧ site.page.liveSocket = some 0 ∧
      (site.page.sockets 0).readyState = .opened ∧
      site.handled 0 = (site.page.sockets 0).sent.length) ∧
    (site.gateways 0).session.closing = false ∧ (site.gateways 0).session.loggedIn = true ∧
      (site.gateways 0).session.username = literal "ben" ∧
      (site.gateways 0).session.openSocket = some 0

/-- The user of the page can submit it. -/
theorem Site.Composed.chatting {site : Site} {request : PageRequest} (ready : site.Composed request) :
    site.Chatting 0 0 := by
  obtain ⟨⟨_, live, opened, read⟩, there, entered, user, connection⟩ := ready
  refine ⟨live, opened, read, there, entered, ?_, ?_, connection⟩
  · rw [user]
    decide
  · rw [user]
    decide

/-- The text for the user has been typed. -/
theorem typingSite_composed :
    typingSite.Composed (.sendPrivate (literal "ann") (literal "hello")) := by
  unfold Site.Composed
  decide +kernel

/-- The text for the group has been typed. -/
theorem teamSite_composed :
    teamSite.Composed (.sendGroupMessage (literal "g000001") (literal "hello")) := by
  unfold Site.Composed
  decide +kernel

/-- The other one reads. -/
theorem waitingSite_listening : waitingSite.Listening 0 0 ∧
    waitingSite.page.currentUsername = literal "ann" := by
  have facts : (0 < waitingSite.page.created ∧ (waitingSite.page.sockets 0).readyState = .opened ∧
      waitingSite.shown 0 = (waitingSite.gateways 0).session.notices.length) ∧
      ((waitingSite.gateways 0).session.sockets 0).connected = true ∧
      ((waitingSite.gateways 0).session.sockets 0).destroyed = false ∧
      (waitingSite.gateways 0).session.tcpDecoder.buffer = [] ∧
      waitingSite.page.currentUsername = literal "ann" := by decide +kernel
  obtain ⟨⟨created, opened, shown⟩, connected, destroyed, whole, user⟩ := facts
  exact ⟨⟨created, opened, shown, ⟨connected, destroyed⟩, whole⟩, user⟩

section

attribute [local instance] sampleDigest asciiBrowser

/-- A private text of the one is listed by the other one. -/
theorem privateText_delivered_couple : ∃ site' packet machine' other',
    typingSite.run {} [.page .submit, .request 0] = some site' ∧
      MultiUserChat.Served (failingAt []) coupleMachine (.packet 6 packet) machine' ∧
      waitingSite.run {} [.gateway 0 (.data 0 (wire packet)), .notice 0] = some other' ∧
      other'.page.conversations (friendKey (literal "ben")) =
        waitingSite.page.conversations (friendKey (literal "ben")) ++
          [⟨waitingSite.page.now, .incoming, literal "ben", .text (literal "hello")⟩] := by
  obtain ⟨⟨composed, _⟩, _, _, user, _⟩ := typingSite_composed
  have shows_ : Shows (literal "ann") (CString.ofString "ann") :=
    ⟨by decide, ⟨literal "ann", by decide⟩, by decide⟩
  obtain ⟨site', packet, machine', reply, ran, _, _, _, served, _, _, _, arrives⟩ :=
    @privateText_delivered _ _ {} (failingAt []) typingSite 0 0 typingSite_composed.chatting
      (by rw [user]; decide) (by rw [user]; decide) (literal "ann") (literal "hello") composed
      (by decide) (by decide) (by decide) (CString.ofString "ann") shows_ (by decide) coupleMachine
      (sample_reachable couple_returns) (fun _ _ => rfl) 6 (by decide) (by decide)
  obtain ⟨other', read, listed⟩ := arrives waitingSite 0 0 [wire packet] waitingSite_listening.1
    List.flatten_singleton
  rw [user, waitingSite_listening.2, if_neg (by decide)] at listed
  exact ⟨site', packet, machine', other', ran, served, read, listed⟩

/-- A text of the one for the group is listed by the other one. -/
theorem groupText_delivered_team : ∃ site' packet machine' message other',
    teamSite.run {} [.page .submit, .request 0] = some site' ∧
      MultiUserChat.Served (failingAt []) teamMachine (.packet 6 packet) machine' ∧
      (teamMachine.state.descriptorOf (CString.ofString "ann"), message) ∈
        deliveries teamMachine machine' ∧
      waitingSite.run {} [.gateway 0 (.data 0 (wire message)), .notice 0] = some other' ∧
      other'.page.conversations (literal "group:g000001") =
        waitingSite.page.conversations (literal "group:g000001") ++
          [⟨waitingSite.page.now, .incoming, literal "ben", .text (literal "hello")⟩] := by
  obtain ⟨⟨composed, _⟩, _, _, user, _⟩ := teamSite_composed
  obtain ⟨group, known, named, short⟩ := team_listed
  have members : ∀ group ∈ teamMachine.state.groups.head,
      groupStoreGetSnapshot teamMachine.state.groups group.id.toCString = .ok group ∧
        CString.ofString "ann" ∈ group.memberNames ∧ CString.ofString "ben" ∈ group.memberNames := by
    decide
  obtain ⟨listed, ann, ben⟩ := members group known
  have length : byteLength (literal "hello") = 5 := by decide
  obtain ⟨site', packet, machine', message, reply, ran, _, _, _, served, sent, _, _, _, arrives⟩ :=
    @groupText_delivered _ _ {} (failingAt []) teamSite 0 0 teamSite_composed.chatting
      (literal "g000001") (literal "hello") composed (by decide) (by decide) (by decide)
      (Utf8.encode (literal "hello" ++ [0])) (by decide) teamMachine (sample_reachable team_returns)
      (fun _ _ => rfl) 6 (by decide) (CString.ofString "ben") (by decide) group named listed ben (by
        rw [length]
        change _ ≤ 1024
        omega)
  obtain ⟨other', read, received⟩ := arrives waitingSite 0 0 [wire message] waitingSite_listening.1
    List.flatten_singleton
  have trimmed : trim (literal "g000001") = literal "g000001" := by decide
  have key (name : Text) : conversationKey (groupConversation (trim (literal "g000001")) name) =
      literal "group:g000001" := by
    have parts : literal Mode.group.name ++ 0x3a :: literal "g000001" = literal "group:g000001" := by
      decide
    rw [trimmed, conversationKey, groupConversation, if_neg (by decide)]
    exact parts
  have sender : textOf (CString.ofString "ben") = literal "ben" := by decide
  dsimp only at received
  rw [key, sender, waitingSite_listening.2, if_neg (by decide)] at received
  refine ⟨site', packet, machine', message, other', ran, served, ?_, read, received⟩
  rw [sent]
  exact List.mem_append_left _ (List.mem_map_of_mem ann)

end

end Web

end MultiUserChat
