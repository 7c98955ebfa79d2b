import MultiUserChat.Verif.AcceptedLogins
import MultiUserChat.Verif.MatchedReplies
/-!
# The login state of the gateway

The gateway takes its user for logged in from the moment at which the `MSG_OK` of a `LOGIN` arrives,
until that of a `LOGOUT` does or the connection closes. On the side of the server the login lasts from
the handling of the one request to that of the other (`Network.Lasting`), so the two agree, except
while a `LOGOUT` has been handled whose reply is on its way, or the connection is lost and the gateway
has not been told (`Network.loginSound`). A connection that is closed or replaced at the wish of the
browser leaves `loggedIn` as it is, so a run may only do so when nobody is logged in
(`Gateway.Abandons`).
-/

namespace MultiUserChat.Web

open ClientSession

/-! ## What the gateway writes -/

/-- The packet is a registration or a login, or comes from the user who is logged in; an entry of a
login belongs to a `LOGIN` of its user. -/
structure ClientSession.Signs (session : ClientSession) (packet : Packet) (entry : Option Pending) :
    Prop where
  /-- The sender. -/
  sender : packet.type = MessageType.msgRegister.code ∨ packet.type = MessageType.msgLogin.code ∨
    session.loggedIn = true ∧ packet.senderName = wireName session.username
  /-- The entry of a login. -/
  login : ∀ name, entry = some (.auth .login name) →
    packet.type = MessageType.msgLogin.code ∧ packet.senderName = wireName name

/-- What a step has written on a socket: nothing, or one packet with its sender, on the connection
that was open. A logout has an entry, unless the connection is closed with it. -/
inductive Sends (session session' : ClientSession) (socket : Nat) : Prop
  | nothing (same : (session'.sockets socket).written = (session.sockets socket).written)
  | packet (packet : Packet) (entry : Option Pending) (opened : session.openSocket = some socket)
      (wrote : (session'.sockets socket).written = (session.sockets socket).written ++ [wire packet])
      (queued : session'.pendingResponses = session.pendingResponses ++ entry.toList)
      (signs : session.Signs packet entry)
      (leaves : packet.type = MessageType.msgLogout.code →
        entry = some (.status .logout) ∨ session'.tcpSocket = none)

/-- The entry of a login belongs to a `LOGIN`. -/
theorem pendingOf_login {username name : Text} {type : MessageType}
    (entry : pendingOf username type = some (.auth .login name)) :
    type = .msgLogin ∧ name = username := by
  cases type <;> simp [pendingOf] at entry
  exact ⟨rfl, entry.symm⟩

/-- A request writes one packet, or nothing. -/
theorem ClientSession.Asks.sends {session session' : ClientSession} {queues : Prop}
    (asks : Asks session queues session') (other : Nat) : Sends session session' other := by
  cases asks with
  | @sent request socket bytes opened encoded origin =>
    obtain ⟨packet, rfl, type, sender⟩ := Request.wire_of_encoded encoded
    have written := write_written (session.queue request.pending) socket other (wire packet)
    by_cases same : other = socket
    · subst same
      rw [if_pos rfl] at written
      refine .packet packet request.pending opened written rfl ⟨?_, fun name entry => ?_⟩
        fun logout => .inl ?_
      · rw [type, sender]
        rcases origin with ⟨register | login, _⟩ | ⟨entered, own⟩
        · exact .inl (congrArg MessageType.code register)
        · exact .inr (.inl (congrArg MessageType.code login))
        · exact .inr (.inr ⟨entered, congrArg wireName own⟩)
      · obtain ⟨login, rfl⟩ := pendingOf_login entry
        exact ⟨type.trans (congrArg MessageType.code login), sender⟩
      · have leaves : request.type = .msgLogout :=
          MessageType.eq_of_ofCode? (MessageType.ofCode?_code _) (type.symm.trans logout)
        rw [Request.pending, leaves]
        rfl
    · rw [if_neg same] at written
      exact .nothing written
  | _ => exact .nothing rfl

/-- Closing a connection writes a logout, or nothing. -/
theorem ClientSession.closeTcp_sends {session session' : ClientSession} (other : Nat)
    (sockets : session'.sockets = (session.closeTcp true).sockets)
    (queue : session'.pendingResponses = session.pendingResponses)
    (closed : session'.tcpSocket = none) : Sends session session' other := by
  rcases session.closeTcp_written true other with
    same | ⟨_, opened, entered, bytes, encoded, written⟩
  · exact .nothing (sockets ▸ same)
  · obtain ⟨senderFits, receiverFits, dataFits⟩ := encodePacket_ok encoded
    obtain ⟨packet, wired, _, sender, _⟩ :=
      encodePacket_wire MessageType.msgLogout.code senderFits receiverFits dataFits
    rw [wired, Except.ok.injEq] at encoded
    refine .packet packet none opened (sockets ▸ encoded ▸ written) ?_
      ⟨.inr (.inr ⟨entered, sender⟩), fun _ entry => by contradiction⟩ fun _ => .inr closed
    rw [Option.toList_none, List.append_nil]
    exact queue

/-- Closing a connection leaves the browser where it is. -/
theorem ClientSession.closeTcp_closing (session : ClientSession) (sendLogout : Bool) :
    (session.closeTcp sendLogout).closing = session.closing := by
  obtain ⟨_, same⟩ := session.closeTcp_eq sendLogout
  rw [same]

/-- The session knows that its browser has left. -/
theorem ClientSession.cleanup_closing (session : ClientSession) : session.cleanup.closing = true :=
  closeTcp_closing { session with closing := true } true

/-- The session has written nothing, and its browser is where it was. -/
def Listens (session session' : ClientSession) : Prop :=
  session'.closing = session.closing ∧
    ∀ socket, (session'.sockets socket).written = (session.sockets socket).written

/-- Closing a connection without a logout is silent. -/
theorem ClientSession.closeTcp_listens (session : ClientSession) :
    Listens session (session.closeTcp false) :=
  ⟨session.closeTcp_closing false, session.closeTcp_silent⟩

/-- A packet that arrives writes nothing. -/
theorem ClientSession.handlePacket_listens {session session' : ClientSession}
    {packet : ReceivedPacket} (handled : session.handlePacket packet = some session') :
    Listens session session' := by
  by_cases reply : packet.type = MessageType.msgOk.code ∨ packet.type = MessageType.msgError.code
  · rw [handlePacket_reply session reply] at handled
    cases handled
    rcases session.handleCommandResponse_cases packet with
      ⟨_, _, _, _, same⟩ | ⟨notices, _, same⟩ | ⟨_, _, _, same⟩
    · rw [same]
      exact ⟨rfl, fun _ => rfl⟩
    · rw [same]
      exact closeTcp_listens
        { session with
          pendingResponses := session.pendingResponses.tail, loggedIn := false, username := [],
          groupsById := [], notices }
    · rw [same]
      exact ⟨rfl, fun _ => rfl⟩
  · rw [not_or] at reply
    obtain ⟨_, _, _, rfl⟩ := handlePacket_other reply.1 reply.2 handled
    exact ⟨rfl, fun _ => rfl⟩

/-- Packets that arrive write nothing. -/
theorem ClientSession.handlePackets_listens {session session' : ClientSession}
    {packets : List ReceivedPacket} (handled : (session.handlePackets packets).2 = some session') :
    Listens session session' := by
  induction packets generalizing session with
  | nil =>
    cases handled
    exact ⟨rfl, fun _ => rfl⟩
  | cons packet packets ih =>
    rw [handlePackets_cons] at handled
    cases first : session.handlePacket packet with
    | none =>
      rw [first] at handled
      contradiction
    | some middle =>
      rw [first] at handled
      have early := handlePacket_listens first
      have late := ih handled
      exact ⟨late.1.trans early.1, fun socket => (late.2 socket).trans (early.2 socket)⟩

/-- A chunk that arrives writes nothing. -/
theorem ClientSession.handleTcpData_listens {session session' : ClientSession} {chunk : List UInt8}
    (handled : (session.handleTcpData chunk).2 = some session') : Listens session session' := by
  unfold handleTcpData at handled
  split at handled
  · cases handled
    exact closeTcp_listens _
  · have listens := handlePackets_listens handled
    exact listens

/-- A step of the gateway writes one packet with its sender, or nothing. -/
theorem Gateway.Moves.sends {gateway gateway' : Gateway} {happening : Happening}
    {fed : Nat → List (List UInt8)} (linked : Linked gateway.session fed)
    (unwritten : Unwritten gateway.session) (moves : Moves gateway happening gateway') (other : Nat) :
    Sends gateway.session gateway'.session other := by
  by_cases data : ∃ socket chunk, happening = .data socket chunk
  · obtain ⟨socket, chunk, rfl⟩ := data
    cases moves with
    | delivered _ _ handled => exact .nothing ((handleTcpData_listens handled).2 other)
  · have silent (socket : Nat) (chunk : List UInt8) : happening ≠ .data socket chunk :=
      fun same => data ⟨socket, chunk, same⟩
    rcases moves.writes linked unwritten silent with ⟨_, asks⟩ | ⟨sockets, queue, closed⟩ | same
    · exact asks.sends other
    · exact closeTcp_sends other sockets queue closed
    · exact .nothing (same other)

/-- A request leaves the user and the connection as they are. -/
theorem ClientSession.asks_login {session session' : ClientSession} {queues : Prop}
    (asks : Asks session queues session') : session'.loggedIn = session.loggedIn ∧
      session'.username = session.username ∧ session'.tcpSocket = session.tcpSocket := by
  cases asks <;> exact ⟨rfl, rfl, rfl⟩

/-- The current connection after a step of the gateway, other than a delivery, was the current one
before, or is that of a socket that was still to connect. -/
theorem Gateway.Moves.current {gateway gateway' : Gateway} {happening : Happening} {socket : Nat}
    (silent : ∀ socket chunk, happening ≠ .data socket chunk)
    (moves : Moves gateway happening gateway') (current : gateway'.session.tcpSocket = some socket) :
    gateway.session.tcpSocket = some socket ∨
      (gateway.session.sockets socket).settled = false := by
  have closed (session : ClientSession) (sendLogout : Bool)
      (still : (session.closeTcp sendLogout).tcpSocket = some socket) : False := by
    rw [(closeTcp_kept session sendLogout).1] at still
    contradiction
  cases moves with
  | asked asks => exact .inl ((asks_login asks).2.2.symm.trans current)
  | disconnected => exact (closed gateway.session true current).elim
  | loggedOut shut =>
    have same : gateway.session.logout = _ := if_neg shut
    dsimp only at current
    rw [same] at current
    exact (closed { gateway.session with loggedIn := false, username := [], groupsById := [] } false
      current).elim
  | @waits action purpose config =>
    by_cases reuses : gateway.session.Reuses config
    · have same : gateway.ensureTcp purpose config = _ := if_pos reuses
      rw [same] at current
      exact .inl current
    · have same : gateway.ensureTcp purpose config = _ := if_neg reuses
      rw [same] at current
      exact (closed gateway.session false current).elim
  | left => exact (closed { gateway.session with closing := true } true current).elim
  | @connected other created waiting =>
    have here : (gateway.session.onConnect other).tcpSocket = some other := rfl
    cases here.symm.trans current
    exact .inr waiting
  | broken =>
    dsimp only at current
    unfold onError at current
    split at current <;> exact .inl current
  | @closed other =>
    by_cases before : gateway.session.tcpSocket = some other
    · have gone := (onClose_current
        (gateway.session.updateSocket other fun record => { record with closed := true }) before).1
      cases gone.symm.trans current
    · have same : (gateway.session.updateSocket other fun record =>
          { record with closed := true }).onClose other = _ := if_pos before
      dsimp only at current
      rw [same] at current
      exact .inl current
  | delivered => exact absurd rfl (silent _ _)
  | ended found asks => exact .inl ((asks_login asks).2.2.symm.trans current)
  | _ => exact .inl current

/-- The browser of a session that goes on has not left before. -/
theorem Gateway.Moves.stays_open {gateway gateway' : Gateway} {happening : Happening}
    (moves : Moves gateway happening gateway') (open_ : gateway'.session.closing = false) :
    gateway.session.closing = false := by
  have asked {queues : Prop} {session : ClientSession}
      (asks : Asks gateway.session queues session) : session.closing = gateway.session.closing := by
    cases asks <;> rfl
  cases moves with
  | asked asks => exact (asked asks).symm.trans open_
  | disconnected => exact (closeTcp_closing _ true).symm.trans open_
  | loggedOut shut =>
    unfold logout at open_
    rw [if_neg shut] at open_
    exact (closeTcp_closing
      { gateway.session with loggedIn := false, username := [], groupsById := [] }
        false).symm.trans open_
  | waits valid target =>
    unfold ensureTcp at open_
    split at open_
    · exact open_
    · exact (closeTcp_closing _ false).symm.trans open_
  | left =>
    exact absurd (open_.symm.trans gateway.session.cleanup_closing) Bool.false_ne_true
  | broken =>
    dsimp only at open_
    unfold onError at open_
    split at open_ <;> exact open_
  | closed =>
    dsimp only at open_
    unfold onClose at open_
    dsimp only at open_
    split at open_
    · exact open_
    split at open_
    · exact open_
    split at open_
    · exact open_
    · split at open_ <;> exact open_
  | delivered _ _ handled => exact (handleTcpData_listens handled).1.symm.trans open_
  | ended found asks => exact (asked asks).symm.trans open_
  | _ => exact open_

namespace Network

variable {network network' : Network}

/-! ## The steps of the gateway -/

section

variable {happening : Happening} {gateway' : Gateway}

/-- What a step has written on a socket, with its entries. -/
theorem Valid.sent_observe (valid : network.Valid)
    (moves : Gateway.Moves network.gateway happening gateway') (socket : Nat) :
    ∃ later : List (Packet × Option Pending),
      (network.observe happening gateway').written socket =
          network.written socket ++ later.map (fun request => wire request.1) ∧
        (network.observe happening gateway').asked socket =
          network.asked socket ++ later.map Prod.snd ∧
        ∀ request ∈ later, network.gateway.session.Signs request.1 request.2 := by
  cases moves.sends valid.linked valid.unwritten socket with
  | nothing same =>
    refine ⟨[], ?_, ?_, by simp⟩
    · rw [List.map_nil, List.append_nil]
      exact same
    · rw [List.map_nil, List.append_nil]
      exact observe_asked_same same
  | packet packet entry opened wrote queued signs leaves =>
    exact ⟨[(packet, entry)], wrote, observe_asked_wrote wrote queued, by simpa using signs⟩

/-- What the gateway writes keeps the logins that were accepted. -/
theorem Lasting.observe (lasting : network.Lasting) (valid : network.Valid)
    (moves : Gateway.Moves network.gateway happening gateway') :
    (network.observe happening gateway').Lasting := by
  intro socket link number name found accepts
  obtain ⟨later, written, _⟩ := valid.sent_observe moves socket
  have bound : link.handled ≤ (network.written socket).length :=
    (valid.recorded socket).length ▸ (valid.ordered socket link found).handled
  rw [written] at accepts ⊢
  exact (lasting socket link number name found (accepts.before bound)).imp_left Link.Over.more

/-- The entries of logins belong to requests of their users. -/
def Signed (network : Network) : Prop :=
  ∀ socket number name, entryOf (network.asked socket) number = some (.auth .login name) →
    ∃ packet : Packet, (network.written socket)[number]? = some (wire packet) ∧
      packet.type = MessageType.msgLogin.code ∧ packet.senderName = wireName name

/-- A step of the gateway queues the entry of a login with a `LOGIN`. -/
theorem Signed.observe (signed : network.Signed) (valid : network.Valid)
    (moves : Gateway.Moves network.gateway happening gateway') :
    (network.observe happening gateway').Signed := by
  intro socket number name entry
  obtain ⟨later, written, asked, signs⟩ := valid.sent_observe moves socket
  have length := (valid.recorded socket).length
  rw [asked] at entry
  rw [written]
  by_cases old : number < (network.asked socket).length
  · rw [entryOf_append old] at entry
    obtain ⟨packet, found, login⟩ := signed socket number name entry
    exact ⟨packet, Link.getElem?_more found, login⟩
  · have made := Option.join_eq_some_iff.mp entry
    rw [List.getElem?_append_right (Nat.not_lt.mp old), List.getElem?_map,
      Option.map_eq_some_iff] at made
    obtain ⟨⟨packet, queued⟩, found, same⟩ := made
    refine ⟨packet, ?_, (signs _ (List.mem_of_getElem? found)).login name same⟩
    rw [List.getElem?_append_right (length ▸ Nat.not_lt.mp old), List.getElem?_map,
      ← length, found]
    rfl

/-- A login of the user was answered with `MSG_OK` on the connection of a socket. -/
def Answered (network : Network) (socket : Nat) (username : Text) : Prop :=
  ∃ link, network.links socket = some link ∧ ∃ (reply : Packet) (number : Nat),
    (reply, some number) ∈ link.sent ∧ reply.type = MessageType.msgOk.code ∧
      entryOf (network.asked socket) number = some (.auth .login username)

/-- A login stays answered when more is asked. -/
theorem Answered.observe {socket : Nat} {username : Text} (answered : network.Answered socket username)
    (valid : network.Valid) (moves : Gateway.Moves network.gateway happening gateway') :
    (network.observe happening gateway').Answered socket username := by
  obtain ⟨link, found, reply, number, sent, ok, entry⟩ := answered
  obtain ⟨later, _, asked, _⟩ := valid.sent_observe moves socket
  refine ⟨link, found, reply, number, sent, ok, ?_⟩
  have made := (List.getElem?_eq_some_iff.mp (Option.join_eq_some_iff.mp entry)).1
  rw [asked, entryOf_append made]
  exact entry

/-- While the browser is there, a user who is logged in has a connection on which a login was
answered with `MSG_OK`. -/
def Believes (network : Network) : Prop :=
  network.gateway.session.closing = false → network.gateway.session.loggedIn = true →
    ∃ socket, network.gateway.session.tcpSocket = some socket ∧
      network.Answered socket network.gateway.session.username

/-- The logouts on the current connection have entries, and their replies have not arrived. -/
def Departs (network : Network) : Prop :=
  ∀ socket number (packet : Packet), network.gateway.session.tcpSocket = some socket →
    (network.written socket)[number]? = some (wire packet) →
      packet.type = MessageType.msgLogout.code →
        entryOf (network.asked socket) number = some (.status .logout) ∧
          number ∉ network.answered socket

/-- A step of the gateway, other than a delivery, writes a logout with its entry. -/
theorem Departs.observe (departs : network.Departs) (valid : network.Valid)
    (silent : ∀ socket chunk, happening ≠ .data socket chunk)
    (moves : Gateway.Moves network.gateway happening gateway') :
    (network.observe happening gateway').Departs := by
  intro socket number packet current found logout
  rw [observe_answered (happening.record_silent silent network.fed)]
  cases moves.sends valid.linked valid.unwritten socket with
  | nothing same =>
    rw [observe_asked_same same]
    have before : (network.written socket)[number]? = some (wire packet) := by
      rw [written, ← same]
      exact found
    rcases moves.current silent current with old | waiting
    · exact departs socket number packet old before logout
    · rw [written, (valid.unasked waiting).1] at before
      contradiction
  | packet sent entry opened wrote queued signs leaves =>
    have old := (Option.filter_eq_some_iff.mp opened).1
    have length : (network.asked socket).length = (network.written socket).length :=
      (valid.recorded socket).length
    have grown : (network.written socket ++ [wire sent])[number]? = some (wire packet) := by
      rw [written, ← wrote]
      exact found
    rw [observe_asked_wrote wrote queued]
    by_cases before : number < (network.asked socket).length
    · rw [entryOf_append before]
      rw [List.getElem?_append_left (length ▸ before)] at grown
      exact departs socket number packet old grown logout
    · refine ⟨?_, fun member => before (valid.answered_made member)⟩
      rw [List.getElem?_append_right (length ▸ Nat.not_lt.mp before), ← length] at grown
      obtain ⟨inside, same⟩ := List.getElem?_eq_some_iff.mp grown
      have here : number - (network.asked socket).length = 0 := Nat.lt_one_iff.mp inside
      simp only [here, List.getElem_cons_zero] at same
      rw [entryOf, List.getElem?_append_right (Nat.not_lt.mp before), here]
      rcases leaves (wire_injective same ▸ logout) with entry | closed
      · rw [entry]
        rfl
      · cases closed.symm.trans current

/-- A delivery answers no logout, or ends the connection. -/
theorem Departs.delivers {socket : Nat} {chunk : List UInt8} (departs : network.Departs)
    (valid : network.Valid) (careful : network.Careful (.data socket chunk))
    (delivers : network.Delivers (.data socket chunk))
    (moves : Gateway.Moves network.gateway (.data socket chunk) gateway') :
    (network.observe (.data socket chunk) gateway').Departs := by
  cases moves with
  | @delivered _ _ session connected live handled =>
  obtain ⟨link, found, front⟩ := delivers
  have current := valid.linked.only socket connected live
  have follows := (valid.arrival connected live found front careful).2 session handled
  intro other number packet still wrote logout
  have stays : session.tcpSocket ≠ none := by
    intro closed
    cases closed.symm.trans still
  have same : session.tcpSocket = network.gateway.session.tcpSocket :=
    follows.socket.resolve_right fun ⟨closed, _⟩ => stays closed
  cases (same.trans current).symm.trans still
  have quiet := (follows.untouched socket).1
  have earlier : (network.written socket)[number]? = some (wire packet) := by
    rw [written, ← quiet]
    exact wrote
  obtain ⟨entry, before⟩ := departs socket number packet current earlier logout
  rw [observe_asked_same quiet, valid.answered_delivers current found front, answers_append,
    List.mem_append, not_or]
  refine ⟨entry, ?_, fun now => follows.remains stays number now entry⟩
  unfold Network.answered at before
  rw [found] at before
  exact before

end

end Network

/-- The gateway gives up a connection, or takes another one, and leaves `loggedIn` as it is. -/
def Gateway.Abandons (gateway : Gateway) : Happening → Prop
  | .browser action => action = .disconnectTcp ∨
      ∃ config, action.target = some config ∧ ¬gateway.session.Reuses config
  | .connect _ => True
  | _ => False

namespace Network

variable {network network' : Network} {happening : Happening} {gateway' : Gateway}

/-- A careful step that abandons no connection of a user who is logged in keeps the login state
right. -/
theorem Believes.observe (believes : network.Believes) (valid : network.Valid)
    (careful : network.Careful happening)
    (keeps : network.gateway.Abandons happening → network.gateway.session.loggedIn = false)
    (delivers : network.Delivers happening)
    (moves : Gateway.Moves network.gateway happening gateway') :
    (network.observe happening gateway').Believes := by
  intro open_ entered
  have before := moves.stays_open open_
  have stays (same : gateway'.session.loggedIn = network.gateway.session.loggedIn ∧
      gateway'.session.username = network.gateway.session.username ∧
      gateway'.session.tcpSocket = network.gateway.session.tcpSocket) :
      ∃ socket, gateway'.session.tcpSocket = some socket ∧
        (network.observe happening gateway').Answered socket gateway'.session.username := by
    obtain ⟨socket, current, answered⟩ := believes before (same.1.symm.trans entered)
    exact ⟨socket, same.2.2.trans current, same.2.1 ▸ answered.observe valid moves⟩
  have abandoned (gone : network.gateway.Abandons happening)
      (same : gateway'.session.loggedIn = network.gateway.session.loggedIn) : False := by
    have still := same.symm.trans entered
    rw [keeps gone] at still
    contradiction
  have moved := moves
  cases moves with
  | asked asks => exact stays (asks_login asks)
  | withdrew => exact stays ⟨rfl, rfl, rfl⟩
  | disconnected => exact (abandoned (.inl rfl) (closeTcp_kept _ true).2.2.2).elim
  | loggedOut shut =>
    have same : network.gateway.session.logout = _ := if_neg shut
    have gone : network.gateway.session.logout.loggedIn = false := by
      rw [same]
      exact (closeTcp_kept
        { network.gateway.session with loggedIn := false, username := [], groupsById := [] }
          false).2.2.2
    exact absurd (gone.symm.trans entered) Bool.false_ne_true
  | @waits action purpose config fits target =>
    by_cases reuses : network.gateway.session.Reuses config
    · have same : network.gateway.ensureTcp purpose config = _ := if_pos reuses
      refine stays ?_
      rw [same]
      exact ⟨rfl, rfl, rfl⟩
    · have same : network.gateway.ensureTcp purpose config = _ := if_neg reuses
      refine (abandoned (.inr ⟨config, target, reuses⟩) ?_).elim
      rw [same]
      exact (closeTcp_kept _ false).2.2.2
  | left =>
    exact absurd (open_.symm.trans network.gateway.session.cleanup_closing) Bool.false_ne_true
  | connected => exact (abandoned trivial rfl).elim
  | lost => exact stays ⟨rfl, rfl, rfl⟩
  | failed => exact stays ⟨rfl, rfl, rfl⟩
  | broken =>
    refine stays ?_
    dsimp only
    unfold onError
    split <;> exact ⟨rfl, rfl, rfl⟩
  | @closed socket created destroyed =>
    by_cases current : network.gateway.session.tcpSocket = some socket
    · obtain ⟨_, _, gone⟩ := onClose_current
        (network.gateway.session.updateSocket socket fun record => { record with closed := true })
        current
      have left : network.gateway.session.closing = true := gone entered
      rw [before] at left
      contradiction
    · have same : (network.gateway.session.updateSocket socket fun record =>
          { record with closed := true }).onClose socket = _ := if_pos current
      refine stays ?_
      dsimp only
      rw [same]
      exact ⟨rfl, rfl, rfl⟩
  | @delivered socket chunk session connected live handled =>
    obtain ⟨link, found, front⟩ := delivers
    have current := valid.linked.only socket connected live
    have follows := (valid.arrival connected live found front careful).2 session handled
    obtain ⟨same, ⟨already, user⟩ | ⟨reply, number, member, ok, entry⟩⟩ := follows.entered entered
    · exact stays ⟨entered.trans already.symm, user, same⟩
    · have sent : (reply, some number) ∈ link.sent :=
        (List.take_sublist _ _).subset ((List.drop_sublist _ _).subset member)
      have answered : network.Answered socket session.username :=
        ⟨link, found, reply, number, sent, ok, entry⟩
      exact ⟨socket, same.trans current, answered.observe valid moved⟩
  | ended found asks => exact stays (asks_login asks)
  | gaveUp => exact stays ⟨rfl, rfl, rfl⟩
  | retried => exact stays ⟨rfl, rfl, rfl⟩

/-! ## Runs -/

/-- What is sent on a connection is added to what it carries. -/
theorem served_kept {server : Nat} {machine : ServerMachine} {numbers : Nat → Option Nat}
    {socket : Nat} {link : Link} (found : network.links socket = some link) :
    ∃ link' more, (network.served server machine numbers).links socket = some link' ∧
      link'.sent = link.sent ++ more := by
  have after : (network.served server machine numbers).links socket = _ :=
    congrArg (Option.map _) found
  by_cases here : link.server = server
  · obtain ⟨more, sent, _⟩ := link.hears_sent
      (machine.trace.drop (network.servers server).trace.length) (numbers socket)
    exact ⟨_, more, after.trans (congrArg some (if_pos here)), sent⟩
  · exact ⟨link, [], after.trans (congrArg some (if_neg here)), by rw [List.append_nil]⟩

/-- A change of a connection keeps what it carries. -/
theorem served_updateLink_kept {server : Nat} {machine : ServerMachine} {numbers : Nat → Option Nat}
    {socket other : Nat} {change : Link → Link} (same : ∀ link, (change link).sent = link.sent)
    {link : Link} (found : network.links socket = some link) : ∃ link' more,
      ((network.served server machine numbers).updateLink other change).links socket = some link' ∧
        link'.sent = link.sent ++ more := by
  obtain ⟨later, more, after, sent⟩ := served_kept found
  rw [updateLink_links, after]
  split
  · exact ⟨change later, more, rfl, (same later).trans sent⟩
  · exact ⟨later, more, rfl, sent⟩

variable (network) in
/-- What both sides know of a login. -/
structure LoginState : Prop where
  /-- An accepted login lasts at the server. -/
  lasting : network.Lasting
  /-- The entries of logins belong to requests of their users. -/
  signed : network.Signed
  /-- The login of the gateway's user was answered. -/
  believes : network.Believes
  /-- The replies to logouts have not arrived. -/
  departs : network.Departs

/-- The server has handled a `LOGOUT` on the connection of a socket after a request, and its reply is
on its way to the gateway. -/
def Departing (network : Network) (socket : Nat) (link : Link) (number : Nat) : Prop :=
  ∃ later, number < later ∧ later < link.handled ∧
    later ∈ answers link.sent ∧ later ∉ network.answered socket ∧ ∃ packet : Packet,
      (network.written socket)[later]? = some (wire packet) ∧
        packet.type = MessageType.msgLogout.code

/-- A server has accepted a login of the user on the connection of a socket, and the user is logged in
there, unless the reply to a later logout is on its way, or the server has lost the connection. -/
def Holds (network : Network) (socket : Nat) (username : Text) : Prop :=
  ∃ link number, network.links socket = some link ∧
    link.Accepts (network.written socket) number (wireName username) ∧
      (link.broken = true ∨ link.closed = true ∨ network.Departing socket link number ∨
        (network.servers link.server).state.LoggedIn link.fd (wireName username))

/-- A login on the current connection is over when the reply to a logout is on its way. -/
theorem LoginState.departing (state : network.LoginState) (valid : network.Valid) {socket : Nat}
    (current : network.gateway.session.tcpSocket = some socket) {link : Link} {number : Nat}
    (found : network.links socket = some link) (past : link.Over (network.written socket) number) :
    link.broken = true ∨ link.closed = true ∨ network.Departing socket link number := by
  by_cases broken : link.broken = true
  · exact .inl broken
  · refine past.imp id (Or.imp id ?_)
    rintro ⟨later, after, handled, packet, wrote, logout⟩
    obtain ⟨entry, unread⟩ := state.departs socket later packet current wrote logout
    have works : link.broken = false := by simpa using broken
    have sent : later ∈ answers link.sent :=
      (valid.ordered socket link found).complete works later handled (by simp [entry])
    exact ⟨later, after, handled, sent, unread, packet, wrote, logout⟩

/-- A user who is logged in has a connection that holds the login. -/
theorem LoginState.holds (state : network.LoginState) (valid : network.Valid)
    (open_ : network.gateway.session.closing = false)
    (entered : network.gateway.session.loggedIn = true) :
    ∃ socket, network.gateway.session.tcpSocket = some socket ∧
      network.Holds socket network.gateway.session.username := by
  obtain ⟨socket, current, link, found, reply, number, sent, ok, entry⟩ := state.believes open_ entered
  have answered : number ∈ answers link.sent :=
    List.mem_filterMap.mpr ⟨_, sent, if_pos (Packet.reply_of_type ok)⟩
  have accepts : link.Accepts (network.written socket) number
      (wireName network.gateway.session.username) :=
    ⟨(valid.ordered socket link found).earlier number answered, state.signed socket number _ entry,
      reply, sent, ok⟩
  refine ⟨socket, current, link, number, found, accepts, ?_⟩
  rcases state.lasting socket link number _ found accepts with past | inside
  · rcases state.departing valid current found past with broken | closed | departing
    · exact .inl broken
    · exact .inr (.inl closed)
    · exact .inr (.inr (.inl departing))
  · exact .inr (.inr (.inr inside))

section

variable [Sha256] {outcomes : Nat → Nat → Outcome} {occurrence : Occurrence}

/-- A step of the servers leaves the gateway and what has arrived as they are, and adds to what the
connections carry. -/
theorem Step.servers (step : network.Step outcomes occurrence network')
    (server : ∀ happening, occurrence ≠ .gateway happening) :
    network'.gateway = network.gateway ∧ network'.fed = network.fed ∧
      network'.asked = network.asked ∧
        (∀ socket link, network.links socket = some link → ∃ link' more,
          network'.links socket = some link' ∧ link'.sent = link.sent ++ more) ∧
        ∀ socket link', network.links socket = none → network'.links socket = some link' →
          link'.sent = [] := by
  cases occurrence with
  | gateway happening => exact absurd rfl (server happening)
  | accepts socket host fd =>
    obtain ⟨_, _, _, nothing, _, rfl⟩ := step
    refine ⟨rfl, rfl, rfl, fun other link found => ⟨link, [], ?_, by rw [List.append_nil]⟩,
      fun other link' before after => ?_⟩
    · have old : other ≠ socket := by
        rintro rfl
        rw [nothing] at found
        contradiction
      exact (Function.update_of_ne old _ _).trans found
    · by_cases new : other = socket
      · subst new
        have same := Function.update_self other (some ({ server := host, fd } : Link)) network.links
        cases same.symm.trans after
        rfl
      · cases before.symm.trans ((Function.update_of_ne new _ _).symm.trans after)
  | handles socket =>
    obtain ⟨_, _, _, _, _, _, _, _, _, rfl⟩ := step
    refine ⟨rfl, rfl, rfl, fun _ _ => served_updateLink_kept (by simp), fun _ _ before after => ?_⟩
    obtain ⟨_, _, found, _⟩ := served_updateLink after
    cases before.symm.trans found
  | ends socket =>
    obtain ⟨_, _, _, _, _, rfl⟩ := step
    refine ⟨rfl, rfl, rfl, fun _ _ => served_updateLink_kept (by simp), fun _ _ before after => ?_⟩
    obtain ⟨_, _, found, _⟩ := served_updateLink after
    cases before.symm.trans found
  | serves server input =>
    obtain ⟨_, _, _, rfl⟩ := step
    refine ⟨rfl, rfl, rfl, fun _ _ => served_kept, fun _ _ before after => ?_⟩
    obtain ⟨_, found, _⟩ := served_links after
    cases before.symm.trans found

/-- What the servers do leaves the replies to logouts on their way. -/
theorem Departs.servers (departs : network.Departs) (valid : network.Valid)
    (step : network.Step outcomes occurrence network')
    (server : ∀ happening, occurrence ≠ .gateway happening) : network'.Departs := by
  obtain ⟨gateway, fed, asked, links, new⟩ := step.servers server
  intro socket number packet current wrote logout
  rw [written] at wrote
  rw [gateway] at current wrote
  obtain ⟨entry, unread⟩ := departs socket number packet current wrote logout
  rw [asked]
  have same : network'.answered socket = network.answered socket := by
    refine valid.answered_kept fed (fun link' after => ?_) fun after => ?_
    · cases before : network.links socket with
      | none => exact .inl ⟨rfl, new socket link' before after⟩
      | some link =>
        obtain ⟨_, more, after', sent⟩ := links socket link before
        cases after'.symm.trans after
        exact .inr ⟨link, more, rfl, sent⟩
    · cases before : network.links socket with
      | none => rfl
      | some link =>
        obtain ⟨_, _, after', _⟩ := links socket link before
        cases after.symm.trans after'
  rw [same]
  exact ⟨entry, unread⟩

/-- A step gives the servers inputs that are possible. -/
theorem Step.serverReachable (step : network.Step outcomes occurrence network')
    (reached : ∀ server, ServerReachable (outcomes server) (network.servers server)) (server : Nat) :
    ServerReachable (outcomes server) (network'.servers server) := by
  have next {other : Nat} {input : Input} {machine : ServerMachine}
      (served : Served (outcomes other) (network.servers other) input machine) :
      ServerReachable (outcomes server) (Function.update network.servers other machine server) := by
    by_cases same : server = other
    · subst same
      rw [Function.update_self]
      exact .next (reached server) served
    · rw [Function.update_of_ne same]
      exact reached server
  cases occurrence with
  | gateway happening =>
    obtain ⟨_, _, _, rfl⟩ := step
    exact reached server
  | accepts socket other fd =>
    obtain ⟨_, served, _, _, _, rfl⟩ := step
    exact next served
  | handles socket =>
    obtain ⟨_, _, _, _, _, _, _, _, served, rfl⟩ := step
    exact next served
  | ends socket =>
    obtain ⟨_, _, _, _, served, rfl⟩ := step
    exact next served
  | serves other input =>
    obtain ⟨_, _, served, rfl⟩ := step
    exact next served

/-- A step that is careful, and abandons no connection of a user who is logged in. -/
def KeepsLogin (network : Network) (occurrence : Occurrence) : Prop :=
  network.CarefulStep occurrence ∧ ∀ happening, occurrence = .gateway happening →
    network.gateway.Abandons happening → network.gateway.session.loggedIn = false

variable (outcomes) in
/-- The runs in which no connection of a user who is logged in is abandoned. -/
def LoginReachable (network : Network) : Prop :=
  Reachable (Initial outcomes) (fun network occurrence network' =>
    network.KeepsLogin occurrence ∧ network.Step outcomes occurrence network') network

/-- The runs that abandon no login are careful. -/
theorem LoginReachable.careful (reached : network.LoginReachable outcomes) :
    network.CarefullyReachable outcomes :=
  reached.widen fun _ _ _ ⟨keeps, taken⟩ => ⟨keeps.1, taken⟩

/-- The servers of a run are where their inputs have brought them. -/
theorem LoginReachable.servers (reached : network.LoginReachable outcomes) (server : Nat) :
    ServerReachable (outcomes server) (network.servers server) :=
  reached.invariant
    (fun network => ∀ server, ServerReachable (outcomes server) (network.servers server))
    (fun _ initial => initial.1) (fun _ _ _ _ holds ⟨_, taken⟩ => taken.serverReachable holds) server

/-- A step keeps the login state right. -/
theorem LoginState.step (state : network.LoginState) (valid : network.Valid)
    (reached : ∀ server, ServerReachable (outcomes server) (network.servers server))
    (keeps : network.KeepsLogin occurrence) (taken : network.Step outcomes occurrence network') :
    network'.LoginState := by
  have sound (server : Nat) := serverReachable_wellFormed (reached server)
  by_cases own : ∃ happening, occurrence = .gateway happening
  · obtain ⟨happening, rfl⟩ := own
    obtain ⟨gateway', moved, delivers, rfl⟩ := taken
    have moves := Gateway.step_moves valid.calls moved
    refine ⟨state.lasting.observe valid moves, state.signed.observe valid moves,
      state.believes.observe valid keeps.1 (keeps.2 happening rfl) delivers moves, ?_⟩
    by_cases data : ∃ socket chunk, happening = .data socket chunk
    · obtain ⟨socket, chunk, rfl⟩ := data
      exact state.departs.delivers valid keeps.1 delivers moves
    · exact state.departs.observe valid (fun socket chunk same => data ⟨socket, chunk, same⟩) moves
  · have server (happening : Happening) : occurrence ≠ .gateway happening :=
      fun same => own ⟨happening, same⟩
    obtain ⟨gateway, _, asked, links, _⟩ := taken.servers server
    refine ⟨?_, ?_, fun open_ entered => ?_, state.departs.servers valid taken server⟩
    · cases occurrence with
      | gateway happening => exact absurd ⟨happening, rfl⟩ own
      | accepts => exact state.lasting.accepts taken
      | handles => exact state.lasting.handles valid sound taken
      | ends => exact state.lasting.ends valid sound taken
      | serves => exact state.lasting.serves sound taken
    · intro socket number name entry
      rw [asked] at entry
      rw [written, gateway]
      exact state.signed socket number name entry
    · rw [gateway] at open_ entered ⊢
      obtain ⟨socket, current, link, found, reply, number, sent, ok, entry⟩ :=
        state.believes open_ entered
      obtain ⟨link', more, found', grown⟩ := links socket link found
      refine ⟨socket, current, link', found', reply, number, ?_, ok, asked ▸ entry⟩
      rw [grown]
      exact List.mem_append_left _ sent

/-- The login state is right in every run that abandons no connection of a user who is logged in. -/
theorem LoginReachable.loginState (reached : network.LoginReachable outcomes) :
    network.LoginState := by
  refine reached.invariant LoginState (fun network initial => ?_)
    fun network _ _ reached state ⟨keeps, taken⟩ =>
      state.step (LoginReachable.careful reached).valid (LoginReachable.servers reached) keeps taken
  rw [initial.2]
  exact ⟨fun _ _ _ _ found => by contradiction, fun _ _ _ entry => by contradiction,
    fun _ entered => by contradiction, fun _ _ _ current => by contradiction⟩

/-- In every run that abandons no connection of a user who is logged in: while the browser is there, a
user who is logged in has a connection that holds the login; and each packet that is written is a
registration or a login, or is sent under the name of this user on this connection. -/
theorem loginSound (reached : network.LoginReachable outcomes)
    (open_ : network.gateway.session.closing = false) :
    (network.gateway.session.loggedIn = true → ∃ socket,
        network.gateway.session.tcpSocket = some socket ∧
          network.Holds socket network.gateway.session.username) ∧
      ∀ happening gateway' socket packet, network.gateway.step happening = some gateway' →
        (gateway'.session.sockets socket).written = network.written socket ++ [wire packet] →
          packet.type = MessageType.msgRegister.code ∨ packet.type = MessageType.msgLogin.code ∨
            packet.senderName = wireName network.gateway.session.username ∧
              network.gateway.session.openSocket = some socket ∧
                network.Holds socket network.gateway.session.username := by
  have valid := reached.careful.valid
  refine ⟨reached.loginState.holds valid open_, fun happening gateway' socket packet moved wrote => ?_⟩
  cases (Gateway.step_moves valid.calls moved).sends valid.linked valid.unwritten socket with
  | nothing same =>
    rw [wrote] at same
    have longer := congrArg List.length same
    simp at longer
  | packet sent entry opened written queued signs leaves =>
    rw [written, List.append_cancel_left_eq, List.singleton_inj] at wrote
    cases wire_injective wrote
    refine signs.sender.imp_right (Or.imp_right fun ⟨entered, sender⟩ => ⟨sender, opened, ?_⟩)
    obtain ⟨own, current, holds⟩ := reached.loginState.holds valid open_ entered
    cases current.symm.trans (Option.filter_eq_some_iff.mp opened).1
    exact holds

end

/-! ## Two runs -/

/-- Requests with entries, none of them a logout, may be answered at any time. -/
theorem quiet_of_tracked {asked : List (Option Pending)} {early later : List (Packet × Option Nat)}
    (tracked : ∀ entry ∈ later, ∀ number, entry.2 = some number →
      entryOf asked number ≠ none ∧ entryOf asked number ≠ some (.status .logout)) :
    Quiet asked early later := by
  intro front packet number front_of _
  have member : (packet, some number) ∈ later :=
    front_of.subset (List.mem_append_right _ (List.mem_singleton_self _))
  obtain ⟨entry, login⟩ := tracked _ member number rfl
  exact ⟨fun none => absurd none entry, fun logout => absurd logout login⟩

section

variable [Sha256] {outcomes : Nat → Nat → Outcome}

/-- The server of a connection handles the next packet on it, with at most the given nesting of
calls. -/
def answering (outcomes : Nat → Nat → Outcome) (depth : Nat) (network : Network) (socket : Nat) :
    Option Network := do
  let link ← network.links socket
  let bytes ← (network.written socket)[link.handled]?
  let (packet, rest) ← recvPacket bytes
  let machine ← serve (outcomes link.server) depth (network.servers link.server)
    (.packet link.fd packet)
  if link.closed = false ∧ rest = [] then
    some ((network.served link.server machine fun other =>
        if other = socket then some link.handled else none).updateLink socket
      fun link => { link with handled := link.handled + 1 })
  else none

/-- The handling of the next packet is a step. -/
theorem answering_step {depth socket : Nat}
    (answered : answering outcomes depth network socket = some network') :
    network.Step outcomes (.handles socket) network' := by
  obtain ⟨link, found, rest⟩ := Option.bind_eq_some_iff.mp answered
  obtain ⟨bytes, written, rest⟩ := Option.bind_eq_some_iff.mp rest
  obtain ⟨⟨packet, behind⟩, received, rest⟩ := Option.bind_eq_some_iff.mp rest
  obtain ⟨machine, served, rest⟩ := Option.bind_eq_some_iff.mp rest
  obtain ⟨⟨open_, rfl⟩, same⟩ := Option.ite_none_right_eq_some.mp rest
  exact ⟨link, bytes, packet, machine, found, open_, written, received, ⟨depth, served⟩,
    (Option.some.inj same).symm⟩

/-- A step of the servers goes on with a run. -/
theorem LoginReachable.goes_on {occurrence : Occurrence} (reached : network.LoginReachable outcomes)
    (server : ∀ happening, occurrence ≠ .gateway happening)
    (taken : network.Step outcomes occurrence network') : network'.LoginReachable outcomes := by
  have careful : network.CarefulStep occurrence := by
    cases occurrence with
    | gateway happening => exact absurd rfl (server happening)
    | _ => trivial
  exact .next reached ⟨⟨careful, fun happening same => absurd same (server happening)⟩, taken⟩

/-- A step of the gateway goes on with a run, when nobody is logged in before it. -/
theorem LoginReachable.observed (reached : network.LoginReachable outcomes)
    (possible : (network.gateway.step happening).isSome) (careful : network.Careful happening)
    (delivers : network.Delivers happening) (out : network.gateway.session.loggedIn = false) :
    (network.observed happening possible).LoginReachable outcomes := by
  have keeps : network.KeepsLogin (.gateway happening) := ⟨careful, fun _ _ _ => out⟩
  have taken : network.Step outcomes (.gateway happening) (network.observed happening possible) :=
    ⟨_, (Option.some_get possible).symm, delivers, rfl⟩
  exact .next reached ⟨keeps, taken⟩

end

section

attribute [local instance] sampleDigest

/-- A user has an account. -/
def enrolled : List Input := [.connect 9, .packet 9 (registerRequest (CString.ofString "bob"))]

/-- The run returns. -/
theorem enrolled_returns : (serveAll (failingAt []) 0 freshServer enrolled).isSome := by
  decide

/-- Servers with the account, and a session that has begun. -/
def welcome : Network :=
  { servers := fun _ => (serveAll (failingAt []) 0 freshServer enrolled).get enrolled_returns }

/-- The browser asks for a connection. -/
def calling : Network := welcome.observed (.browser (.connectTcp home)) rfl

/-- The socket connects. -/
def called : Network := calling.observed (.connect 0) rfl

/-- The server accepts the connection. -/
def met : Network :=
  { called with
    servers := Function.update called.servers 0
      { called.servers 0 with state := (called.servers 0).state.accept 5 }
    links := Function.update called.links 0 (some { server := 0, fd := 5 }) }

/-- The call returns. -/
def ready : Network := met.observed (.resume 0 []) rfl

/-- The browser asks for a login. -/
def presenting : Network :=
  ready.observed (.browser (.auth .login (literal "bob") (literal "pw") home)) (by decide +kernel)

/-- The login is sent. -/
def presented : Network := presenting.observed (.resume 0 []) (by decide +kernel)

/-- The login can be handled. -/
theorem presented_answered :
    (answering (fun _ => failingAt []) 0 presented 0).isSome := by decide

/-- The server handles the login. -/
def replied : Network := (answering (fun _ => failingAt []) 0 presented 0).get presented_answered

/-- The bytes of the reply. -/
def replyBytes : List UInt8 := ((replied.links 0).map Link.stream).getD []

/-- The connection is open, the reply has not arrived, and the entry of the login is queued. -/
theorem replied_values :
    (replied.gateway.session.sockets 0).connected = true ∧
      (replied.gateway.session.sockets 0).destroyed = false ∧ replied.fed 0 = [] ∧
        (replied.links 0).map (fun link => link.sent.map Prod.snd) = some [some 0] ∧
          entryOf (replied.asked 0) 0 = some (.auth .login (literal "bob")) ∧
            replied.gateway.session.pendingResponses = [.auth .login (literal "bob")] ∧
              replied.gateway.session.taken replyBytes = [some (.auth .login (literal "bob"))] ∧
                replied.gateway.session.loggedIn = false ∧
                  (replied.gateway.step (.data 0 replyBytes)).isSome := by
  decide +kernel

/-- The reply can be handled. -/
theorem replied_arrives : (replied.gateway.step (.data 0 replyBytes)).isSome := by
  obtain ⟨_, _, _, _, _, _, _, _, possible⟩ := replied_values
  exact possible

/-- The reply arrives. -/
def entered : Network := replied.observed (.data 0 replyBytes) replied_arrives

/-- The login can be handled in a run. -/
theorem replied_reachable : replied.LoginReachable fun _ => failingAt [] := by
  have begun : welcome.LoginReachable fun _ => failingAt [] :=
    .start ⟨fun _ => sample_reachable enrolled_returns, rfl⟩
  have asked : calling.LoginReachable fun _ => failingAt [] :=
    begun.observed _ (careful_of_empty rfl (by simp) (fun queues => queues.2.elim) trivial) trivial rfl
  have joined : called.LoginReachable fun _ => failingAt [] :=
    asked.observed _ (careful_of_empty rfl (by simp) (fun queues => queues.elim) (alone_first rfl))
      trivial rfl
  have accepted : met.LoginReachable fun _ => failingAt [] := by
    have step : called.Step (fun _ => failingAt []) (.accepts 0 0 5) met :=
      ⟨_, served_connect.mpr ⟨by decide, by decide +kernel, rfl⟩, by decide, rfl,
        fun _ _ found => by contradiction, rfl⟩
    exact joined.goes_on (by simp) step
  have connected : ready.LoginReachable fun _ => failingAt [] :=
    accepted.observed _ (careful_of_empty rfl (by simp) (fun _ => rfl) trivial) trivial rfl
  have asks : presenting.LoginReachable fun _ => failingAt [] :=
    connected.observed _ (careful_of_empty rfl (by simp) (fun queues => queues.2.elim) trivial)
      trivial rfl
  have sent : presented.LoginReachable fun _ => failingAt [] :=
    asks.observed _ (careful_of_empty (by decide +kernel) (by simp) (fun _ => by decide +kernel)
      trivial) trivial (by decide)
  exact sent.goes_on (by simp) (answering_step (Option.some_get presented_answered).symm)

/-- The reply can be delivered. -/
theorem replied_delivers : replied.Delivers (.data 0 replyBytes) := by
  obtain ⟨_, _, fresh, tags, _⟩ := replied_values
  obtain ⟨link, found, _⟩ := Option.map_eq_some_iff.mp tags
  have whole : replyBytes = link.stream := by rw [replyBytes, found]; rfl
  refine ⟨link, found, ?_⟩
  rw [fresh, whole, List.nil_append, List.flatten_singleton]

/-- The delivery of the reply is careful. -/
theorem replied_careful : replied.Careful (.data 0 replyBytes) := by
  obtain ⟨_, _, _, tags, entry, _⟩ := replied_values
  obtain ⟨link, found, tagged⟩ := Option.map_eq_some_iff.mp tags
  refine ⟨fun closes => closes.elim, fun queues => queues.elim, nofun, nofun, trivial, ?_⟩
  rintro _ _ other ⟨⟩ same
  cases found.symm.trans same
  refine quiet_of_tracked fun sent member number tag => ?_
  have carried : sent ∈ link.sent :=
    (List.take_sublist _ _).subset ((List.drop_sublist _ _).subset member)
  have first : sent.2 ∈ link.sent.map Prod.snd := List.mem_map_of_mem carried
  rw [tagged, tag, List.mem_singleton, Option.some.injEq] at first
  rw [first, entry]
  simp

/-- The reply to a login is taken for the entry of the login. -/
theorem matched_replied :
    replied.gateway.session.pendingResponses = [.auth .login (literal "bob")] ∧ replied.Matched ∧
      replied.gateway.session.taken replyBytes = [some (.auth .login (literal "bob"))] ∧
        replied.Pairs 0 replyBytes := by
  obtain ⟨connected, live, _, _, _, pending, taken, _⟩ := replied_values
  obtain ⟨queue, pairs⟩ := matched replied_reachable.careful
  exact ⟨pending, queue, taken,
    pairs 0 replyBytes ⟨connected, live, replied_delivers⟩ replied_careful⟩

/-- The browser can log in. -/
theorem entered_reachable : entered.LoginReachable fun _ => failingAt [] := by
  obtain ⟨_, _, _, _, _, _, _, out, _⟩ := replied_values
  exact replied_reachable.observed replied_arrives replied_careful replied_delivers out

/-- The gateway knows that the login was accepted. -/
theorem entered_values : entered.gateway.session.closing = false ∧
    entered.gateway.session.loggedIn = true ∧ entered.gateway.session.username = literal "bob" := by
  decide +kernel

/-- A login that was accepted is known on both sides. -/
theorem loginSound_entered : ∃ network : Network,
    network.gateway.session.closing = false ∧ network.gateway.session.loggedIn = true ∧
      network.gateway.session.username = literal "bob" ∧
      (network.gateway.session.loggedIn = true → ∃ socket,
        network.gateway.session.tcpSocket = some socket ∧
          network.Holds socket network.gateway.session.username) ∧
      ∀ happening gateway' socket packet, network.gateway.step happening = some gateway' →
        (gateway'.session.sockets socket).written = network.written socket ++ [wire packet] →
          packet.type = MessageType.msgRegister.code ∨ packet.type = MessageType.msgLogin.code ∨
            packet.senderName = wireName network.gateway.session.username ∧
              network.gateway.session.openSocket = some socket ∧
                network.Holds socket network.gateway.session.username :=
  ⟨entered, entered_values.1, entered_values.2.1, entered_values.2.2,
    loginSound entered_reachable entered_values.1⟩

/-- The logout can be asked for. -/
theorem entered_leaves : (entered.gateway.step (.browser .logout)).isSome := by
  simp [Gateway.step, entered_values.1]

/-- The browser asks for a logout, which is sent. -/
def departing : Network := entered.observed (.browser .logout) entered_leaves

/-- The logout can be handled. -/
theorem departing_answered :
    (answering (fun _ => failingAt []) 1 departing 0).isSome := by decide +kernel

/-- The server handles the logout; its reply is on the way. -/
def departed : Network := (answering (fun _ => failingAt []) 1 departing 0).get departing_answered

/-- While the reply to a logout is on its way, the gateway takes a user for logged in whom the server
has logged out. -/
theorem loginSound_departed : ¬ ∀ [Sha256] (outcomes : Nat → Nat → Outcome) (network : Network),
    Reachable (Initial outcomes)
        (fun network occurrence network' => network.Step outcomes occurrence network') network →
      network.gateway.session.loggedIn = true → ∃ socket link,
        network.gateway.session.openSocket = some socket ∧ network.links socket = some link ∧
          (network.servers link.server).state.LoggedIn link.fd
            (wireName network.gateway.session.username) := by
  intro claim
  have before : Reachable (Initial fun _ => failingAt [])
      (fun network occurrence network' => network.Step (fun _ => failingAt []) occurrence network')
      entered := entered_reachable.widen fun _ _ _ ⟨_, taken⟩ => taken
  have leaves : entered.Step (fun _ => failingAt []) (.gateway (.browser .logout)) departing :=
    ⟨_, (Option.some_get entered_leaves).symm, trivial, rfl⟩
  have answers := answering_step (Option.some_get departing_answered).symm
  obtain ⟨still, current, server⟩ : departed.gateway.session.loggedIn = true ∧
      departed.gateway.session.openSocket = some 0 ∧
        (departed.links 0).map Link.server = some 0 := by decide +kernel
  have out : ((departed.servers 0).state.users.users.any fun user => user.online) = false := by
    decide
  obtain ⟨socket, link, opened, found, user, member, online, _⟩ :=
    claim _ departed (.next (.next before leaves) answers) still
  cases current.symm.trans opened
  rw [found, Option.map_some, Option.some.injEq] at server
  rw [server] at member
  rw [User.onlineAt, Bool.and_eq_true] at online
  have someone := List.any_eq_true.mpr ⟨user, member, online.1⟩
  rw [out] at someone
  contradiction

end

end Network

end MultiUserChat.Web
