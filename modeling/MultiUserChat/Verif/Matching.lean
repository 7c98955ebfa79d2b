import MultiUserChat.Verif.Attribution
/-!
# Replies and requests

When a step of the gateway is careful (`Network.Careful`), and what a run of the gateway with its chat
servers keeps if they all are (`Network.Valid`): every connection answers its requests in order, and
the queue holds the entries of the requests on the current connection that are unanswered
(`Network.Matched`). Here the steps of the servers are shown to keep it.
-/

namespace MultiUserChat.Web

open ClientSession

/-! ## The condition -/

/-- `ensureTcp` keeps the connection that there is. -/
def ClientSession.Reuses (session : ClientSession) (config : Config) : Prop :=
  session.openSocket.isSome ∧ session.tcpConfig = some config

/-- The gateway closes its connection. -/
def Gateway.Closes (gateway : Gateway) : Happening → Prop
  | .browser action => action = .disconnectTcp ∨
      action = .logout ∧ ¬(gateway.session.loggedIn = true ∧ gateway.session.openSocket.isSome) ∨
      ∃ config, action.target = some config ∧ ¬gateway.session.Reuses config
  | .leave => True
  | _ => False

/-- The gateway queues an entry. -/
def Gateway.Queues (gateway : Gateway) : Happening → Prop
  | .browser action => gateway.session.Queues action
  | .resume number _ => ∃ call, gateway.calls[number]? = some call ∧ call.Queues
  | _ => False

namespace Network

/-- The requests on a socket to which the replies have been handled. -/
def answered (network : Network) (socket : Nat) : List Nat :=
  match network.links socket with
  | none => []
  | some link => answers (link.sent.take (completed (network.fed socket)))

/-- The queue holds the entries of the requests on the current connection that are unanswered. -/
def Matched (network : Network) : Prop :=
  network.gateway.session.pendingResponses =
    match network.gateway.session.tcpSocket with
    | none => []
    | some socket => unanswered (network.asked socket) (network.answered socket)

/-- A step that leaves the queue to the replies. -/
structure Careful (network : Network) (happening : Happening) : Prop where
  /-- A connection is closed with nothing queued. -/
  closes : network.gateway.Closes happening → network.gateway.session.pendingResponses = []
  /-- An entry is queued with an open connection. -/
  queues : network.gateway.Queues happening → network.gateway.session.openSocket.isSome
  /-- A group message that is not sent finds no entry of another one. -/
  withdraws : ∀ groupId text, happening = .browser (.sendGroupMessage groupId text) →
    network.gateway.session.Withdraws groupId text →
      Pending.status .sendGroupMessage ∉ network.gateway.session.pendingResponses
  /-- A socket connects with nothing queued. -/
  connects : ∀ socket, happening = .connect socket →
    network.gateway.session.pendingResponses = []
  /-- A socket connects while no other one is open. -/
  alone : Observed.Alone ⟨network.gateway, network.fed⟩ happening
  /-- A reply to a request without an entry, or to a logout, arrives when nothing else is
  unanswered. -/
  arrives : ∀ socket chunk link, happening = .data socket chunk →
    network.links socket = some link →
      Quiet (network.asked socket) (link.sent.take (completed (network.fed socket)))
        (link.arriving (network.fed socket) chunk)

/-- A step that is careful, if it is one of the gateway. -/
def CarefulStep (network : Network) : Occurrence → Prop
  | .gateway happening => network.Careful happening
  | _ => True

end Network

/-! ## What is written -/

/-- What a step has written on a socket: nothing, or one request with the entry that was queued. -/
inductive Wrote (session session' : ClientSession) (socket : Nat) : Prop
  | nothing (same : (session'.sockets socket).written = (session.sockets socket).written)
  | request (packet : Packet) (entry : Option Pending) (opened : session.openSocket = some socket)
      (wrote : (session'.sockets socket).written = (session.sockets socket).written ++ [wire packet])
      (queued : session'.pendingResponses = session.pendingResponses ++ entry.toList)
      (replied : entry ≠ none → packet.replied = true)

/-- A request that has an entry is always answered by a reply. -/
theorem replied_of_pending {username : Text} {type : MessageType}
    (tracked : pendingOf username type ≠ none) : type.replied = true := by
  cases type <;> first | rfl | exact absurd rfl tracked

/-- A request writes one packet, or nothing. -/
theorem ClientSession.Asks.wrote {session session' : ClientSession} {queues : Prop}
    (asks : Asks session queues session') (other : Nat) : Wrote session session' other := by
  cases asks with
  | @sent request socket bytes opened encoded origin =>
    obtain ⟨packet, rfl, type, _⟩ := Request.wire_of_encoded encoded
    have written := write_written (session.queue request.pending) socket other (wire packet)
    by_cases same : other = socket
    · subst same
      rw [if_pos rfl] at written
      refine .request packet request.pending opened written rfl fun tracked => ?_
      rw [Packet.replied, type, MessageType.ofCode?_code, Option.all_some]
      exact replied_of_pending tracked
    · rw [if_neg same] at written
      exact .nothing written
  | _ => exact .nothing rfl

/-- Closing a connection writes a logout without an entry, or nothing. -/
theorem ClientSession.closeTcp_wrote (session : ClientSession) (sendLogout : Bool) (other : Nat) :
    Wrote session (session.closeTcp sendLogout) other := by
  rcases session.closeTcp_written sendLogout other with
    same | ⟨_, opened, _, bytes, encoded, written⟩
  · exact .nothing same
  · obtain ⟨senderFits, receiverFits, dataFits⟩ := encodePacket_ok encoded
    obtain ⟨packet, wired, _⟩ :=
      encodePacket_wire MessageType.msgLogout.code senderFits receiverFits dataFits
    rw [wired, Except.ok.injEq] at encoded
    refine .request packet none opened (encoded ▸ written) ?_ fun tracked => absurd rfl tracked
    rw [Option.toList_none, List.append_nil]
    exact (session.closeTcp_kept sendLogout).2.1

/-- Sockets that have not connected have nothing written on them. -/
def Unwritten (session : ClientSession) : Prop :=
  ∀ socket, (session.sockets socket).connected = false → (session.sockets socket).written = []

/-- Closing a connection writes nothing on sockets that have not connected. -/
theorem Unwritten.closeTcp {session : ClientSession} (unwritten : Unwritten session)
    {fed : Nat → List (List UInt8)} (linked : Linked session fed) {sendLogout : Bool} :
    Unwritten (session.closeTcp sendLogout) := by
  intro socket closed
  obtain ⟨written, record⟩ := session.closeTcp_sockets sendLogout socket
  have before : (session.sockets socket).connected = false := by rwa [record] at closed
  rcases session.closeTcp_written sendLogout socket with same | ⟨_, opened, _⟩
  · rw [same, unwritten socket before]
  · have current := linked.current socket (Option.filter_eq_some_iff.mp opened).1
    rw [before] at current
    contradiction

/-- A new socket has nothing written on it. -/
theorem createConnection_written {session : ClientSession} (unwritten : Unwritten session)
    {fed : Nat → List (List UInt8)} (linked : Linked session fed) (config : Config) (other : Nat) :
    ((session.createConnection config).1.sockets other).written =
      (session.sockets other).written := by
  by_cases new : other = session.created
  · subst new
    have closed : (session.sockets session.created).connected = false := by
      by_contra connected
      have before := (linked.settled session.created (by simpa using connected)).2
      exact absurd before (Nat.lt_irrefl _)
    rw [unwritten _ closed]
    simp [createConnection]
  · simp [createConnection, new]

/-- Changing what else is known of a socket writes nothing. -/
theorem updateSocket_written (session : ClientSession) (socket : Nat) {change : Socket → Socket}
    (same : ∀ record, (change record).written = record.written) (other : Nat) :
    ((session.updateSocket socket change).sockets other).written =
      (session.sockets other).written := by
  by_cases here : other = socket
  · subst here
    simp [updateSocket, same]
  · simp [updateSocket, here]

/-- The callback of `close` leaves the sockets as they are. -/
theorem ClientSession.onClose_sockets (session : ClientSession) (socket : Nat) :
    (session.onClose socket).sockets = session.sockets := by
  unfold onClose
  dsimp only
  split
  · rfl
  split
  · rfl
  split
  · rfl
  · split <;> rfl

/-- Closing a connection does the same to the sockets while the browser leaves. -/
theorem ClientSession.closeTcp_leaving (session : ClientSession) (sendLogout : Bool) :
    ({ session with closing := true }.closeTcp sendLogout).sockets =
      (session.closeTcp sendLogout).sockets := by
  have opened : ({ session with closing := true } : ClientSession).openSocket =
    session.openSocket := rfl
  unfold closeTcp
  rw [opened]
  cases session.openSocket with
  | none => rfl
  | some socket =>
    dsimp only
    split
    · split <;> rfl
    · rfl

/-- A step of the gateway, other than a delivery, writes what a request writes, or the logout of a
connection that is closed, or nothing. -/
theorem Gateway.Moves.writes {gateway gateway' : Gateway} {happening : Happening}
    {fed : Nat → List (List UInt8)} (linked : Linked gateway.session fed)
    (unwritten : Unwritten gateway.session) (silent : ∀ socket chunk, happening ≠ .data socket chunk)
    (moves : Moves gateway happening gateway') :
    (∃ queues, Asks gateway.session queues gateway'.session) ∨
      (gateway'.session.sockets = (gateway.session.closeTcp true).sockets ∧
        gateway'.session.pendingResponses = gateway.session.pendingResponses ∧
          gateway'.session.tcpSocket = none) ∨
      ∀ other, (gateway'.session.sockets other).written =
        (gateway.session.sockets other).written := by
  cases moves with
  | asked asks => exact .inl ⟨_, asks⟩
  | withdrew => exact .inr (.inr fun _ => rfl)
  | disconnected =>
    obtain ⟨closed, queue, _⟩ := gateway.session.closeTcp_kept true
    exact .inr (.inl ⟨rfl, queue, closed⟩)
  | loggedOut closed =>
    refine .inr (.inr fun other => ?_)
    unfold logout
    rw [if_neg closed]
    exact closeTcp_silent
      { gateway.session with loggedIn := false, username := [], groupsById := [] } other
  | waits valid target =>
    refine .inr (.inr fun other => ?_)
    unfold ensureTcp
    split
    · rfl
    · refine Eq.trans ?_ (gateway.session.closeTcp_silent other)
      exact createConnection_written (unwritten.closeTcp linked) (linked.closeTcp false) _ other
  | left =>
    obtain ⟨closed, queue, _⟩ :=
      ClientSession.closeTcp_kept { gateway.session with closing := true } true
    exact .inr (.inl ⟨gateway.session.closeTcp_leaving true, queue, closed⟩)
  | @connected socket =>
    have kept (other : Nat) : ((gateway.session.updateSocket socket fun record =>
        { record with settled := true, connected := true }).sockets other).written =
          (gateway.session.sockets other).written := updateSocket_written _ _ (by intro _; rfl) other
    exact .inr (.inr kept)
  | @lost socket =>
    have kept (other : Nat) : ((gateway.session.destroy socket).sockets other).written =
        (gateway.session.sockets other).written := updateSocket_written _ _ (by intro _; rfl) other
    exact .inr (.inr kept)
  | @failed socket =>
    have kept (other : Nat) : ((gateway.session.updateSocket socket fun record =>
        { record with settled := true }).sockets other).written =
          (gateway.session.sockets other).written :=
      updateSocket_written _ _ (by intro _; rfl) other
    exact .inr (.inr kept)
  | broken =>
    refine .inr (.inr fun _ => ?_)
    dsimp only
    unfold onError
    split <;> rfl
  | closed =>
    refine .inr (.inr fun other => ?_)
    dsimp only
    rw [onClose_sockets]
    exact updateSocket_written _ _ (by intro _; rfl) other
  | delivered => exact absurd rfl (silent _ _)
  | ended found asks => exact .inl ⟨_, asks⟩
  | gaveUp => exact .inr (.inr fun _ => rfl)
  | retried => exact .inr (.inr (createConnection_written unwritten linked _))

/-- A step of the gateway, other than a delivery, writes one packet, or nothing. -/
theorem Gateway.Moves.wrote {gateway gateway' : Gateway} {happening : Happening}
    {fed : Nat → List (List UInt8)} (linked : Linked gateway.session fed)
    (unwritten : Unwritten gateway.session) (silent : ∀ socket chunk, happening ≠ .data socket chunk)
    (moves : Moves gateway happening gateway') (other : Nat) :
    Wrote gateway.session gateway'.session other := by
  rcases moves.writes linked unwritten silent with ⟨_, asks⟩ | ⟨sockets, queue, _⟩ | same
  · exact asks.wrote other
  · rcases gateway.session.closeTcp_wrote true other with
      same | ⟨packet, entry, opened, wrote, queued, replied⟩
    · exact .nothing (sockets ▸ same)
    · have kept := (gateway.session.closeTcp_kept true).2.1
      exact .request packet entry opened (sockets ▸ wrote)
        (queue.trans (kept.symm.trans queued)) replied
  · exact .nothing (same other)

/-! ## Names -/

/-- Entries that are queued keep the names short when the new entry's is. -/
theorem ClientSession.Named.add {session session' : ClientSession} (named : session.Named)
    (username : session'.username = session.username) {entry : Option Pending}
    (queue : session'.pendingResponses = session.pendingResponses ++ entry.toList)
    (short : ∀ action name, entry = some (.auth action name) → byteLength name < usernameMaxLen) :
    session'.Named := by
  refine ⟨username ▸ named.1, fun action name member => ?_⟩
  rw [queue, List.mem_append, Option.mem_toList] at member
  exact member.elim (named.2 action name) (short action name)

/-- The name in the entry of a request is the sender's. -/
theorem pendingOf_auth {username name : Text} {type : MessageType} {action : AuthAction}
    (entry : pendingOf username type = some (.auth action name)) : name = username := by
  cases type <;> simp [pendingOf] at entry <;> exact entry.2.symm

/-- The sender of a request has a short name. -/
theorem ClientSession.Origin.short {session : ClientSession} {request : Request}
    (origin : session.Origin request) (named : session.Named) :
    byteLength request.sender < usernameMaxLen := by
  rcases origin with ⟨_, short⟩ | ⟨_, own⟩
  · exact short
  · exact own ▸ named.1

/-- A request keeps the names short. -/
theorem ClientSession.Asks.named {session session' : ClientSession} {queues : Prop}
    (asks : Asks session queues session') (named : session.Named) : session'.Named := by
  cases asks with
  | nothing => exact named
  | told => exact named
  | sent request opened encoded origin =>
    exact named.add rfl rfl fun action name entry => pendingOf_auth entry ▸ origin.short named
  | unsent request notice queued cannot origin =>
    exact named.add rfl rfl fun action name entry => pendingOf_auth entry ▸ origin.short named

/-- Names stay short when the user and the queue stay. -/
theorem ClientSession.Named.same {session session' : ClientSession} (named : session.Named)
    (username : session'.username = session.username ∨ session'.username = [])
    (queue : ∀ entry ∈ session'.pendingResponses, entry ∈ session.pendingResponses) :
    session'.Named := by
  refine ⟨?_, fun action name member => named.2 action name (queue _ member)⟩
  rcases username with same | none
  · exact same ▸ named.1
  · rw [none]
    decide

/-- A step of the gateway, other than a delivery, keeps the names short. -/
theorem Gateway.Moves.named {gateway gateway' : Gateway} {happening : Happening}
    (named : gateway.session.Named) (silent : ∀ socket chunk, happening ≠ .data socket chunk)
    (moves : Moves gateway happening gateway') : gateway'.session.Named := by
  have closed (session : ClientSession) (sendLogout : Bool) (named : session.Named) :
      (session.closeTcp sendLogout).Named := by
    obtain ⟨_, queue, username, _⟩ := session.closeTcp_kept sendLogout
    exact named.same (.inl username) fun _ member => queue ▸ member
  cases moves with
  | asked asks => exact asks.named named
  | withdrew => exact named.same (.inl rfl) fun _ member => List.mem_of_mem_filter member
  | disconnected => exact closed _ true named
  | loggedOut open_ =>
    unfold logout
    rw [if_neg open_]
    exact closed _ false (named.same (.inr rfl) fun _ => id)
  | waits valid target =>
    unfold ensureTcp
    split
    · exact named
    · exact closed _ false named
  | left => exact closed _ true named
  | connected => exact named
  | lost => exact named
  | failed => exact named
  | broken =>
    dsimp only
    unfold onError
    split <;> exact named
  | closed =>
    dsimp only
    unfold onClose
    dsimp only
    split
    · exact named
    split
    · exact named.same (.inl rfl) fun _ member => absurd member List.not_mem_nil
    split
    · exact named.same (.inr rfl) fun _ member => absurd member List.not_mem_nil
    · split <;> exact named.same (.inr rfl) fun _ member => absurd member List.not_mem_nil
  | delivered => exact absurd rfl (silent _ _)
  | ended found asks => exact asks.named named
  | gaveUp => exact named
  | retried => exact named

/-! ## What is sent on a connection -/

/-- The server answers the requests on a connection in order. -/
structure Link.Ordered (link : Link) (asked : List (Option Pending)) : Prop where
  /-- The replies come in order. -/
  ordered : InOrder asked (answers link.sent)
  /-- A reply answers a request. -/
  numbered : Numbered link.sent
  /-- Requests are handled after they were made. -/
  handled : link.handled ≤ asked.length
  /-- Requests are answered when they are handled. -/
  earlier : ∀ number ∈ answers link.sent, number < link.handled
  /-- On a connection that works, each request with an entry that was handled is answered. -/
  complete : link.broken = false → ∀ number < link.handled, entryOf asked number ≠ none →
    number ∈ answers link.sent

/-- Another request leaves the order as it is. -/
theorem Link.Ordered.ask {link : Link} {asked : List (Option Pending)} (ordered : link.Ordered asked)
    (later : List (Option Pending)) : link.Ordered (asked ++ later) where
  ordered := ordered.ordered.ask later
  numbered := ordered.numbered
  handled := by
    rw [List.length_append]
    exact ordered.handled.trans (Nat.le_add_right _ _)
  earlier := ordered.earlier
  complete works number before tracked := by
    rw [entryOf_append (before.trans_le ordered.handled)] at tracked
    exact ordered.complete works number before tracked

/-- Packets that are no replies answer nothing. -/
theorem answers_eq_nil {sent : List (Packet × Option Nat)}
    (others : ∀ entry ∈ sent, entry.1.reply = false) : answers sent = [] := by
  rw [answers, List.filterMap_eq_nil_iff]
  intro entry member
  rw [if_neg (by rw [others entry member]; decide)]

/-- An operation puts no reply on the connection. -/
def Link.Unanswering (fd : Int) (event : Event Operation Answer) : Prop :=
  ∀ packet delivered, Link.sending fd event = some (packet, delivered) → packet.reply = false

/-- An operation that sends no reply puts none on any connection. -/
theorem Link.unanswering_of_not_replies {fd : Int} {event : Event Operation Answer}
    (silent : ¬event.op.Replies) : Link.Unanswering fd event := by
  obtain ⟨op, answer⟩ := event
  intro packet delivered sent
  cases op with
  | send target packet' owner =>
    by_contra reply
    simp only [sending, Option.ite_none_right_eq_some, Option.some.injEq, Prod.mk.injEq] at sent
    exact silent ⟨target, packet', owner, rfl, by rw [sent.2.1]; simpa using reply⟩
  | _ => contradiction

/-- A reply to one descriptor is none on another one. -/
theorem Link.unanswering_of_repliesTo {fd target : Int} {event : Event Operation Answer}
    (reply : event.op.RepliesTo target) (other : target ≠ fd) : Link.Unanswering fd event := by
  obtain ⟨op, answer⟩ := event
  obtain ⟨packet, rfl, _⟩ := reply
  intro packet' delivered sent
  simp only [sending, if_neg other] at sent
  contradiction

namespace Link

variable {link : Link} {asked : List (Option Pending)}

/-- What stays as it is. -/
theorem hears_same (link : Link) (events : List (Event Operation Answer)) (number : Option Nat) :
    (link.hears events number).server = link.server ∧ (link.hears events number).fd = link.fd ∧
      (link.hears events number).handled = link.handled ∧
      (link.hears events number).closed = link.closed := by
  unfold hears
  split <;> exact ⟨rfl, rfl, rfl, rfl⟩

/-- Packets are added, and a connection that works has worked before. -/
theorem hears_sent (link : Link) (events : List (Event Operation Answer)) (number : Option Nat) :
    ∃ more, (link.hears events number).sent = link.sent ++ more ∧
      ((link.hears events number).broken = false → link.broken = false) := by
  unfold hears
  split
  · exact ⟨[], by rw [List.append_nil], id⟩
  · rename_i works
    rw [not_or] at works
    exact ⟨_, rfl, fun _ => by simpa using works.1⟩

/-- Operations that put no reply on the connection keep it ordered. -/
theorem Ordered.silent (ordered : link.Ordered asked) {events : List (Event Operation Answer)}
    {number : Option Nat} (silent : ∀ event ∈ events, Unanswering link.fd event) :
    (link.hears events number).Ordered asked := by
  obtain ⟨_, _, handled, _⟩ := link.hears_same events number
  obtain ⟨more, sent, works, others⟩ : ∃ more, (link.hears events number).sent = link.sent ++ more ∧
      ((link.hears events number).broken = false → link.broken = false) ∧
        ∀ entry ∈ more, entry.1.reply = false := by
    unfold hears
    split
    · exact ⟨[], by rw [List.append_nil], id, by simp⟩
    · rename_i works
      rw [not_or] at works
      refine ⟨_, rfl, fun _ => by simpa using works.1, fun entry member => ?_⟩
      obtain ⟨⟨packet, delivered⟩, taken, rfl⟩ := List.mem_map.mp member
      obtain ⟨event, performed, sending⟩ :=
        List.mem_filterMap.mp ((List.takeWhile_prefix _).subset taken)
      exact silent event performed packet delivered sending
  have same : answers (link.hears events number).sent = answers link.sent := by
    rw [sent, answers_append, answers_eq_nil others, List.append_nil]
  refine ⟨same ▸ ordered.ordered, ?_, handled ▸ ordered.handled, ?_, ?_⟩
  · rw [sent]
    exact List.forall_mem_append.mpr ⟨ordered.numbered, fun entry member reply => by
      rw [others entry member] at reply
      contradiction⟩
  · rw [same, handled]
    exact ordered.earlier
  · rw [same, handled]
    exact fun now => ordered.complete (works now)

/-- Packets that were sent without a reply among them answer nothing. -/
theorem answers_sends {sends : List (Packet × Bool)} {number : Option Nat}
    (others : ∀ send ∈ sends, send.1.reply = false) :
    answers (sends.map fun send => (send.1, number)) = [] := by
  refine answers_eq_nil fun entry member => ?_
  obtain ⟨send, sent, rfl⟩ := List.mem_map.mp member
  exact others send sent

/-- One reply among the sends arrives, or the connection breaks before. -/
theorem answers_takeWhile {front back : List (Packet × Bool)} {packet : Packet} {delivered : Bool}
    {number : Nat} (before : ∀ send ∈ front, send.1.reply = false)
    (after : ∀ send ∈ back, send.1.reply = false) (reply : packet.reply = true) :
    let sends := front ++ (packet, delivered) :: back
    answers ((sends.takeWhile Prod.snd).map fun send => (send.1, some number)) = [number] ∨
      answers ((sends.takeWhile Prod.snd).map fun send => (send.1, some number)) = [] ∧
        (sends.any fun send => !send.2) = true := by
  have shorter (sends : List (Packet × Bool)) (others : ∀ send ∈ sends, send.1.reply = false) :
      ∀ send ∈ sends.takeWhile Prod.snd, send.1.reply = false :=
    fun send member => others send ((List.takeWhile_prefix _).subset member)
  dsimp only
  rw [List.takeWhile_append]
  split
  · cases delivered with
    | true =>
      left
      rw [List.takeWhile_cons_of_pos rfl, List.map_append, List.map_cons, answers_append,
        answers_sends before, List.nil_append, ← List.singleton_append, answers_append,
        answers_sends (shorter back after), List.append_nil]
      simp [answers, reply]
    | false =>
      right
      rw [List.takeWhile_cons_of_neg (by simp), List.append_nil, answers_sends before]
      exact ⟨rfl, by simp⟩
  · rename_i failed
    right
    refine ⟨answers_sends (shorter front before), ?_⟩
    rw [List.any_append, Bool.or_eq_true]
    left
    by_contra works
    refine failed (congrArg List.length ?_)
    rw [List.takeWhile_eq_self_iff]
    simpa using works

/-- Handling the next request with one reply, and other operations around it, keeps the connection
ordered. -/
theorem Ordered.replied (ordered : link.Ordered asked) (open_ : link.closed = false)
    (made : link.handled < asked.length) {front back : List (Event Operation Answer)}
    {event : Event Operation Answer} (before : ∀ event ∈ front, Unanswering link.fd event)
    (after : ∀ event ∈ back, Unanswering link.fd event) (reply : event.op.RepliesTo link.fd) :
    Ordered { link.hears (front ++ [event] ++ back) (some link.handled) with
      handled := link.handled + 1 } asked := by
  have new : link.handled ∉ answers link.sent := fun old =>
    absurd (ordered.earlier _ old) (Nat.lt_irrefl _)
  by_cases works : link.broken = true
  · have same : link.hears (front ++ [event] ++ back) (some link.handled) = link :=
      if_pos (.inl works)
    rw [same]
    refine ⟨ordered.ordered, ordered.numbered, made, fun number member => ?_, fun now => ?_⟩
    · exact Nat.lt_succ_of_lt (ordered.earlier number member)
    · have contrary : link.broken = false := now
      rw [works] at contrary
      contradiction
  obtain ⟨op, delivered⟩ := event
  obtain ⟨packet, rfl, isReply⟩ := reply
  have others {events : List (Event Operation Answer)}
      (silent : ∀ event ∈ events, Unanswering link.fd event) :
      ∀ send ∈ events.filterMap (sending link.fd), send.1.reply = false := by
    rintro ⟨packet, delivered⟩ member
    obtain ⟨event, performed, sent⟩ := List.mem_filterMap.mp member
    exact silent event performed packet delivered sent
  let event : Event Operation Answer := ⟨.send link.fd packet none, delivered⟩
  have sends : (front ++ [event] ++ back).filterMap (sending link.fd) =
      front.filterMap (sending link.fd) ++
        (packet, delivered) :: back.filterMap (sending link.fd) := by
    rw [List.append_assoc, List.filterMap_append, List.singleton_append,
      List.filterMap_cons_some (by rw [sending, if_pos rfl])]
  have heard : link.hears (front ++ [event] ++ back) (some link.handled) = _ :=
    if_neg (not_or.mpr ⟨works, by simp [open_]⟩)
  dsimp only at heard
  rw [sends] at heard
  change Ordered { link.hears (front ++ [event] ++ back) (some link.handled) with
    handled := link.handled + 1 } asked
  rw [heard]
  have done := ordered.complete (by simpa using works)
  have numbered {sends : List (Packet × Bool)} :
      Numbered (sends.map fun send => (send.1, some link.handled)) := by
    intro entry member _
    obtain ⟨_, _, rfl⟩ := List.mem_map.mp member
    simp
  have replies : Numbered (link.sent ++
      ((front.filterMap (sending link.fd) ++ (packet, delivered) ::
        back.filterMap (sending link.fd)).takeWhile Prod.snd).map fun send =>
          (send.1, some link.handled)) := List.forall_mem_append.mpr ⟨ordered.numbered, numbered⟩
  have outcome : _ ∨ _ :=
    @answers_takeWhile _ _ _ delivered link.handled (others before) (others after) isReply
  rcases outcome with one | ⟨none, breaks⟩
  · refine ⟨?_, replies, made, ?_, fun _ => ?_⟩
    · dsimp only
      rw [answers_append, one]
      exact ordered.ordered.reply made new fun number less => done number less
    · dsimp only
      rw [answers_append, one]
      intro number member
      rcases List.mem_append.mp member with old | new
      · exact Nat.lt_succ_of_lt (ordered.earlier number old)
      · exact List.mem_singleton.mp new ▸ Nat.lt_succ_self _
    · dsimp only
      rw [answers_append, one]
      intro number less tracked
      rcases Nat.lt_succ_iff_lt_or_eq.mp less with old | rfl
      · exact List.mem_append_left _ (done number old tracked)
      · exact List.mem_append_right _ List.mem_cons_self
  · refine ⟨?_, replies, made, ?_, fun works => ?_⟩
    · dsimp only
      rw [answers_append, none, List.append_nil]
      exact ordered.ordered
    · dsimp only
      rw [answers_append, none, List.append_nil]
      exact fun number old => Nat.lt_succ_of_lt (ordered.earlier number old)
    · dsimp only at works
      rw [breaks] at works
      contradiction

/-- Handling the next request without a reply keeps the connection ordered, if the request has no
entry. -/
theorem Ordered.unreplied (ordered : link.Ordered asked) (made : link.handled < asked.length)
    (untracked : entryOf asked link.handled = none) {events : List (Event Operation Answer)}
    (silent : ∀ event ∈ events, Unanswering link.fd event) :
    Ordered { link.hears events (some link.handled) with handled := link.handled + 1 } asked := by
  have heard : (link.hears events (some link.handled)).Ordered asked := ordered.silent silent
  obtain ⟨_, _, handled, _⟩ := link.hears_same events (some link.handled)
  refine ⟨heard.ordered, heard.numbered, made, fun number old => ?_, fun works number less tracked => ?_⟩
  · exact Nat.lt_succ_of_lt (handled ▸ heard.earlier number old)
  · rcases Nat.lt_succ_iff_lt_or_eq.mp less with old | rfl
    · exact heard.complete works number (handled.symm ▸ old) tracked
    · exact absurd untracked tracked

end Link

/-! ## What every step keeps -/

/-- The entries of what was written on a socket; a packet with an entry is always answered. -/
structure Recorded (written : List (List UInt8)) (asked : List (Option Pending)) : Prop where
  /-- There is one for each packet. -/
  length : asked.length = written.length
  /-- What was written are packets. -/
  packets : ∀ number bytes, written[number]? = some bytes → ∃ packet : Packet,
    bytes = wire packet ∧ (entryOf asked number ≠ none → packet.replied = true)

/-- One more packet is written. -/
theorem Recorded.add {written : List (List UInt8)} {asked : List (Option Pending)}
    (recorded : Recorded written asked) {packet : Packet} {entry : Option Pending}
    (replied : entry ≠ none → packet.replied = true) :
    Recorded (written ++ [wire packet]) (asked ++ [entry]) := by
  refine ⟨by rw [List.length_append, List.length_append, recorded.length]; rfl,
    fun number bytes found => ?_⟩
  rcases Nat.lt_trichotomy number written.length with old | rfl | beyond
  · rw [List.getElem?_append_left old] at found
    rw [entryOf_append (recorded.length ▸ old)]
    exact recorded.packets number bytes found
  · rw [List.getElem?_append_right le_rfl, Nat.sub_self, List.getElem?_cons_zero,
      Option.some.injEq] at found
    refine ⟨packet, found.symm, fun tracked => replied ?_⟩
    rw [entryOf, ← recorded.length, List.getElem?_append_right le_rfl, Nat.sub_self] at tracked
    exact tracked
  · rw [List.getElem?_eq_none (by simpa using beyond)] at found
    contradiction

/-- No more packets are completed than were sent. -/
theorem completed_le {fed : List (List UInt8)} {link : Link} (front : fed.flatten <+: link.stream) :
    completed fed ≤ link.sent.length := by
  have packets : link.stream = (link.sent.map Prod.fst).flatMap wire := by
    rw [Link.stream, List.flatMap_map]
  obtain ⟨count, rest, bound, decoded⟩ := decode_front (packets ▸ front)
  rw [List.length_map] at bound
  rw [completed, decoded, List.length_map, List.length_take, List.length_map, Nat.min_eq_left bound]
  exact bound

namespace Network

/-- Open connections to one server have different descriptors. -/
def Apart (network : Network) : Prop :=
  ∀ socket other link link', network.links socket = some link → network.links other = some link' →
    link.server = link'.server → link.closed = false → link'.closed = false → link.fd = link'.fd →
      socket = other

/-- Connections stay apart when no new ones are accepted and none is opened again. -/
theorem Apart.kept {network network' : Network} (apart : network.Apart)
    (kept : ∀ socket link', network'.links socket = some link' → ∃ link,
      network.links socket = some link ∧ link'.server = link.server ∧ link'.fd = link.fd ∧
        (link'.closed = false → link.closed = false)) : network'.Apart := by
  intro socket other link link' found found' server open_ open_' fd
  obtain ⟨before, old, server₁, fd₁, closed₁⟩ := kept socket link found
  obtain ⟨before', old', server₂, fd₂, closed₂⟩ := kept other link' found'
  exact apart socket other before before' old old' (server₁ ▸ server₂ ▸ server) (closed₁ open_)
    (closed₂ open_') (fd₁ ▸ fd₂ ▸ fd)

/-- What every careful step keeps. -/
structure Valid (network : Network) : Prop where
  /-- The session has one live connection. -/
  linked : Linked network.gateway.session network.fed
  /-- What the calls wait for has passed the validation. -/
  calls : ∀ call ∈ network.gateway.calls, call.purpose.Valid
  /-- The names of the session fit their fields. -/
  named : network.gateway.session.Named
  /-- Sockets that have not connected have nothing written on them. -/
  unwritten : Unwritten network.gateway.session
  /-- There is an entry for each packet that was written. -/
  recorded : ∀ socket,
    Recorded (network.gateway.session.sockets socket).written (network.asked socket)
  /-- Requests are answered in order. -/
  ordered : ∀ socket link, network.links socket = some link → link.Ordered (network.asked socket)
  /-- What has arrived was sent. -/
  arrived : ∀ socket link, network.links socket = some link →
    (network.fed socket).flatten <+: link.stream
  /-- Nothing arrives before the connection is accepted. -/
  unlinked : ∀ socket, network.links socket = none → network.fed socket = []
  /-- Connections are apart. -/
  apart : network.Apart
  /-- The queue is right. -/
  matched : network.Matched

/-- What has arrived stays answered when the servers only add to what was sent. -/
theorem Valid.answered_kept {network network' : Network} (valid : network.Valid)
    (fed : network'.fed = network.fed) {socket : Nat}
    (sent : ∀ link', network'.links socket = some link' →
      network.links socket = none ∧ link'.sent = [] ∨ ∃ link more,
        network.links socket = some link ∧ link'.sent = link.sent ++ more)
    (kept : network'.links socket = none → network.links socket = none) :
    network'.answered socket = network.answered socket := by
  unfold Network.answered
  rw [fed]
  cases after : network'.links socket with
  | none => rw [kept after]
  | some link' =>
    rcases sent link' after with ⟨before, nothing⟩ | ⟨link, more, before, sent⟩
    · rw [before]
      dsimp only
      rw [nothing, List.take_nil]
      rfl
    · rw [before]
      dsimp only
      rw [sent, List.take_append_of_le_length (completed_le (valid.arrived socket link before))]

/-- A step of the servers keeps what is kept when it only adds to what was sent, in order. -/
theorem Valid.servers {network network' : Network} (valid : network.Valid)
    (gateway : network'.gateway = network.gateway) (fed : network'.fed = network.fed)
    (asked : network'.asked = network.asked)
    (links : ∀ socket link', network'.links socket = some link' →
      link'.Ordered (network.asked socket) ∧
        (network.links socket = none ∧ link'.sent = [] ∨ ∃ link more,
          network.links socket = some link ∧ link'.sent = link.sent ++ more))
    (kept : ∀ socket, network'.links socket = none → network.links socket = none)
    (apart : network'.Apart) : network'.Valid := by
  have answered (socket : Nat) : network'.answered socket = network.answered socket :=
    valid.answered_kept fed (fun link' after => (links socket link' after).2) (kept socket)
  refine ⟨?_, ?_, ?_, ?_, ?_, ?_, ?_, ?_, apart, ?_⟩
  · rw [gateway, fed]
    exact valid.linked
  · rw [gateway]
    exact valid.calls
  · rw [gateway]
    exact valid.named
  · rw [gateway]
    exact valid.unwritten
  · rw [gateway, asked]
    exact valid.recorded
  · intro socket link' after
    rw [asked]
    exact (links socket link' after).1
  · intro socket link' after
    rw [fed]
    rcases (links socket link' after).2 with ⟨before, _⟩ | ⟨link, more, before, sent⟩
    · rw [valid.unlinked socket before]
      exact List.nil_prefix
    · refine (valid.arrived socket link before).trans ?_
      rw [Link.stream, Link.stream, sent, List.flatMap_append]
      exact List.prefix_append _ _
  · intro socket after
    rw [fed]
    exact valid.unlinked socket (kept socket after)
  · unfold Matched
    rw [gateway, asked, funext answered]
    exact valid.matched

/-- A step of a server adds to what was sent on its connections. -/
theorem served_links {network : Network} {server : Nat} {machine : ServerMachine}
    {numbers : Nat → Option Nat} {socket : Nat} {link' : Link}
    (after : (network.served server machine numbers).links socket = some link') :
    ∃ link, network.links socket = some link ∧
      (link.server ≠ server ∧ link' = link ∨
        link.server = server ∧ link' =
          link.hears (machine.trace.drop (network.servers server).trace.length) (numbers socket)) := by
  obtain ⟨link, before, same⟩ := Option.map_eq_some_iff.mp after
  refine ⟨link, before, ?_⟩
  by_cases here : link.server = server
  · rw [if_pos here] at same
    exact .inr ⟨here, same.symm⟩
  · rw [if_neg here] at same
    exact .inl ⟨here, same.symm⟩

/-- A step of a server accepts no connection of a socket. -/
theorem served_none {network : Network} {server : Nat} {machine : ServerMachine}
    {numbers : Nat → Option Nat} {socket : Nat}
    (after : (network.served server machine numbers).links socket = none) :
    network.links socket = none := Option.map_eq_none_iff.mp after

/-- The connections of one change. -/
theorem updateLink_links {network : Network} {socket other : Nat} {change : Link → Link} :
    (network.updateLink socket change).links other =
      if other = socket then (network.links other).map change else network.links other := by
  by_cases same : other = socket
  · subst same
    simp [updateLink]
  · simp [updateLink, same]

variable {network network' : Network}

/-- An input of another descriptor puts no reply on a connection. -/
theorem served_unanswering [Sha256] {outcomes : Nat → Outcome} {machine machine' : ServerMachine}
    {input : Input} (served : Served outcomes machine input machine') {fd : Int}
    (other : (∃ target packet, input = .packet target packet) → inputFd input ≠ fd) :
    ∀ event ∈ machine'.trace.drop machine.trace.length, Link.Unanswering fd event := by
  obtain ⟨front, middle, back, whole, before, after, one⟩ := served.replies
  rw [whole, List.drop_left]
  intro event member
  rw [List.mem_append, List.mem_append] at member
  rcases member with (early | own) | late
  · exact Link.unanswering_of_not_replies (before event early)
  · rcases one with ⟨rfl, _⟩ | ⟨target, packet, reply, rfl, rfl, own'⟩
    · contradiction
    · rw [List.mem_singleton.mp own]
      exact Link.unanswering_of_repliesTo own' (other ⟨target, packet, rfl⟩)
  · exact Link.unanswering_of_not_replies (after event late)

/-- A step of a server keeps connections apart. -/
theorem Apart.served (apart : network.Apart) (server : Nat) (machine : ServerMachine)
    (numbers : Nat → Option Nat) : (network.served server machine numbers).Apart := by
  refine apart.kept fun socket link' after => ?_
  obtain ⟨link, before, ⟨_, rfl⟩ | ⟨_, rfl⟩⟩ := served_links after
  · exact ⟨link', before, rfl, rfl, id⟩
  · obtain ⟨server, fd, _, closed⟩ := link.hears_same (machine.trace.drop _) (numbers socket)
    exact ⟨link, before, server, fd, fun open_ => closed ▸ open_⟩

/-- A change that keeps the descriptor keeps connections apart. -/
theorem Apart.updateLink (apart : network.Apart) (socket : Nat) {change : Link → Link}
    (same : ∀ link, (change link).server = link.server ∧ (change link).fd = link.fd ∧
      ((change link).closed = false → link.closed = false)) :
    (network.updateLink socket change).Apart := by
  refine apart.kept fun other link' after => ?_
  rw [updateLink_links] at after
  split at after
  · obtain ⟨link, before, rfl⟩ := Option.map_eq_some_iff.mp after
    exact ⟨link, before, same link⟩
  · exact ⟨link', after, rfl, rfl, id⟩

/-- Operations that put no reply on a connection keep it as it should be. -/
theorem Valid.silent (valid : network.Valid) {socket : Nat} {link : Link}
    (before : network.links socket = some link) {events : List (Event Operation Answer)}
    (number : Option Nat)
    (silent : link.closed = false → ∀ event ∈ events, Link.Unanswering link.fd event) :
    (link.hears events number).Ordered (network.asked socket) := by
  by_cases closed : link.closed = true
  · have same : link.hears events number = link := if_pos (.inr closed)
    rw [same]
    exact valid.ordered socket link before
  · exact (valid.ordered socket link before).silent (silent (by simpa using closed))

/-- The connections after a step of a server that changes one of them. -/
theorem served_updateLink {server : Nat} {machine : ServerMachine} {numbers : Nat → Option Nat}
    {socket other : Nat} {change : Link → Link} {link' : Link}
    (after : ((network.served server machine numbers).updateLink socket change).links other =
      some link') : ∃ link later, network.links other = some link ∧
        (network.served server machine numbers).links other = some later ∧
        (other = socket ∧ link' = change later ∨ other ≠ socket ∧ link' = later) := by
  rw [updateLink_links] at after
  split at after
  · rename_i same
    obtain ⟨later, found, rfl⟩ := Option.map_eq_some_iff.mp after
    obtain ⟨link, before, _⟩ := served_links found
    exact ⟨link, later, before, found, .inl ⟨same, rfl⟩⟩
  · rename_i different
    obtain ⟨link, before, _⟩ := served_links after
    exact ⟨link, link', before, after, .inr ⟨different, rfl⟩⟩

/-- A step of a server that changes one connection accepts none. -/
theorem served_updateLink_none {server : Nat} {machine : ServerMachine}
    {numbers : Nat → Option Nat} {socket other : Nat} {change : Link → Link}
    (after : ((network.served server machine numbers).updateLink socket change).links other =
      none) : network.links other = none := by
  rw [updateLink_links] at after
  split at after
  · exact served_none (Option.map_eq_none_iff.mp after)
  · exact served_none after

/-- What a step of a server has sent on a connection. -/
theorem served_sent {server : Nat} {machine : ServerMachine} {numbers : Nat → Option Nat}
    {socket : Nat} {link' : Link}
    (after : (network.served server machine numbers).links socket = some link') :
    ∃ link more, network.links socket = some link ∧ link'.sent = link.sent ++ more := by
  obtain ⟨link, before, ⟨_, rfl⟩ | ⟨_, rfl⟩⟩ := served_links after
  · exact ⟨link', [], before, by rw [List.append_nil]⟩
  · obtain ⟨more, sent, _⟩ := link.hears_sent (machine.trace.drop _) (numbers socket)
    exact ⟨link, more, before, sent⟩

/-- A step that puts no reply on a connection keeps it ordered. -/
theorem Valid.ordered_served (valid : network.Valid) {server : Nat} {machine : ServerMachine}
    {numbers : Nat → Option Nat} {socket : Nat} {link' : Link}
    (after : (network.served server machine numbers).links socket = some link')
    (silent : ∀ link, network.links socket = some link → link.server = server →
      link.closed = false → ∀ event ∈ machine.trace.drop (network.servers server).trace.length,
        Link.Unanswering link.fd event) : link'.Ordered (network.asked socket) := by
  obtain ⟨link, before, ⟨_, rfl⟩ | ⟨here, rfl⟩⟩ := served_links after
  · exact valid.ordered socket link' before
  · exact valid.silent before _ (silent link before here)

section

variable [Sha256] {outcomes : Nat → Nat → Outcome}

/-- Serving another client keeps what is kept. -/
theorem Valid.serves {server : Nat} {input : Input} (valid : network.Valid)
    (step : network.Step outcomes (.serves server input) network') : network'.Valid := by
  obtain ⟨machine, free, served, rfl⟩ := step
  refine valid.servers rfl rfl rfl (fun socket link' after => ?_) (fun socket => served_none)
    (valid.apart.served server machine _)
  refine ⟨valid.ordered_served after fun link before here open_ => ?_, .inr (served_sent after)⟩
  exact served_unanswering served fun _ => Ne.symm (free socket link before here open_)

/-- The end of a connection keeps what is kept. -/
theorem Valid.ends {socket : Nat} (valid : network.Valid)
    (step : network.Step outcomes (.ends socket) network') : network'.Valid := by
  obtain ⟨own, machine, found, open_, served, rfl⟩ := step
  refine valid.servers rfl rfl rfl (fun other link' after => ?_)
    (fun other => served_updateLink_none)
    ((valid.apart.served _ machine _).updateLink socket (by simp))
  obtain ⟨_, later, _, after', change⟩ := served_updateLink after
  obtain ⟨link, more, before, sent⟩ := served_sent after'
  have ordered : later.Ordered (network.asked other) :=
    valid.ordered_served after' fun _ _ _ _ => served_unanswering served (by simp)
  rcases change with ⟨_, rfl⟩ | ⟨_, rfl⟩
  · exact ⟨⟨ordered.ordered, ordered.numbered, ordered.handled, ordered.earlier, ordered.complete⟩,
      .inr ⟨link, more, before, sent⟩⟩
  · exact ⟨ordered, .inr ⟨link, more, before, sent⟩⟩

/-- Handling the next request of a connection keeps what is kept. -/
theorem Valid.handles {socket : Nat} (valid : network.Valid)
    (step : network.Step outcomes (.handles socket) network') : network'.Valid := by
  obtain ⟨own, bytes, packet, machine, found, open_, written, received, served, rfl⟩ := step
  refine valid.servers rfl rfl rfl (fun other link' after => ?_)
    (fun other => served_updateLink_none)
    ((valid.apart.served _ machine _).updateLink socket (by simp))
  obtain ⟨_, later, _, after', change⟩ := served_updateLink after
  obtain ⟨link, more, before, sent⟩ := served_sent after'
  rcases change with ⟨rfl, rfl⟩ | ⟨different, rfl⟩
  · refine ⟨?_, .inr ⟨link, more, before, sent⟩⟩
    obtain ⟨_, before', ⟨elsewhere, _⟩ | ⟨_, rfl⟩⟩ := served_links after'
    · cases found.symm.trans before'
      exact absurd rfl elsewhere
    cases found.symm.trans before'
    rw [if_pos rfl]
    have ordered := valid.ordered other own found
    have made : own.handled < (network.asked other).length := by
      rw [(valid.recorded other).length]
      exact (List.getElem?_eq_some_iff.mp written).1
    obtain ⟨packet', rfl, replied⟩ := (valid.recorded other).packets own.handled bytes written
    have same : packet' = packet := by
      have whole := recvPacket_wire packet' []
      rw [List.append_nil, received] at whole
      cases whole
      rfl
    obtain ⟨front, middle, back, whole, early, late, one⟩ := served.replies
    rw [whole, List.drop_left, (own.hears_same _ _).2.2.1]
    have silent {events : List (Event Operation Answer)}
        (none : ∀ event ∈ events, ¬event.op.Replies) :
        ∀ event ∈ events, Link.Unanswering own.fd event :=
      fun event member => Link.unanswering_of_not_replies (none event member)
    rcases one with ⟨rfl, may⟩ | ⟨_, _, event, input, rfl, reply⟩
    · have untracked : entryOf (network.asked other) own.handled = none := by
        by_contra tracked
        have must := replied tracked
        rw [same, may own.fd packet rfl] at must
        contradiction
      refine ordered.unreplied made untracked ?_
      rw [List.append_nil]
      exact List.forall_mem_append.mpr ⟨silent early, silent late⟩
    · cases input
      exact ordered.replied open_ made (silent early) (silent late) reply
  · refine ⟨valid.ordered_served after' fun link before here open_' => ?_,
      .inr ⟨link, more, before, sent⟩⟩
    refine served_unanswering served fun _ same => different ?_
    exact (valid.apart socket other own link found before here.symm open_ open_' same).symm

/-- A connection that is accepted keeps what is kept. -/
theorem Valid.accepts {socket server : Nat} {fd : Int} (valid : network.Valid)
    (step : network.Step outcomes (.accepts socket server fd) network') : network'.Valid := by
  obtain ⟨machine, served, created, nothing, free, rfl⟩ := step
  have links (other : Nat) : Function.update network.links socket (some { server, fd }) other =
      if other = socket then some { server, fd } else network.links other := by
    by_cases same : other = socket
    · rw [same, Function.update_self, if_pos rfl]
    · rw [Function.update_of_ne same, if_neg same]
  refine valid.servers rfl rfl rfl (fun other link' after => ?_) (fun other after => ?_) ?_
  · dsimp only at after
    rw [links] at after
    split at after
    · rename_i same
      rw [← Option.some.inj after, same]
      refine ⟨⟨inOrder_nil _, by simp [Numbered], Nat.zero_le _, by simp [answers], by simp⟩,
        .inl ⟨nothing, rfl⟩⟩
    · exact ⟨valid.ordered other link' after, .inr ⟨link', [], after, by rw [List.append_nil]⟩⟩
  · dsimp only at after
    rw [links] at after
    split at after
    · contradiction
    · exact after
  · intro first second link link' found found' server' open_ open_' same
    dsimp only at found found'
    rw [links] at found found'
    split at found <;> split at found'
    · rename_i here here'
      rw [here, here']
    · cases found
      exact absurd same.symm (free second link' found' server'.symm open_')
    · cases found'
      exact absurd same (free first link found server' open_)
    · exact valid.apart first second link link' found found' server' open_ open_' same

end

end Network

end MultiUserChat.Web
