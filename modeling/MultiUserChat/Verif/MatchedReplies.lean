import MultiUserChat.Library.Transition
import MultiUserChat.Verif.Matching
import MultiUserChat.Verif.Stores
/-!
# Matched replies

The steps of the gateway keep what `Network.Valid` says when they are careful, so in every run of
careful steps each reply is taken for the entry of the request it answers, and the queue holds the
entries of the requests on the current connection that are unanswered (`Network.matched`). Without that
condition a connection that is closed leaves its entries behind (`Network.matched_disconnected`).
-/

namespace MultiUserChat.Web

open ClientSession

/-! ## Sockets stay connected -/

/-- Changing what else is known of a socket keeps the others and it connected. -/
theorem updateSocket_stays {session : ClientSession} {socket other : Nat} {change : Socket → Socket}
    (kept : ∀ record, record.connected = true → (change record).connected = true)
    (connected : (session.sockets other).connected = true) :
    ((session.updateSocket socket change).sockets other).connected = true := by
  by_cases here : other = socket
  · subst here
    simpa [updateSocket] using kept _ connected
  · simpa [updateSocket, here] using connected

/-- Closing the connection keeps the sockets connected. -/
theorem ClientSession.closeTcp_connected (session : ClientSession) (sendLogout : Bool)
    (other : Nat) : ((session.closeTcp sendLogout).sockets other).connected =
      (session.sockets other).connected := by
  obtain ⟨_, record⟩ := session.closeTcp_sockets sendLogout other
  rw [record]

/-- A new socket is not one that has connected. -/
theorem createConnection_stays {session : ClientSession} {fed : Nat → List (List UInt8)}
    (linked : Linked session fed) (config : Config) {other : Nat}
    (connected : (session.sockets other).connected = true) :
    ((session.createConnection config).1.sockets other).connected = true := by
  have old : other ≠ session.created := Nat.ne_of_lt (linked.settled other connected).2
  simpa [createConnection, old] using connected

/-- A step of the gateway, other than a delivery, keeps the sockets connected. -/
theorem Gateway.Moves.stays {gateway gateway' : Gateway} {happening : Happening}
    {fed : Nat → List (List UInt8)} (linked : Linked gateway.session fed)
    (silent : ∀ socket chunk, happening ≠ .data socket chunk)
    (moves : Moves gateway happening gateway') {other : Nat}
    (connected : (gateway.session.sockets other).connected = true) :
    (gateway'.session.sockets other).connected = true := by
  cases moves with
  | asked asks =>
    rw [asks.sameConnections.sockets other]
    exact connected
  | withdrew => exact connected
  | disconnected => exact (closeTcp_connected _ true other).trans connected
  | loggedOut closed =>
    unfold logout
    rw [if_neg closed]
    exact (closeTcp_connected
      { gateway.session with loggedIn := false, username := [], groupsById := [] } false other).trans
        connected
  | waits valid target =>
    unfold ensureTcp
    split
    · exact connected
    · exact createConnection_stays (linked.closeTcp false) _
        ((closeTcp_connected _ false other).trans connected)
  | left => exact (closeTcp_connected { gateway.session with closing := true } true other).trans connected
  | @connected socket =>
    have kept : ((gateway.session.updateSocket socket fun record =>
        { record with settled := true, connected := true }).sockets other).connected = true :=
      updateSocket_stays (by simp) connected
    exact kept
  | @lost socket =>
    have kept : ((gateway.session.destroy socket).sockets other).connected = true :=
      updateSocket_stays (by simp) connected
    exact kept
  | @failed socket =>
    have kept : ((gateway.session.updateSocket socket fun record =>
        { record with settled := true }).sockets other).connected = true :=
      updateSocket_stays (by simp) connected
    exact kept
  | broken =>
    dsimp only
    unfold onError
    split <;> exact connected
  | closed =>
    dsimp only
    rw [onClose_sockets]
    exact updateSocket_stays (fun _ => id) connected
  | delivered => exact absurd rfl (silent _ _)
  | ended found asks =>
    rw [asks.sameConnections.sockets other]
    exact connected
  | gaveUp => exact connected
  | retried => exact createConnection_stays linked _ connected

/-- The callback of `close` of the current socket leaves no connection, and the user logged in only
when the browser has left. -/
theorem ClientSession.onClose_current (session : ClientSession) {socket : Nat}
    (current : session.tcpSocket = some socket) : (session.onClose socket).tcpSocket = none ∧
      (session.onClose socket).pendingResponses = [] ∧
      ((session.onClose socket).loggedIn = true → session.closing = true) := by
  unfold onClose
  rw [if_neg (not_not.mpr current)]
  dsimp only
  split
  · rename_i closing
    exact ⟨rfl, rfl, fun _ => closing⟩
  · split
    · exact ⟨rfl, rfl, by simp [send]⟩
    · split <;> exact ⟨rfl, rfl, by simp [send]⟩

/-- Closing the connection with nothing queued leaves nothing queued. -/
theorem ClientSession.closeTcp_emptied (session : ClientSession) (sendLogout : Bool)
    (queue : session.pendingResponses = []) : (session.closeTcp sendLogout).tcpSocket = none ∧
      (session.closeTcp sendLogout).pendingResponses = [] := by
  obtain ⟨current, same, _⟩ := session.closeTcp_kept sendLogout
  exact ⟨current, same.trans queue⟩

/-- Only a delivery is recorded. -/
theorem Happening.record_silent (happening : Happening)
    (silent : ∀ socket chunk, happening ≠ .data socket chunk) (fed : Nat → List (List UInt8)) :
    happening.record fed = fed := by
  cases happening <;> first | rfl | exact absurd rfl (silent _ _)

namespace Network

variable {network network' : Network}

/-! ## The queue -/

section

variable {happening : Happening} {gateway' : Gateway} {socket : Nat}

/-- Nothing is queued with what was not written. -/
theorem observe_asked_same
    (same : (gateway'.session.sockets socket).written =
      (network.gateway.session.sockets socket).written) :
    (network.observe happening gateway').asked socket = network.asked socket := by
  dsimp only [observe]
  rw [same, Nat.sub_self, List.replicate_zero, List.append_nil]

/-- The entry that was queued belongs to the packet that was written. -/
theorem observe_asked_wrote {bytes : List UInt8} {entry : Option Pending}
    (wrote : (gateway'.session.sockets socket).written =
      (network.gateway.session.sockets socket).written ++ [bytes])
    (queued : gateway'.session.pendingResponses =
      network.gateway.session.pendingResponses ++ entry.toList) :
    (network.observe happening gateway').asked socket = network.asked socket ++ [entry] := by
  have one : (network.gateway.session.sockets socket).written.length + 1 -
      (network.gateway.session.sockets socket).written.length = 1 := by omega
  dsimp only [observe]
  rw [wrote, List.length_append, List.length_singleton, one, List.replicate_one, queuedBy, queued,
    List.drop_left]
  cases entry <;> rfl

/-- What a step has written and queued stays recorded. -/
theorem Valid.recorded_observe (valid : network.Valid)
    (wrote : Wrote network.gateway.session gateway'.session socket) :
    Recorded (gateway'.session.sockets socket).written
        ((network.observe happening gateway').asked socket) ∧
      ∃ later, (network.observe happening gateway').asked socket =
        network.asked socket ++ later := by
  cases wrote with
  | nothing same =>
    rw [observe_asked_same same, same]
    exact ⟨valid.recorded socket, [], by rw [List.append_nil]⟩
  | request packet entry opened wrote queued replied =>
    rw [observe_asked_wrote wrote queued, wrote]
    exact ⟨(valid.recorded socket).add replied, [entry], rfl⟩

/-- The answered requests were made. -/
theorem Valid.answered_made (valid : network.Valid) {number : Nat}
    (member : number ∈ network.answered socket) : number < (network.asked socket).length := by
  unfold Network.answered at member
  cases found : network.links socket with
  | none =>
    rw [found] at member
    contradiction
  | some link =>
    rw [found] at member
    have ordered := (valid.ordered socket link found).ordered
    exact ordered.made ((List.Sublist.filterMap _ (List.take_sublist _ _)).subset member)

/-- When nothing arrives, nothing is answered. -/
theorem observe_answered (fed : happening.record network.fed = network.fed) :
    (network.observe happening gateway').answered socket = network.answered socket :=
  congrArg (fun chunks => Network.answered { network with fed := chunks } socket) fed

/-- Without a connection nothing should be queued. -/
theorem matched_closed (closed : network.gateway.session.tcpSocket = none)
    (queue : network.gateway.session.pendingResponses = []) : network.Matched := by
  unfold Matched
  rw [closed]
  exact queue

/-- With a connection the queue should hold what is unanswered on it. -/
theorem matched_open (current : network.gateway.session.tcpSocket = some socket)
    (queue : network.gateway.session.pendingResponses =
      unanswered (network.asked socket) (network.answered socket)) : network.Matched := by
  unfold Matched
  rw [current]
  exact queue

/-- What the queue holds with a connection. -/
theorem Matched.queue (matched : network.Matched)
    (current : network.gateway.session.tcpSocket = some socket) :
    network.gateway.session.pendingResponses =
      unanswered (network.asked socket) (network.answered socket) := by
  unfold Matched at matched
  rw [current] at matched
  exact matched

/-- A step that changes neither the queue nor the connection leaves the queue right. -/
theorem Valid.matched_same (valid : network.Valid) (fed : happening.record network.fed = network.fed)
    (queue : gateway'.session.pendingResponses = network.gateway.session.pendingResponses)
    (current : gateway'.session.tcpSocket = network.gateway.session.tcpSocket)
    (written : ∀ socket, (gateway'.session.sockets socket).written =
      (network.gateway.session.sockets socket).written) :
    (network.observe happening gateway').Matched := by
  cases linked : network.gateway.session.tcpSocket with
  | none =>
    have empty := valid.matched
    unfold Matched at empty
    rw [linked] at empty current
    exact matched_closed current (queue.trans empty)
  | some socket =>
    refine matched_open (current.trans linked) (queue.trans ?_)
    rw [observe_asked_same (written socket), observe_answered fed]
    exact valid.matched.queue linked

/-- A request that is sent adds its entry to those that are unanswered. -/
theorem Valid.matched_sent (valid : network.Valid) (fed : happening.record network.fed = network.fed)
    {bytes : List UInt8} (entry : Option Pending)
    (current : network.gateway.session.tcpSocket = some socket)
    (same : gateway'.session.tcpSocket = network.gateway.session.tcpSocket)
    (wrote : (gateway'.session.sockets socket).written =
      (network.gateway.session.sockets socket).written ++ [bytes])
    (queued : gateway'.session.pendingResponses =
      network.gateway.session.pendingResponses ++ entry.toList) :
    (network.observe happening gateway').Matched := by
  refine matched_open (same.trans current) (queued.trans ?_)
  have new : (network.asked socket).length ∉ network.answered socket :=
    fun member => Nat.lt_irrefl _ (valid.answered_made member)
  rw [observe_asked_wrote wrote queued, observe_answered fed, unanswered_ask entry new,
    valid.matched.queue current]

/-- A request keeps the queue right when nothing is queued that cannot be sent. -/
theorem Valid.matched_asks (valid : network.Valid) (fed : happening.record network.fed = network.fed)
    {queues : Prop} {session : ClientSession} (asks : Asks network.gateway.session queues session)
    (sendable : queues → network.gateway.session.openSocket.isSome)
    (same : gateway'.session = session) : (network.observe happening gateway').Matched := by
  cases asks with
  | nothing =>
    refine valid.matched_same fed ?_ ?_ fun _ => ?_ <;> rw [same]
  | told notice =>
    refine valid.matched_same fed ?_ ?_ fun _ => ?_ <;> rw [same] <;> rfl
  | @sent request socket bytes opened encoded origin =>
    have current := (Option.filter_eq_some_iff.mp opened).1
    have wrote := write_written (network.gateway.session.queue request.pending) socket socket bytes
    rw [if_pos rfl] at wrote
    refine valid.matched_sent fed request.pending current ?_ (same ▸ wrote) ?_ <;> rw [same] <;> rfl
  | unsent request notice queued cannot origin =>
    rcases cannot with closed | tooLong
    · have opened := sendable queued
      rw [closed] at opened
      contradiction
    · exact absurd (origin.short valid.named) (Nat.not_lt.mpr tooLong)

/-- Nothing has been asked for on a socket that is still to connect. -/
theorem Valid.unasked (valid : network.Valid)
    (waiting : (network.gateway.session.sockets socket).settled = false) :
    (network.gateway.session.sockets socket).written = [] ∧ network.asked socket = [] := by
  have unwritten : (network.gateway.session.sockets socket).written = [] := by
    refine valid.unwritten socket ?_
    by_contra connected
    have settled := (valid.linked.settled socket (by simpa using connected)).1
    rw [waiting] at settled
    contradiction
  have length := (valid.recorded socket).length
  rw [unwritten] at length
  exact ⟨unwritten, List.eq_nil_of_length_eq_zero length⟩

/-- A socket that connects with nothing queued has an empty queue of its own. -/
theorem Valid.matched_connects (valid : network.Valid)
    (waiting : (network.gateway.session.sockets socket).settled = false)
    (queue : network.gateway.session.pendingResponses = [])
    (moved : gateway'.session = network.gateway.session.onConnect socket) :
    (network.observe happening gateway').Matched := by
  have kept : ((network.gateway.session.updateSocket socket fun record =>
      { record with settled := true, connected := true }).sockets socket).written =
        (network.gateway.session.sockets socket).written :=
    updateSocket_written _ _ (by intro _; rfl) socket
  have current : gateway'.session.tcpSocket = some socket := congrArg ClientSession.tcpSocket moved
  have same : (gateway'.session.sockets socket).written =
      (network.gateway.session.sockets socket).written := by
    rw [moved]
    exact kept
  have empty : gateway'.session.pendingResponses = [] :=
    (congrArg ClientSession.pendingResponses moved).trans queue
  refine matched_open current (empty.trans ?_)
  rw [observe_asked_same same, (valid.unasked waiting).2]
  rfl

/-- `ensureTcp` keeps its connection, or closes it with nothing queued. -/
theorem Valid.matched_ensures (valid : network.Valid)
    (fed : happening.record network.fed = network.fed) {purpose : Purpose} {config : Config}
    (closes : ¬network.gateway.session.Reuses config → network.gateway.session.pendingResponses = []) :
    (network.observe happening (network.gateway.ensureTcp purpose config)).Matched := by
  by_cases reuses : network.gateway.session.Reuses config
  · have same : network.gateway.ensureTcp purpose config = _ := if_pos reuses
    rw [same]
    exact valid.matched_same fed rfl rfl fun _ => rfl
  · have same : network.gateway.ensureTcp purpose config = _ := if_neg reuses
    obtain ⟨current, queue⟩ := network.gateway.session.closeTcp_emptied false (closes reuses)
    rw [same]
    exact matched_closed current queue

/-- The callback of `close` empties the queue when the socket is the current one. -/
theorem Valid.matched_closes (valid : network.Valid)
    (fed : happening.record network.fed = network.fed)
    (moved : gateway'.session = (network.gateway.session.updateSocket socket fun record =>
      { record with closed := true }).onClose socket) :
    (network.observe happening gateway').Matched := by
  by_cases current : network.gateway.session.tcpSocket = some socket
  · obtain ⟨none, queue, _⟩ := onClose_current
      (network.gateway.session.updateSocket socket fun record => { record with closed := true })
      current
    rw [← moved] at none queue
    exact matched_closed none queue
  · have kept (other : Nat) : ((network.gateway.session.updateSocket socket fun record =>
        { record with closed := true }).sockets other).written =
          (network.gateway.session.sockets other).written :=
      updateSocket_written _ _ (by intro _; rfl) other
    have same : (network.gateway.session.updateSocket socket fun record =>
        { record with closed := true }).onClose socket = _ := if_pos current
    rw [same] at moved
    refine valid.matched_same fed ?_ ?_ fun other => ?_ <;> rw [moved]
    · rfl
    · rfl
    · exact kept other

/-- A careful step of the gateway, other than a delivery, keeps the queue right. -/
theorem Valid.matched_moves (valid : network.Valid) (careful : network.Careful happening)
    (silent : ∀ socket chunk, happening ≠ .data socket chunk)
    (moves : Gateway.Moves network.gateway happening gateway') :
    (network.observe happening gateway').Matched := by
  have fed := happening.record_silent silent network.fed
  cases moves with
  | asked asks => exact valid.matched_asks fed asks careful.queues rfl
  | withdrew withdraws message =>
    have none := careful.withdraws _ _ rfl withdraws
    refine valid.matched_same fed ?_ rfl fun _ => rfl
    refine List.filter_eq_self.mpr fun entry member => ?_
    have other : entry ≠ Pending.status .sendGroupMessage := fun same => none (same ▸ member)
    simpa using other
  | disconnected =>
    obtain ⟨current, queue⟩ :=
      network.gateway.session.closeTcp_emptied true (careful.closes (.inl rfl))
    exact matched_closed current queue
  | loggedOut open_ =>
    obtain ⟨current, queue⟩ := closeTcp_emptied
      { network.gateway.session with loggedIn := false, username := [], groupsById := [] } false
      (careful.closes (.inr (.inl ⟨rfl, open_⟩)))
    have same : network.gateway.session.logout = _ := if_neg open_
    rw [same]
    exact matched_closed current queue
  | @waits action purpose config fits target =>
    exact valid.matched_ensures fed fun reuses =>
      careful.closes (.inr (.inr ⟨config, target, reuses⟩))
  | left =>
    obtain ⟨current, queue⟩ := closeTcp_emptied { network.gateway.session with closing := true } true
      (careful.closes trivial)
    exact matched_closed current queue
  | @connected socket created waiting live =>
    exact valid.matched_connects waiting (careful.connects socket rfl) rfl
  | @lost socket created =>
    have kept (other : Nat) : ((network.gateway.session.destroy socket).sockets other).written =
        (network.gateway.session.sockets other).written :=
      updateSocket_written _ _ (by intro _; rfl) other
    exact valid.matched_same fed rfl rfl kept
  | @failed socket message created =>
    have kept (other : Nat) : ((network.gateway.session.updateSocket socket fun record =>
        { record with settled := true }).sockets other).written =
          (network.gateway.session.sockets other).written :=
      updateSocket_written _ _ (by intro _; rfl) other
    exact valid.matched_same fed rfl rfl kept
  | broken =>
    refine valid.matched_same fed ?_ ?_ fun _ => ?_ <;>
    · dsimp only
      unfold onError
      split <;> rfl
  | closed => exact valid.matched_closes fed rfl
  | delivered => exact absurd rfl (silent _ _)
  | ended found asks =>
    exact valid.matched_asks fed asks (fun queues => careful.queues ⟨_, found, queues⟩) rfl
  | gaveUp => exact valid.matched_same fed rfl rfl fun _ => rfl
  | retried =>
    exact valid.matched_same fed rfl rfl fun other =>
      createConnection_written valid.unwritten valid.linked _ other

/-- A careful step of the gateway, other than a delivery, keeps what is kept. -/
theorem Valid.observe (valid : network.Valid) (careful : network.Careful happening)
    (silent : ∀ socket chunk, happening ≠ .data socket chunk)
    (moves : Gateway.Moves network.gateway happening gateway') :
    (network.observe happening gateway').Valid := by
  have fed := happening.record_silent silent network.fed
  have wrote (socket : Nat) := moves.wrote valid.linked valid.unwritten silent socket
  refine ⟨moves.linked valid.linked careful.alone, moves.calls valid.calls,
    moves.named valid.named silent, fun socket closed => ?_, fun socket => ?_, fun socket link found => ?_,
    fun socket link found => ?_, fun socket found => ?_, valid.apart,
    valid.matched_moves careful silent moves⟩
  · have before : (network.gateway.session.sockets socket).connected = false := by
      by_contra connected
      have stays := moves.stays valid.linked silent (by simpa using connected)
      have after : (gateway'.session.sockets socket).connected = false := closed
      rw [stays] at after
      contradiction
    rcases wrote socket with same | ⟨_, _, opened, _⟩
    · exact same.trans (valid.unwritten socket before)
    · have connected := valid.linked.current socket (Option.filter_eq_some_iff.mp opened).1
      rw [before] at connected
      contradiction
  · exact (valid.recorded_observe (wrote socket)).1
  · obtain ⟨_, later, asked⟩ := valid.recorded_observe (wrote socket)
    rw [asked]
    exact (valid.ordered socket link found).ask later
  · change (happening.record network.fed socket).flatten <+: link.stream
    rw [fed]
    exact valid.arrived socket link found
  · change happening.record network.fed socket = []
    rw [fed]
    exact valid.unlinked socket found

end

/-! ## Deliveries -/

section

variable {socket : Nat} {chunk : List UInt8} {link : Link}

/-- The replies in a chunk are taken for the entries of the requests they answer. -/
theorem Valid.arrival (valid : network.Valid)
    (connected : (network.gateway.session.sockets socket).connected = true)
    (live : (network.gateway.session.sockets socket).destroyed = false)
    (found : network.links socket = some link)
    (front : (network.fed socket ++ [chunk]).flatten <+: link.stream)
    (careful : network.Careful (.data socket chunk)) :
    network.gateway.session.taken chunk =
        expected (network.asked socket) ((link.arriving (network.fed socket) chunk).take
          (network.gateway.session.handleTcpData chunk).1.length) ∧
      ∀ session, (network.gateway.session.handleTcpData chunk).2 = some session →
        Follows (network.asked socket) (link.sent.take (completed (network.fed socket)))
          (link.arriving (network.fed socket) chunk) network.gateway.session session := by
  have current := valid.linked.only socket connected live
  obtain ⟨more, bound, pushed, handled⟩ :=
    handleTcpData_arrived (valid.linked.decoder socket current) front
  have ordered := valid.ordered socket link found
  have queue := valid.matched.queue current
  unfold Network.answered at queue
  rw [found] at queue
  unfold taken
  rw [handled, pushed]
  have numbered : Numbered (link.arriving (network.fed socket) chunk) := fun entry member =>
    ordered.numbered entry ((List.drop_sublist _ _).trans (List.take_sublist _ _) |>.subset member)
  have inOrder : InOrder (network.asked socket)
      (answers (link.sent.take (completed (network.fed socket)) ++
        link.arriving (network.fed socket) chunk)) := by
    refine ordered.ordered.front ?_
    rw [Link.arriving_append more]
    exact (List.take_prefix _ _).filterMap _
  let session : ClientSession :=
    { network.gateway.session with tcpDecoder := decoderAfter (network.fed socket ++ [chunk]) }
  obtain ⟨attributions, follows⟩ := @attributed_expected _ _ _ session inOrder numbered
    (careful.arrives socket chunk link rfl found) queue
  refine ⟨attributions, fun session ended => ?_⟩
  obtain ⟨queue, socket, remains, untouched, named, entered⟩ := follows session ended
  exact ⟨queue, socket, remains, untouched, named, entered⟩

/-- What has been answered after a delivery. -/
theorem Valid.answered_delivers (valid : network.Valid) {gateway' : Gateway}
    (current : network.gateway.session.tcpSocket = some socket)
    (found : network.links socket = some link)
    (front : (network.fed socket ++ [chunk]).flatten <+: link.stream) :
    (network.observe (.data socket chunk) gateway').answered socket =
      answers (link.sent.take (completed (network.fed socket)) ++
        link.arriving (network.fed socket) chunk) := by
  obtain ⟨more, _⟩ := handleTcpData_arrived (valid.linked.decoder socket current) front
  have links : (network.observe (.data socket chunk) gateway').links socket = some link := found
  have fed : (network.observe (.data socket chunk) gateway').fed socket =
      network.fed socket ++ [chunk] := Function.update_self _ _ _
  unfold Network.answered
  rw [links, fed, Link.arriving_append more]

/-- A careful delivery keeps what is kept. -/
theorem Valid.delivers (valid : network.Valid) (careful : network.Careful (.data socket chunk))
    (delivers : network.Delivers (.data socket chunk)) {gateway' : Gateway}
    (moves : Gateway.Moves network.gateway (.data socket chunk) gateway') :
    (network.observe (.data socket chunk) gateway').Valid := by
  have linked := moves.linked valid.linked careful.alone
  have calls := moves.calls valid.calls
  cases moves with
  | @delivered _ _ session connected live handled =>
  obtain ⟨link, found, front⟩ := delivers
  have current := valid.linked.only socket connected live
  have follows := (valid.arrival connected live found front careful).2 session handled
  have asked (other : Nat) : (network.observe (.data socket chunk)
      { network.gateway with session }).asked other = network.asked other :=
    observe_asked_same (follows.untouched other).1
  have fed (other : Nat) : (network.observe (.data socket chunk)
      { network.gateway with session }).fed other =
        if other = socket then network.fed socket ++ [chunk] else network.fed other := by
    by_cases same : other = socket
    · rw [same, if_pos rfl]
      exact Function.update_self _ _ _
    · rw [if_neg same]
      exact Function.update_of_ne same _ _
  refine ⟨linked, calls, follows.named valid.named, fun other closed => ?_, fun other => ?_,
    fun other own found' => ?_, fun other own found' => ?_, fun other unlinked => ?_, valid.apart, ?_⟩
  · exact (follows.untouched other).1.trans
      (valid.unwritten other ((follows.untouched other).2.symm.trans closed))
  · rw [asked]
    exact (follows.untouched other).1 ▸ valid.recorded other
  · rw [asked]
    exact valid.ordered other own found'
  · rw [fed]
    split
    · rename_i same
      cases found.symm.trans (same ▸ found')
      exact front
    · exact valid.arrived other own found'
  · rw [fed]
    split
    · rename_i same
      rw [← same] at found
      cases found.symm.trans unlinked
    · exact valid.unlinked other unlinked
  · rcases follows.socket with same | ⟨closed, empty⟩
    · refine matched_open (same.trans current) (follows.queue.trans ?_)
      rw [asked, valid.answered_delivers current found front]
    · exact matched_closed closed empty

end

/-! ## Runs -/

section

variable [Sha256] {outcomes : Nat → Nat → Outcome}

/-- What is kept holds at the beginning. -/
theorem Initial.valid (initial : network.Initial outcomes) : network.Valid := by
  rw [initial.2]
  have short : byteLength [] < usernameMaxLen := by decide
  exact ⟨⟨⟨by simp, by simp⟩, by simp, by simp, by simp⟩, by simp, ⟨short, by simp⟩,
    fun _ _ => rfl, fun _ => ⟨rfl, by simp⟩, by simp, by simp, fun _ _ => rfl,
    fun _ _ _ _ found => by simp at found, rfl⟩

/-- A careful step keeps what is kept. -/
theorem Valid.step (valid : network.Valid) {occurrence : Occurrence}
    (careful : network.CarefulStep occurrence) (taken : network.Step outcomes occurrence network') :
    network'.Valid := by
  cases occurrence with
  | gateway happening =>
    obtain ⟨gateway', moved, delivers, rfl⟩ := taken
    have moves := Gateway.step_moves valid.calls moved
    by_cases data : ∃ socket chunk, happening = .data socket chunk
    · obtain ⟨socket, chunk, rfl⟩ := data
      exact valid.delivers careful delivers moves
    · refine valid.observe careful (fun socket chunk same => data ⟨socket, chunk, same⟩) moves
  | accepts socket server fd => exact valid.accepts taken
  | handles socket => exact valid.handles taken
  | ends socket => exact valid.ends taken
  | serves server input => exact valid.serves taken

variable (outcomes) in
/-- The runs of careful steps. -/
def CarefullyReachable (network : Network) : Prop :=
  Reachable (Initial outcomes) (fun network occurrence network' =>
    network.CarefulStep occurrence ∧ network.Step outcomes occurrence network') network

/-- What is kept holds in every run of careful steps. -/
theorem CarefullyReachable.valid (reached : network.CarefullyReachable outcomes) : network.Valid :=
  reached.invariant Valid (fun _ => Initial.valid)
    fun _ _ _ _ valid ⟨careful, taken⟩ => valid.step careful taken

/-- The chunk can arrive on the socket. -/
def Arrives (network : Network) (socket : Nat) (chunk : List UInt8) : Prop :=
  (network.gateway.session.sockets socket).connected = true ∧
    (network.gateway.session.sockets socket).destroyed = false ∧
    network.Delivers (.data socket chunk)

/-- Each reply in the chunk that is handled is taken for the entry of the request that it answers, or
for none when that request has queued none. -/
def Pairs (network : Network) (socket : Nat) (chunk : List UInt8) : Prop :=
  ∃ link, network.links socket = some link ∧ network.gateway.session.taken chunk =
    expected (network.asked socket) ((link.arriving (network.fed socket) chunk).take
      (network.gateway.session.handleTcpData chunk).1.length)

/-- In every run of careful steps the queue holds the entries of the requests on the current
connection that are unanswered, and the replies that arrive are taken for the entries of the requests
that they answer. -/
theorem matched (reached : network.CarefullyReachable outcomes) :
    network.Matched ∧ ∀ socket chunk, network.Arrives socket chunk →
      network.Careful (.data socket chunk) → network.Pairs socket chunk := by
  have valid := reached.valid
  refine ⟨valid.matched, fun socket chunk ⟨connected, live, delivers⟩ careful => ?_⟩
  obtain ⟨link, found, front⟩ := delivers
  exact ⟨link, found, (valid.arrival connected live found front careful).1⟩

end

/-! ## Two runs -/

section

attribute [local instance] sampleDigest

/-- Servers that have started, and a session that has begun. -/
def opening : Network := { servers := fun _ => freshServer }

/-- The opening is initial. -/
theorem opening_initial : opening.Initial fun _ => failingAt [] :=
  ⟨fun _ => .start freshServer_started, rfl⟩

/-- The network after a step of the gateway, which is possible. -/
def observed (network : Network) (happening : Happening)
    (possible : (network.gateway.step happening).isSome) : Network :=
  network.observe happening ((network.gateway.step happening).get possible)

/-- With nothing queued a step is careful that queues an entry only on an open connection. -/
theorem careful_of_empty {happening : Happening}
    (empty : network.gateway.session.pendingResponses = [])
    (silent : ∀ socket chunk, happening ≠ .data socket chunk)
    (queues : network.gateway.Queues happening → network.gateway.session.openSocket.isSome)
    (alone : Observed.Alone ⟨network.gateway, network.fed⟩ happening) :
    network.Careful happening where
  closes _ := empty
  queues := queues
  withdraws _ _ _ _ := by simp [empty]
  connects _ _ := empty
  alone := alone
  arrives _ _ _ data := absurd data (silent _ _)

/-- A careful step of the gateway goes on with a run. -/
theorem CarefullyReachable.observed [Sha256] {outcomes : Nat → Nat → Outcome}
    (reached : network.CarefullyReachable outcomes) {happening : Happening}
    (possible : (network.gateway.step happening).isSome)
    (silent : ∀ socket chunk, happening ≠ .data socket chunk) (careful : network.Careful happening) :
    (network.observed happening possible).CarefullyReachable outcomes := by
  have delivers : network.Delivers happening := by
    cases happening with
    | data => exact absurd rfl (silent _ _)
    | _ => trivial
  have taken : network.CarefulStep (.gateway happening) ∧ network.Step outcomes (.gateway happening)
      (network.observed happening possible) :=
    ⟨careful, _, (Option.some_get possible).symm, delivers, rfl⟩
  exact .next reached taken

/-- The first socket connects alone. -/
theorem alone_first {config : Config}
    (sockets : network.gateway.session.sockets = Function.update (fun _ => {}) 0 { config }) :
    Observed.Alone ⟨network.gateway, network.fed⟩ (.connect 0) := by
  intro other connected
  dsimp only at connected
  rw [sockets] at connected
  by_cases new : other = 0
  · rw [new, Function.update_self] at connected
    contradiction
  · rw [Function.update_of_ne new] at connected
    contradiction

/-- The server that the browser asks for. -/
def home : Config := ⟨literal "a", 1⟩

/-- The network after some steps of the gateway, if they are possible. -/
def observes (network : Network) : List Happening → Option Network
  | [] => some network
  | happening :: happenings => do
    let gateway ← network.gateway.step happening
    (network.observe happening gateway).observes happenings

/-- Steps of the gateway without deliveries go on with a run. -/
theorem observes_reachable [Sha256] {outcomes : Nat → Nat → Outcome} {happenings : List Happening}
    (reached : Reachable (Initial outcomes)
      (fun network occurrence network' => network.Step outcomes occurrence network') network)
    (silent : ∀ happening ∈ happenings, ∀ socket chunk, happening ≠ .data socket chunk)
    (ran : network.observes happenings = some network') : Reachable (Initial outcomes)
      (fun network occurrence network' => network.Step outcomes occurrence network') network' := by
  induction happenings generalizing network with
  | nil => exact Option.some.inj ran ▸ reached
  | cons happening happenings ih =>
    obtain ⟨gateway, moved, rest⟩ := Option.bind_eq_some_iff.mp ran
    have delivers : network.Delivers happening := by
      cases happening with
      | data => exact absurd rfl (silent _ List.mem_cons_self _ _)
      | _ => trivial
    have taken : network.Step outcomes (.gateway happening) (network.observe happening gateway) :=
      ⟨gateway, moved, delivers, rfl⟩
    exact ih (.next reached taken) (fun other member => silent other (List.mem_cons_of_mem _ member))
      rest

/-- A browser that connects, registers and disconnects before the reply. -/
def leaving : List Happening :=
  [.browser (.connectTcp home), .connect 0, .resume 0 [],
    .browser (.auth .register (literal "bob") (literal "pw") home), .resume 0 [],
    .browser .disconnectTcp]

/-- The entry of the registration stays behind without a connection. -/
theorem matched_disconnected : ¬ ∀ [Sha256] (outcomes : Nat → Nat → Outcome) (network : Network),
    Reachable (Initial outcomes)
        (fun network occurrence network' => network.Step outcomes occurrence network') network →
      network.Matched ∧ ∀ socket chunk, network.Arrives socket chunk →
        network.Pairs socket chunk := by
  intro claim
  have outcome : (opening.observes leaving).map (fun network =>
      (network.gateway.session.tcpSocket, network.gateway.session.pendingResponses)) =
        some (none, [.auth .register (literal "bob")]) := by decide
  obtain ⟨network, ran, shown⟩ := Option.map_eq_some_iff.mp outcome
  rw [Prod.mk.injEq] at shown
  have matched := (claim (fun _ => failingAt []) network
    (observes_reachable (.start opening_initial) (by simp [leaving]) ran)).1
  unfold Matched at matched
  rw [shown.1, shown.2] at matched
  contradiction

end

end Network

end MultiUserChat.Web
