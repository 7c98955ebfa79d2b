import MultiUserChat.Library.Transition
import MultiUserChat.Verif.GatewayActions
/-!
# The connections of a session

A session feeds its decoder with the bytes of every socket that is open. `ensureTcp` closes the
current socket before it waits for another one, and nothing closes a socket that connects while a
second call waits, so the session has one live connection exactly as long as sockets connect one at a
time (`Alone`). `Observed` records what each socket has delivered.
-/

namespace MultiUserChat.Web

/-! ## What a request leaves as it is -/

/-- Two sessions have the same connections; what was written on them may differ. -/
structure SameConnections (session session' : ClientSession) : Prop where
  /-- The current socket. -/
  tcpSocket : session'.tcpSocket = session.tcpSocket
  /-- The decoder. -/
  tcpDecoder : session'.tcpDecoder = session.tcpDecoder
  /-- The number of sockets. -/
  created : session'.created = session.created
  /-- The sockets. -/
  sockets : ∀ socket, session'.sockets socket =
    { session.sockets socket with written := (session'.sockets socket).written }

namespace ClientSession

/-- Writing leaves the connections as they are. -/
theorem write_sameConnections (session : ClientSession) (socket : Nat) (packet : List UInt8) :
    SameConnections session (session.write socket packet) := by
  refine ⟨rfl, rfl, rfl, fun other => ?_⟩
  by_cases same : other = socket
  · subst same
    simp [write, updateSocket]
  · simp [write, updateSocket, same]

/-- A request leaves the connections as they are. -/
theorem Asks.sameConnections {session session' : ClientSession} {queues : Prop}
    (asks : Asks session queues session') :
    SameConnections session session' := by
  cases asks with
  | sent request opened encoded origin =>
    obtain ⟨current, decoder, created, sockets⟩ :=
      (session.queue request.pending).write_sameConnections _ _
    exact ⟨current, decoder, created, sockets⟩
  | _ => exact ⟨rfl, rfl, rfl, fun _ => rfl⟩

end ClientSession

/-- After `closeTcp` the current socket is destroyed. -/
theorem ClientSession.closeTcp_sockets (session : ClientSession) (sendLogout : Bool) (other : Nat) :
    ∃ written, (session.closeTcp sendLogout).sockets other =
      { session.sockets other with
        written, destroyed :=
          (session.sockets other).destroyed || decide (session.tcpSocket = some other) } := by
  unfold closeTcp
  cases opened : session.openSocket with
  | none =>
    have unchanged : ((session.sockets other).destroyed ||
        decide (session.tcpSocket = some other)) = (session.sockets other).destroyed := by
      by_cases current : session.tcpSocket = some other
      · rw [openSocket, current, Option.filter_some] at opened
        have destroyed : (session.sockets other).destroyed = true := by simpa using opened
        rw [destroyed, Bool.true_or]
      · rw [decide_eq_false current, Bool.or_false]
    rw [unchanged]
    exact ⟨_, rfl⟩
  | some socket =>
    obtain ⟨current, _⟩ := Option.filter_eq_some_iff.mp opened
    rw [current]
    dsimp only
    have destroys (session : ClientSession) : (session.destroy socket).sockets other =
        { session.sockets other with
          destroyed := (session.sockets other).destroyed || decide (some socket = some other) } := by
      by_cases same : other = socket
      · subst same
        simp [destroy, updateSocket]
      · simp [destroy, updateSocket, same, Ne.symm same]
    split
    · split
      · rename_i packet _
        rw [destroys, (session.write_sameConnections socket packet).sockets other]
        exact ⟨_, rfl⟩
      · rw [destroys]
        exact ⟨_, rfl⟩
    · rw [destroys]
      exact ⟨_, rfl⟩

/-! ## One live connection -/

/-- A decoder after it was given some chunks. -/
def decoderAfter (chunks : List (List UInt8)) : PacketDecoder :=
  chunks.foldl (fun decoder chunk => (decoder.push chunk).2) {}

/-- The session has one live connection: sockets that are open are the current one, and the decoder
has been given what the current socket delivered, and nothing else. -/
structure OneConnection (session : ClientSession) (fed : Nat → List (List UInt8)) : Prop where
  /-- Only the current socket is open. -/
  only : ∀ socket, (session.sockets socket).connected = true →
    (session.sockets socket).destroyed = false → session.tcpSocket = some socket
  /-- Only its bytes reach the decoder. -/
  decoder : ∀ socket, session.tcpSocket = some socket →
    session.tcpDecoder = decoderAfter (fed socket)

/-- What else is kept: only sockets that have connected deliver bytes or are current. -/
structure Linked (session : ClientSession) (fed : Nat → List (List UInt8)) : Prop
    extends OneConnection session fed where
  /-- The current socket has connected. -/
  current : ∀ socket, session.tcpSocket = some socket → (session.sockets socket).connected = true
  /-- A socket that has delivered bytes has connected. -/
  delivered : ∀ socket, fed socket ≠ [] → (session.sockets socket).connected = true
  /-- A socket that has connected is settled and was created. -/
  settled : ∀ socket, (session.sockets socket).connected = true →
    (session.sockets socket).settled = true ∧ socket < session.created

namespace Linked

variable {session session' : ClientSession} {fed : Nat → List (List UInt8)}

/-- What leaves the connections as they are keeps them linked. -/
theorem same (linked : Linked session fed) (connections : SameConnections session session') :
    Linked session' fed := by
  obtain ⟨current, decoder, created, sockets⟩ := connections
  refine ⟨⟨fun socket => ?_, fun socket => ?_⟩, fun socket => ?_, fun socket => ?_, fun socket => ?_⟩
  · rw [sockets socket, current]
    exact linked.only socket
  · rw [current, decoder]
    exact linked.decoder socket
  · rw [sockets socket, current]
    exact linked.current socket
  · rw [sockets socket]
    exact linked.delivered socket
  · rw [sockets socket, created]
    exact linked.settled socket

/-- Closing the connection leaves none open. -/
theorem closeTcp (linked : Linked session fed) (sendLogout : Bool) :
    Linked (session.closeTcp sendLogout) fed := by
  have sockets := session.closeTcp_sockets sendLogout
  obtain ⟨_, same⟩ := session.closeTcp_eq sendLogout
  have none : (session.closeTcp sendLogout).tcpSocket = none := by rw [same]
  have created : (session.closeTcp sendLogout).created = session.created := by rw [same]
  refine ⟨⟨fun socket connected destroyed => ?_, fun socket current => ?_⟩,
    fun socket current => ?_, fun socket delivered => ?_, fun socket connected => ?_⟩
  · obtain ⟨_, record⟩ := sockets socket
    rw [record] at connected destroyed
    rw [Bool.or_eq_false_iff] at destroyed
    exact absurd (linked.only socket connected destroyed.1) (by simpa using destroyed.2)
  · rw [none] at current
    contradiction
  · rw [none] at current
    contradiction
  · obtain ⟨_, record⟩ := sockets socket
    rw [record]
    exact linked.delivered socket delivered
  · obtain ⟨_, record⟩ := sockets socket
    rw [record] at connected ⊢
    rw [created]
    exact linked.settled socket connected

/-- A new socket is not open yet. -/
theorem createConnection (linked : Linked session fed) (config : Config) :
    Linked (session.createConnection config).1 fed := by
  have others {socket : Nat}
      (connected : ((session.createConnection config).1.sockets socket).connected = true) :
      socket ≠ session.created ∧
        (session.createConnection config).1.sockets socket = session.sockets socket := by
    by_cases new : socket = session.created
    · subst new
      simp [ClientSession.createConnection] at connected
    · exact ⟨new, Function.update_of_ne new _ _⟩
  have kept {socket : Nat} (connected : (session.sockets socket).connected = true) :
      (session.createConnection config).1.sockets socket = session.sockets socket :=
    Function.update_of_ne (Nat.ne_of_lt (linked.settled socket connected).2) _ _
  refine ⟨⟨fun socket connected destroyed => ?_, linked.decoder⟩, fun socket current => ?_,
    fun socket delivered => ?_, fun socket connected => ?_⟩
  · have same := (others connected).2
    rw [same] at connected destroyed
    exact linked.only socket connected destroyed
  · have connected := linked.current socket current
    rw [kept connected]
    exact connected
  · have connected := linked.delivered socket delivered
    rw [kept connected]
    exact connected
  · have same := (others connected).2
    rw [same] at connected ⊢
    exact ⟨(linked.settled socket connected).1, Nat.lt_succ_of_lt (linked.settled socket connected).2⟩

/-- A change to one socket that neither opens it nor keeps it from being settled. -/
theorem updateSocket (linked : Linked session fed) {socket : Nat} {change : Socket → Socket}
    (connected : (change (session.sockets socket)).connected = (session.sockets socket).connected)
    (destroyed : (session.sockets socket).destroyed = true →
      (change (session.sockets socket)).destroyed = true)
    (settled : (session.sockets socket).settled = true →
      (change (session.sockets socket)).settled = true) :
    Linked (session.updateSocket socket change) fed := by
  have here : (session.updateSocket socket change).sockets socket =
      change (session.sockets socket) := Function.update_self _ _ _
  have elsewhere {other : Nat} (different : other ≠ socket) :
      (session.updateSocket socket change).sockets other = session.sockets other :=
    Function.update_of_ne different _ _
  have same (other : Nat) : ((session.updateSocket socket change).sockets other).connected =
      (session.sockets other).connected := by
    by_cases this : other = socket
    · rw [this, here, connected]
    · rw [elsewhere this]
  refine ⟨⟨fun other opened live => ?_, linked.decoder⟩, fun other current => ?_,
    fun other delivered => ?_, fun other opened => ?_⟩
  · refine linked.only other (same other ▸ opened) ?_
    by_cases this : other = socket
    · rw [this, here] at live
      rw [this]
      by_contra gone
      rw [destroyed (by simpa using gone)] at live
      contradiction
    · rwa [elsewhere this] at live
  · rw [same]
    exact linked.current other current
  · rw [same]
    exact linked.delivered other delivered
  · have before := linked.settled other (same other ▸ opened)
    refine ⟨?_, before.2⟩
    by_cases this : other = socket
    · rw [this, here]
      exact settled (this ▸ before.1)
    · rw [elsewhere this]
      exact before.1

/-- A socket that connects while no other one is open becomes the current one. -/
theorem onConnect (linked : Linked session fed) {socket : Nat} (new : socket < session.created)
    (waiting : (session.sockets socket).settled = false)
    (alone : ∀ other, (session.sockets other).connected = true →
      (session.sockets other).destroyed = true) : Linked (session.onConnect socket) fed := by
  have here : (session.onConnect socket).sockets socket =
      { session.sockets socket with settled := true, connected := true } := Function.update_self _ _ _
  have elsewhere {other : Nat} (different : other ≠ socket) :
      (session.onConnect socket).sockets other = session.sockets other :=
    Function.update_of_ne different _ _
  have silent : fed socket = [] := by
    by_contra delivered
    have settled := (linked.settled socket (linked.delivered socket delivered)).1
    rw [waiting] at settled
    contradiction
  have current : (session.onConnect socket).tcpSocket = some socket := rfl
  refine ⟨⟨fun other opened live => ?_, fun other is => ?_⟩, fun other is => ?_,
    fun other delivered => ?_, fun other opened => ?_⟩
  · by_cases this : other = socket
    · rw [this, current]
    · rw [elsewhere this] at opened live
      rw [alone other opened] at live
      contradiction
  · rw [current, Option.some.injEq] at is
    rw [← is, silent]
    rfl
  · rw [current, Option.some.injEq] at is
    rw [← is, here]
  · have different : other ≠ socket := fun this => delivered (this ▸ silent)
    rw [elsewhere different]
    exact linked.delivered other delivered
  · by_cases this : other = socket
    · rw [this, here]
      exact ⟨rfl, new⟩
    · rw [elsewhere this] at opened ⊢
      exact linked.settled other opened

/-- A session without a current socket. -/
theorem onClose (linked : Linked session fed) {socket : Nat}
    (gone : (session.sockets socket).destroyed = true) : Linked (session.onClose socket) fed := by
  by_cases current : session.tcpSocket = some socket
  · have cleared : Linked { session with tcpSocket := none, tcpConfig := none, pendingResponses := [] }
        fed := by
      refine ⟨⟨fun other opened live => ?_, fun other is => ?_⟩, fun other is => ?_,
        linked.delivered, linked.settled⟩
      · have this := linked.only other opened live
        rw [current, Option.some.injEq] at this
        rw [← this, gone] at live
        contradiction
      · contradiction
      · contradiction
    unfold ClientSession.onClose
    rw [if_neg (not_not.mpr current)]
    dsimp only
    split
    · exact cleared
    split
    · exact cleared.same ⟨rfl, rfl, rfl, fun _ => rfl⟩
    · split <;> exact cleared.same ⟨rfl, rfl, rfl, fun _ => rfl⟩
  · unfold ClientSession.onClose
    rw [if_pos current]
    exact linked

/-- A packet leaves the connections as they are, or closes the current one. -/
theorem handlePacket (linked : Linked session fed) {packet : ReceivedPacket}
    (handled : session.handlePacket packet = some session') : Linked session' fed := by
  by_cases reply : packet.type = MessageType.msgOk.code ∨ packet.type = MessageType.msgError.code
  · rw [ClientSession.handlePacket_reply session reply] at handled
    cases handled
    rcases session.handleCommandResponse_cases packet with
      ⟨_, _, _, _, same⟩ | ⟨_, _, same⟩ | ⟨_, _, _, same⟩
    · rw [same]
      exact linked.same ⟨rfl, rfl, rfl, fun _ => rfl⟩
    · rw [same]
      refine Linked.closeTcp ?_ false
      exact linked.same ⟨rfl, rfl, rfl, fun _ => rfl⟩
    · rw [same]
      exact linked.same ⟨rfl, rfl, rfl, fun _ => rfl⟩
  · rw [not_or] at reply
    obtain ⟨_, _, _, rfl⟩ := ClientSession.handlePacket_other reply.1 reply.2 handled
    exact linked.same ⟨rfl, rfl, rfl, fun _ => rfl⟩

/-- The packets of a chunk keep the session linked. -/
theorem handlePackets (linked : Linked session fed) {packets : List ReceivedPacket}
    (handled : (session.handlePackets packets).2 = some session') : Linked session' fed := by
  induction packets generalizing session with
  | nil =>
    cases handled
    exact linked
  | cons packet packets ih =>
    unfold ClientSession.handlePackets at handled
    cases first : session.handlePacket packet with
    | none =>
      rw [first] at handled
      contradiction
    | some middle =>
      rw [first] at handled
      exact ih (linked.handlePacket first) handled

/-- A chunk of an open socket goes to the decoder of that socket. -/
theorem handleTcpData (linked : Linked session fed) {socket : Nat} {chunk : List UInt8}
    (opened : (session.sockets socket).connected = true)
    (live : (session.sockets socket).destroyed = false)
    (handled : (session.handleTcpData chunk).2 = some session') :
    Linked session' (Function.update fed socket (fed socket ++ [chunk])) := by
  have current := linked.only socket opened live
  have pushed : Linked { session with tcpDecoder := (session.tcpDecoder.push chunk).2 }
      (Function.update fed socket (fed socket ++ [chunk])) := by
    refine ⟨⟨linked.only, fun other is => ?_⟩, linked.current, fun other delivered => ?_,
      linked.settled⟩
    · have this : other = socket := by
        rw [show session.tcpSocket = some other from is, Option.some.injEq] at current
        exact current
      rw [this, Function.update_self, decoderAfter, List.foldl_append, List.foldl_cons, List.foldl_nil,
        ← decoderAfter, ← linked.decoder socket current]
    · by_cases this : other = socket
      · rw [this]
        exact opened
      · rw [Function.update_of_ne this] at delivered
        exact linked.delivered other delivered
  unfold ClientSession.handleTcpData at handled
  revert handled
  cases answer : session.tcpDecoder.push chunk with
  | mk packets decoder =>
    rw [answer] at pushed
    cases packets with
    | none =>
      intro handled
      cases handled
      refine Linked.closeTcp ?_ false
      exact pushed.same ⟨rfl, rfl, rfl, fun _ => rfl⟩
    | some packets => exact fun handled => pushed.handlePackets handled

end Linked

/-- A gateway with the chunks that each socket has delivered, oldest first. -/
structure Observed where
  /-- The gateway. -/
  gateway : Gateway := {}
  /-- The chunks. -/
  fed : Nat → List (List UInt8) := fun _ => []

/-- The chunks after something has happened. -/
def Happening.record (fed : Nat → List (List UInt8)) : Happening → Nat → List (List UInt8)
  | .data socket chunk => Function.update fed socket (fed socket ++ [chunk])
  | _ => fed

namespace Observed

/-- A step of the gateway, recorded. -/
def step (observed : Observed) (happening : Happening) : Option Observed :=
  (observed.gateway.step happening).map fun gateway => ⟨gateway, happening.record observed.fed⟩

/-- The session of a browser that has just connected. -/
def Initial (observed : Observed) : Prop := observed = {}

/-- When a socket connects, no other one is open. -/
def Alone (observed : Observed) : Happening → Prop
  | .connect _ => ∀ other, (observed.gateway.session.sockets other).connected = true →
      (observed.gateway.session.sockets other).destroyed = true
  | _ => True

/-- What every step keeps. -/
structure Valid (observed : Observed) : Prop where
  /-- The session is linked to its sockets. -/
  linked : Linked observed.gateway.session observed.fed
  /-- What the calls wait for has passed the validation. -/
  calls : ∀ call ∈ observed.gateway.calls, call.purpose.Valid

end Observed

/-- A step keeps the session linked when a socket that connects is alone. -/
theorem Gateway.Moves.linked {gateway gateway' : Gateway} {happening : Happening}
    {fed : Nat → List (List UInt8)} (linked : Linked gateway.session fed)
    (alone : Observed.Alone ⟨gateway, fed⟩ happening) (moves : Moves gateway happening gateway') :
    Linked gateway'.session (happening.record fed) := by
  cases moves with
  | asked asks => exact linked.same asks.sameConnections
  | withdrew => exact linked.same ⟨rfl, rfl, rfl, fun _ => rfl⟩
  | disconnected => exact (linked.closeTcp true).same ⟨rfl, rfl, rfl, fun _ => rfl⟩
  | loggedOut closed =>
    unfold ClientSession.logout
    rw [if_neg closed]
    have cleared : Linked { gateway.session with loggedIn := false, username := [], groupsById := [] }
        fed := linked.same ⟨rfl, rfl, rfl, fun _ => rfl⟩
    exact (cleared.closeTcp false).same ⟨rfl, rfl, rfl, fun _ => rfl⟩
  | waits valid target =>
    unfold ensureTcp
    split
    · exact linked
    · exact (linked.closeTcp false).createConnection _
  | left =>
    have closing : Linked { gateway.session with closing := true } fed :=
      linked.same ⟨rfl, rfl, rfl, fun _ => rfl⟩
    exact closing.closeTcp true
  | connected created waiting live => exact linked.onConnect created waiting alone
  | @lost socket created =>
    have destroyed : Linked (gateway.session.updateSocket socket fun record =>
        { record with destroyed := true }) fed := linked.updateSocket rfl (fun _ => rfl) id
    exact destroyed
  | @failed socket message created =>
    have settled : Linked (gateway.session.updateSocket socket fun record =>
        { record with settled := true }) fed := linked.updateSocket rfl id fun _ => rfl
    exact settled
  | broken =>
    dsimp only
    unfold ClientSession.onError
    split
    · exact linked
    · exact linked.same ⟨rfl, rfl, rfl, fun _ => rfl⟩
  | @closed socket created destroyed =>
    have recorded : Linked (gateway.session.updateSocket socket fun record =>
        { record with closed := true }) fed := linked.updateSocket rfl id id
    refine recorded.onClose ?_
    simpa [ClientSession.updateSocket] using destroyed
  | delivered connected live handled => exact linked.handleTcpData connected live handled
  | ended found asks => exact linked.same asks.sameConnections
  | gaveUp member message => exact linked
  | @retried _ _ call member => exact linked.createConnection call.config

namespace Observed

/-- The runs in which sockets connect one at a time. -/
def ReachableAlone (observed : Observed) : Prop :=
  Reachable Initial (fun observed happening observed' =>
    observed.Alone happening ∧ observed.step happening = some observed') observed

/-- What every step keeps holds in every such run. -/
theorem ReachableAlone.valid {observed : Observed} (reached : observed.ReachableAlone) :
    observed.Valid := by
  refine reached.invariant Valid ?_ ?_
  · rintro _ rfl
    exact ⟨⟨⟨by simp, by simp⟩, by simp, by simp, by simp⟩, by simp⟩
  · intro observed happening observed' _ valid ⟨alone, taken⟩
    obtain ⟨gateway', moved, rfl⟩ := Option.map_eq_some_iff.mp taken
    have moves := Gateway.step_moves valid.calls moved
    exact ⟨moves.linked valid.linked alone, moves.calls valid.calls⟩

/-- When sockets connect one at a time, the session never has more than one live connection: a socket
that has connected and is not the current one has been destroyed, bytes can only come from the current
one, and the decoder has been given the bytes of the current one and no others. -/
theorem oneConnection {observed : Observed} (reached : observed.ReachableAlone) :
    OneConnection observed.gateway.session observed.fed ∧
      ∀ socket chunk observed', observed.step (.data socket chunk) = some observed' →
        observed.gateway.session.tcpSocket = some socket := by
  have valid := reached.valid
  refine ⟨valid.linked.toOneConnection, fun socket chunk observed' taken => ?_⟩
  obtain ⟨gateway', moved, _⟩ := Option.map_eq_some_iff.mp taken
  cases Gateway.step_moves valid.calls moved with
  | delivered connected live handled => exact valid.linked.only socket connected live

/-- A socket that connects while another one is open leaves two open. -/
theorem alone_of_oneConnection {observed observed' : Observed} {socket : Nat}
    (reached : observed.ReachableAlone) (taken : observed.step (.connect socket) = some observed')
    (one : OneConnection observed'.gateway.session observed'.fed) : observed.Alone (.connect socket) := by
  have valid := reached.valid
  obtain ⟨gateway', moved, rfl⟩ := Option.map_eq_some_iff.mp taken
  cases Gateway.step_moves valid.calls moved with
  | connected created waiting live =>
    intro other connected
    have different : other ≠ socket := by
      rintro rfl
      have settled := (valid.linked.settled other connected).1
      rw [waiting] at settled
      contradiction
    have same : (observed.gateway.session.onConnect socket).sockets other =
        observed.gateway.session.sockets other := Function.update_of_ne different _ _
    by_contra stays
    have current := one.only other (by rw [same]; exact connected)
      (by rw [same]; exact Bool.eq_false_iff.mpr stays)
    exact different (Option.some.inj current).symm

/-- A socket connects alone when those that were created before are closed. -/
theorem alone_of_created {observed : Observed} (reached : observed.ReachableAlone) {socket : Nat}
    (closed : ∀ other < observed.gateway.session.created,
      (observed.gateway.session.sockets other).connected = true →
        (observed.gateway.session.sockets other).destroyed = true) : observed.Alone (.connect socket) :=
  fun other connected => closed other (reached.valid.linked.settled other connected).2 connected

/-- The socket has connected, and its call goes on. -/
def joined (observed : Observed) (socket : Nat) : Observed :=
  ⟨⟨observed.gateway.session.onConnect socket, observed.gateway.calls.map (·.connected socket)⟩,
    observed.fed⟩

/-- A session whose second connection, to another server, has been established. -/
theorem oneConnection_second : ∃ observed : Observed,
    (observed.gateway.session.sockets 0).connected = true ∧
      observed.gateway.session.tcpSocket = some 1 ∧
        OneConnection observed.gateway.session observed.fed := by
  let waiting : Observed := ⟨({} : Gateway).ensureTcp .connect ⟨literal "a", 1⟩, fun _ => []⟩
  have asked : Alone {} (.browser (.connectTcp ⟨literal "a", 1⟩)) ∧
      Observed.step {} (.browser (.connectTcp ⟨literal "a", 1⟩)) = some waiting := ⟨trivial, rfl⟩
  have begun : waiting.ReachableAlone := .next (.start rfl) asked
  have connects : waiting.Alone (.connect 0) ∧
      waiting.step (.connect 0) = some (waiting.joined 0) :=
    ⟨alone_of_created begun (by decide), rfl⟩
  have first : (waiting.joined 0).ReachableAlone := .next begun connects
  let switching : Observed :=
    ⟨(waiting.joined 0).gateway.ensureTcp .connect ⟨literal "b", 2⟩, fun _ => []⟩
  have switches : (waiting.joined 0).Alone (.browser (.connectTcp ⟨literal "b", 2⟩)) ∧
      (waiting.joined 0).step (.browser (.connectTcp ⟨literal "b", 2⟩)) = some switching :=
    ⟨trivial, rfl⟩
  have moving : switching.ReachableAlone := .next first switches
  have reconnects : switching.Alone (.connect 1) ∧
      switching.step (.connect 1) = some (switching.joined 1) :=
    ⟨alone_of_created moving (by decide), rfl⟩
  have second : (switching.joined 1).ReachableAlone := .next moving reconnects
  exact ⟨switching.joined 1, rfl, rfl, (oneConnection second).1⟩

/-- Two calls wait for a connection at once and both get it. -/
def race : List Happening :=
  [.browser (.connectTcp ⟨literal "a", 1⟩), .browser (.connectTcp ⟨literal "b", 2⟩), .connect 0,
    .connect 1]

/-- The first of the two sockets stays open and feeds the decoder of the second. -/
theorem oneConnection_race : ¬ ∀ observed : Observed,
    Reachable Initial (fun observed happening observed' => observed.step happening = some observed')
        observed →
      OneConnection observed.gateway.session observed.fed ∧
        ∀ socket chunk observed', observed.step (.data socket chunk) = some observed' →
          observed.gateway.session.tcpSocket = some socket := by
  intro claim
  have outcome : (race.foldlM step {}).map (fun observed =>
      ((observed.gateway.session.sockets 0).connected, (observed.gateway.session.sockets 0).destroyed,
        observed.gateway.session.tcpSocket)) = some (true, false, some 1) := by decide
  obtain ⟨observed, ran, shown⟩ := Option.map_eq_some_iff.mp outcome
  rw [Prod.mk.injEq, Prod.mk.injEq] at shown
  have current := (claim observed (.of_foldlM (.start rfl) ran)).1.only 0 shown.1 shown.2.1
  rw [shown.2.2] at current
  contradiction

end Observed

end MultiUserChat.Web
