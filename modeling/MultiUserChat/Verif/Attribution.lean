import MultiUserChat.Verif.Network
/-!
# The entries that replies are taken for

`handleCommandResponse` takes the oldest entry of `pendingResponses` for whatever `MSG_OK` or
`MSG_ERROR` arrives. The server answers in order, so this is the entry of the request that is being
answered as long as nothing else disturbs the queue: no reply to a request without an entry arrives
while another one is unanswered, no entry is queued for a packet that is not sent, and no connection
is closed or replaced while entries are queued (`Network.Careful`).
-/

namespace MultiUserChat.Web

/-! ## What arrives -/

/-- A front of a stream of packets is decoded to the packets that it completes. -/
theorem decode_front {packets : List Packet} {bytes : List UInt8}
    (front : bytes <+: packets.flatMap wire) : ∃ count rest, count ≤ packets.length ∧
      packetFraming.decode bytes = ⟨(packets.take count).map wire, rest, false⟩ := by
  induction packets generalizing bytes with
  | nil =>
    rw [List.prefix_nil.mp front]
    exact ⟨0, [], le_rfl, Framing.decode_more rfl⟩
  | cons packet packets ih =>
    rw [List.flatMap_cons] at front
    by_cases short : bytes.length < (wire packet).length
    · have part : bytes <+: wire packet := List.prefix_of_prefix_length_le front
        (List.prefix_append _ _) short.le
      exact ⟨0, bytes, Nat.zero_le _, Framing.decode_more (packetCut_part part short)⟩
    · have whole : wire packet <+: bytes := List.prefix_of_prefix_length_le (List.prefix_append _ _)
        front (Nat.not_lt.mp short)
      obtain ⟨later, rfl⟩ := whole
      obtain ⟨count, rest, bound, decoded⟩ := ih ((List.prefix_append_right_inj _).mp front)
      have cut : packetFraming.cut (wire packet ++ later) = .frame (wire packet) later :=
        packetCut_wire packet later
      refine ⟨count + 1, rest, Nat.succ_le_succ bound, ?_⟩
      rw [Framing.decode_frame cut, decoded]
      rfl

/-- The decoder keeps what is behind the last packet. -/
theorem decoderAfter_buffer {chunks : List (List UInt8)}
    (accepted : (packetFraming.decode chunks.flatten).rejected = false) :
    (decoderAfter chunks).buffer = (packetFraming.decode chunks.flatten).rest := by
  induction chunks using List.reverseRecOn with
  | nil =>
    have nothing : packetFraming.decode [] = ⟨[], [], false⟩ := Framing.decode_more rfl
    rw [List.flatten_nil, nothing]
    rfl
  | append_singleton chunks chunk ih =>
    rw [List.flatten_append, List.flatten_singleton] at accepted ⊢
    have before : (packetFraming.decode chunks.flatten).rejected = false := by
      by_contra rejected
      have still := (Framing.decode_append_rejected chunk (by simpa using rejected)).2
      rw [still] at accepted
      contradiction
    rw [decoderAfter, List.foldl_append, List.foldl_cons, List.foldl_nil, ← decoderAfter,
      PacketDecoder.push_eq, ih before, Framing.decode_append chunk before]

/-- The packets that a chunk completes, after others have arrived. -/
def Link.arriving (link : Link) (fed : List (List UInt8)) (chunk : List UInt8) :
    List (Packet × Option Nat) :=
  (link.sent.take (completed (fed ++ [chunk]))).drop (completed fed)

/-- What has arrived after a chunk. -/
theorem Link.arriving_append {link : Link} {fed : List (List UInt8)} {chunk : List UInt8}
    (more : completed fed ≤ completed (fed ++ [chunk])) :
    link.sent.take (completed fed) ++ link.arriving fed chunk =
      link.sent.take (completed (fed ++ [chunk])) := by
  have parts := List.take_append_drop (completed fed) (link.sent.take (completed (fed ++ [chunk])))
  rw [List.take_take, Nat.min_eq_left more] at parts
  exact parts

/-- A chunk of a connection makes the session handle the packets that it completes. -/
theorem ClientSession.handleTcpData_arrived {session : ClientSession} {fed : List (List UInt8)}
    {chunk : List UInt8} {link : Link} (decoder : session.tcpDecoder = decoderAfter fed)
    (front : (fed ++ [chunk]).flatten <+: link.stream) :
    completed fed ≤ completed (fed ++ [chunk]) ∧ completed (fed ++ [chunk]) ≤ link.sent.length ∧
      session.tcpDecoder.push chunk =
        (some ((link.arriving fed chunk).map fun entry : Packet × Option Nat =>
          receivedFrom entry.1), decoderAfter (fed ++ [chunk])) ∧
      session.handleTcpData chunk =
        { session with tcpDecoder := decoderAfter (fed ++ [chunk]) }.handlePackets
          ((link.arriving fed chunk).map fun entry : Packet × Option Nat =>
            receivedFrom entry.1) := by
  have packets : link.stream = (link.sent.map Prod.fst).flatMap wire := by
    rw [Link.stream, List.flatMap_map]
  rw [packets] at front
  obtain ⟨count, rest, bound, after⟩ := decode_front front
  have flat : (fed ++ [chunk]).flatten = fed.flatten ++ chunk := by
    rw [List.flatten_append, List.flatten_singleton]
  obtain ⟨earlier, rest', bound', before⟩ := decode_front
    ((List.prefix_append fed.flatten chunk).trans (flat ▸ front))
  rw [List.length_map] at bound bound'
  have now : completed (fed ++ [chunk]) = count := by
    rw [completed, after, List.length_map, List.length_take, List.length_map, Nat.min_eq_left bound]
  have then_ : completed fed = earlier := by
    rw [completed, before, List.length_map, List.length_take, List.length_map,
      Nat.min_eq_left bound']
  have accepted : (packetFraming.decode fed.flatten).rejected = false := by rw [before]
  have buffer : session.tcpDecoder.buffer = rest' := by
    rw [decoder, decoderAfter_buffer accepted, before]
  -- The frames of the whole stream are those of its front and those that the chunk completes.
  have appended := Framing.decode_append chunk accepted
  rw [← flat, after, before, Decoded.mk.injEq] at appended
  obtain ⟨frames, behind, fine⟩ := appended
  have more : earlier ≤ count := by
    have lengths := congrArg List.length frames
    simp only [List.length_append, List.length_map, List.length_take] at lengths
    omega
  have new : (packetFraming.decode (rest' ++ chunk)).frames =
      ((link.sent.take count).drop earlier).map fun entry => wire entry.1 := by
    have dropped := congrArg (List.drop earlier) frames
    rw [List.drop_left' (by simp [bound'])] at dropped
    rw [← dropped, ← List.map_take, List.map_map, ← List.map_drop]
    rfl
  have decoded : ⟨(packetFraming.decode (rest' ++ chunk)).rest⟩ = decoderAfter (fed ++ [chunk]) := by
    have kept : (decoderAfter (fed ++ [chunk])).buffer = rest := by
      rw [decoderAfter_buffer (by rw [after]), after]
    rw [← behind, ← kept]
  rw [← buffer] at new decoded fine
  have received (entries : List (Packet × Option Nat)) :
      (entries.map fun entry => wire entry.1).map packetOfFrame =
        entries.map fun entry => receivedFrom entry.1 := by
    rw [List.map_map]
    exact List.map_congr_left fun entry _ => packetOfFrame_eq entry.1
  obtain ⟨pushed, handled⟩ := ClientSession.handleTcpData_accepted fine.symm
  rw [new, decoded, received] at pushed handled
  rw [Link.arriving, now, then_]
  exact ⟨more, bound, pushed, handled⟩

/-! ## One packet -/

/-- The entries that replies among the packets are taken for, until an error escapes. -/
def ClientSession.attributed (session : ClientSession) : List ReceivedPacket → List (Option Pending)
  | [] => []
  | packet :: packets =>
    (if packet.type = MessageType.msgOk.code ∨ packet.type = MessageType.msgError.code then
        [session.pendingResponses.head?]
      else []) ++
      match session.handlePacket packet with
      | none => []
      | some session => session.attributed packets

/-- The entries that the replies of a chunk are taken for. -/
def ClientSession.taken (session : ClientSession) (chunk : List UInt8) : List (Option Pending) :=
  match session.tcpDecoder.push chunk with
  | (none, _) => []
  | (some packets, decoder) => { session with tcpDecoder := decoder }.attributed packets

/-- The names of the session fit their fields. -/
def ClientSession.Named (session : ClientSession) : Prop :=
  byteLength session.username < usernameMaxLen ∧
    ∀ action username, .auth action username ∈ session.pendingResponses →
      byteLength username < usernameMaxLen

/-- A packet is a reply by its type. -/
theorem reply_iff (packet : Packet) : packet.reply = true ↔
    (receivedFrom packet).type = MessageType.msgOk.code ∨
      (receivedFrom packet).type = MessageType.msgError.code := by
  constructor
  · intro reply
    unfold Packet.reply at reply
    cases selected : MessageType.ofCode? packet.type with
    | none =>
      rw [selected] at reply
      contradiction
    | some type =>
      rw [selected, Option.any_some] at reply
      have code := MessageType.code_of_ofCode? selected
      cases type with
      | msgOk => exact .inl code.symm
      | msgError => exact .inr code.symm
      | _ => contradiction
  · rintro (ok | error)
    · exact Packet.reply_of_type ok
    · exact Packet.reply_of_type error

/-- Closing a connection writes a logout of the user who is logged in, or nothing. -/
theorem ClientSession.closeTcp_written (session : ClientSession) (sendLogout : Bool) (other : Nat) :
    ((session.closeTcp sendLogout).sockets other).written = (session.sockets other).written ∨
      sendLogout = true ∧ session.openSocket = some other ∧ session.loggedIn = true ∧ ∃ bytes,
        encodePacket MessageType.msgLogout.code session.username [] [] = .ok bytes ∧
          ((session.closeTcp sendLogout).sockets other).written =
            (session.sockets other).written ++ [bytes] := by
  unfold closeTcp
  cases opened : session.openSocket with
  | none => exact .inl rfl
  | some socket =>
    dsimp only
    have destroys (session : ClientSession) :
        ((session.destroy socket).sockets other).written = (session.sockets other).written := by
      by_cases same : other = socket
      · subst same
        simp [destroy, updateSocket]
      · simp [destroy, updateSocket, same]
    split
    · rename_i announced
      rw [Bool.and_eq_true] at announced
      split
      · rename_i bytes encoded
        rw [destroys]
        by_cases same : other = socket
        · subst same
          exact .inr ⟨announced.1, rfl, announced.2, bytes, encoded, by simp [write, updateSocket]⟩
        · exact .inl (by simp [write, updateSocket, same])
      · exact .inl (destroys session)
    · exact .inl (destroys session)

/-- Closing a connection without a logout writes nothing. -/
theorem ClientSession.closeTcp_silent (session : ClientSession) (other : Nat) :
    ((session.closeTcp false).sockets other).written = (session.sockets other).written :=
  (session.closeTcp_written false other).resolve_right fun ⟨impossible, _⟩ =>
    Bool.false_ne_true impossible

/-- Closing a connection leaves the queue and the user as they are. -/
theorem ClientSession.closeTcp_kept (session : ClientSession) (sendLogout : Bool) :
    (session.closeTcp sendLogout).tcpSocket = none ∧
      (session.closeTcp sendLogout).pendingResponses = session.pendingResponses ∧
      (session.closeTcp sendLogout).username = session.username ∧
      (session.closeTcp sendLogout).loggedIn = session.loggedIn := by
  obtain ⟨_, same⟩ := session.closeTcp_eq sendLogout
  rw [same]
  exact ⟨rfl, rfl, rfl, rfl⟩

/-- Only the first entry is taken. -/
theorem ClientSession.Named.tail {session session' : ClientSession} (named : session.Named)
    (username : byteLength session'.username < usernameMaxLen)
    (queue : session'.pendingResponses = session.pendingResponses.tail) : session'.Named :=
  ⟨username, fun action name member =>
    named.2 action name (List.mem_of_mem_tail (queue ▸ member))⟩

/-- The sockets have the same written on them, and the same ones have connected. -/
def Untouched (session session' : ClientSession) : Prop :=
  ∀ socket, (session'.sockets socket).written = (session.sockets socket).written ∧
    (session'.sockets socket).connected = (session.sockets socket).connected

/-- What a packet does to the queue, the connections and the user. -/
structure Handles (session session' : ClientSession) (packet : Packet) : Prop where
  /-- A reply takes the oldest entry. -/
  queue : session'.pendingResponses =
    if packet.reply = true then session.pendingResponses.tail else session.pendingResponses
  /-- The reply to a logout ends the connection. -/
  socket : session'.tcpSocket = session.tcpSocket ∨
    session'.tcpSocket = none ∧ packet.reply = true ∧
      session.pendingResponses.head? = some (.status .logout)
  /-- There is no connection after the reply to a logout. -/
  ended : packet.reply = true → session.pendingResponses.head? = some (.status .logout) →
    session'.tcpSocket = none
  /-- Nothing is written, and no socket connects. -/
  untouched : Untouched session session'
  /-- Names stay short. -/
  named : session.Named → session'.Named
  /-- A user who is logged in was before, or the login was accepted. -/
  entered : session'.loggedIn = true → session'.tcpSocket = session.tcpSocket ∧
    (session.loggedIn = true ∧ session'.username = session.username ∨
      packet.type = MessageType.msgOk.code ∧
        session.pendingResponses.head? = some (.auth .login session'.username))

/-- What a packet does. -/
theorem ClientSession.handlePacket_handles {session session' : ClientSession} {packet : Packet}
    (handled : session.handlePacket (receivedFrom packet) = some session') :
    Handles session session' packet := by
  by_cases reply : packet.reply = true
  · rw [handlePacket_reply session ((reply_iff packet).mp reply), Option.some.injEq] at handled
    rcases session.handleCommandResponse_cases (receivedFrom packet) with
      ⟨username, _, head, ok, same⟩ | ⟨notices, head, same⟩ | ⟨_, notLogout, _, same⟩
    · rw [← handled, same]
      refine ⟨(if_pos reply).symm, .inl rfl, fun _ logout => ?_, fun _ => ⟨rfl, rfl⟩, fun named => ?_,
        fun _ => ⟨rfl, .inr ⟨ok, head⟩⟩⟩
      · simp [head] at logout
      exact named.tail (named.2 .login username (List.mem_of_mem_head? head)) rfl
    · rw [← handled, same]
      have untouched (socket : Nat) := closeTcp_sockets
        { session with
          pendingResponses := session.pendingResponses.tail, loggedIn := false, username := [],
          groupsById := [], notices } false socket
      have written (socket : Nat) := closeTcp_silent
        { session with
          pendingResponses := session.pendingResponses.tail, loggedIn := false, username := [],
          groupsById := [], notices } socket
      obtain ⟨socket, queue, username, entered⟩ := closeTcp_kept
        { session with
          pendingResponses := session.pendingResponses.tail, loggedIn := false, username := [],
          groupsById := [], notices } false
      refine ⟨queue.trans (if_pos reply).symm, .inr ⟨socket, reply, head⟩, fun _ _ => socket,
        fun socket => ?_, fun named => ?_, fun stays => ?_⟩
      · obtain ⟨_, record⟩ := untouched socket
        exact ⟨written socket, by rw [record]⟩
      · have short : byteLength [] < usernameMaxLen := by decide
        exact named.tail (username ▸ short) queue
      · rw [entered] at stays
        contradiction
    · rw [← handled, same]
      exact ⟨(if_pos reply).symm, .inl rfl, fun _ logout => absurd logout notLogout,
        fun _ => ⟨rfl, rfl⟩, fun named => named.tail named.1 rfl, fun stays => ⟨rfl, .inl ⟨stays, rfl⟩⟩⟩
  · have other := mt (reply_iff packet).mpr reply
    rw [not_or] at other
    obtain ⟨_, _, _, rfl⟩ := handlePacket_other other.1 other.2 handled
    exact ⟨(if_neg reply).symm, .inl rfl, fun is => absurd is reply, fun _ => ⟨rfl, rfl⟩, id,
      fun stays => ⟨rfl, .inl ⟨stays, rfl⟩⟩⟩

/-- Replies carry the number of a request. -/
def Numbered (sent : List (Packet × Option Nat)) : Prop :=
  ∀ entry ∈ sent, entry.1.reply = true → entry.2 ≠ none

/-- Replies to requests without an entry, and to a logout, come when nothing else is unanswered. -/
def Quiet (asked : List (Option Pending)) (early later : List (Packet × Option Nat)) : Prop :=
  ∀ front packet number, front ++ [(packet, some number)] <+: later → packet.reply = true →
    (entryOf asked number = none → unanswered asked (answers (early ++ front)) = []) ∧
      (entryOf asked number = some (.status .logout) →
        unanswered asked (answers (early ++ front ++ [(packet, some number)])) = [])

/-- The entries of the requests that the replies among the packets answer. -/
def expected (asked : List (Option Pending)) (sent : List (Packet × Option Nat)) :
    List (Option Pending) :=
  sent.filterMap fun entry => if entry.1.reply = true then some (entry.2.bind (entryOf asked)) else none

/-- Answers add up. -/
theorem answers_append (early later : List (Packet × Option Nat)) :
    answers (early ++ later) = answers early ++ answers later := List.filterMap_append

/-- The packets passed are those up to the one from which an error escapes. -/
theorem ClientSession.handlePackets_cons (session : ClientSession) (packet : ReceivedPacket)
    (packets : List ReceivedPacket) : session.handlePackets (packet :: packets) =
      match session.handlePacket packet with
      | none => ([packet], none)
      | some session => (packet :: (session.handlePackets packets).1,
          (session.handlePackets packets).2) := rfl

/-- What packets that come in order do, after some others. -/
structure Follows (asked : List (Option Pending)) (early later : List (Packet × Option Nat))
    (session session' : ClientSession) : Prop where
  /-- The queue holds what is then unanswered. -/
  queue : session'.pendingResponses = unanswered asked (answers (early ++ later))
  /-- The connection stays, or ends with nothing queued. -/
  socket : session'.tcpSocket = session.tcpSocket ∨
    session'.tcpSocket = none ∧ session'.pendingResponses = []
  /-- While there is a connection, no logout has been answered. -/
  remains : session'.tcpSocket ≠ none → ∀ number ∈ answers later,
    entryOf asked number ≠ some (.status .logout)
  /-- Nothing is written, and no socket connects. -/
  untouched : Untouched session session'
  /-- Names stay short. -/
  named : session.Named → session'.Named
  /-- A user who is logged in was before, or the login was accepted. -/
  entered : session'.loggedIn = true → session'.tcpSocket = session.tcpSocket ∧
    (session.loggedIn = true ∧ session'.username = session.username ∨
      ∃ packet number, (packet, some number) ∈ later ∧ packet.type = MessageType.msgOk.code ∧
        entryOf asked number = some (.auth .login session'.username))

section

variable {asked : List (Option Pending)} {early later : List (Packet × Option Nat)} {packet : Packet}
  {tag : Option Nat} {session middle session' : ClientSession}

/-- What comes behind the first packet is quiet. -/
theorem Quiet.next (quiet : Quiet asked early ((packet, tag) :: later)) :
    Quiet asked (early ++ [(packet, tag)]) later := by
  intro front other number front_of reply
  have alone := quiet ((packet, tag) :: front) other number ((List.prefix_cons_inj _).mpr front_of) reply
  rwa [List.append_cons] at alone

/-- What comes behind the first packet is numbered. -/
theorem Numbered.next (numbered : Numbered ((packet, tag) :: later)) : Numbered later :=
  fun entry member => numbered entry (List.mem_cons_of_mem _ member)

/-- A reply that comes first has the number of a request. -/
theorem Numbered.first (numbered : Numbered ((packet, tag) :: later)) (reply : packet.reply = true) :
    ∃ number, tag = some number :=
  Option.ne_none_iff_exists'.mp (numbered (packet, tag) List.mem_cons_self reply)

/-- Nothing is unanswered after the reply to a logout. -/
theorem Quiet.logout {number : Nat} (quiet : Quiet asked early ((packet, some number) :: later))
    (reply : packet.reply = true) (entry : entryOf asked number = some (.status .logout)) :
    unanswered asked (answers (early ++ [(packet, some number)])) = [] := by
  have nothing := (quiet [] packet number ⟨later, rfl⟩ reply).2 entry
  rwa [List.append_nil] at nothing

/-- A packet is taken for the entry of the request that it answers, and leaves the entries that are
then unanswered. -/
structure Takes (asked : List (Option Pending)) (early : List (Packet × Option Nat))
    (session : ClientSession) (packet : Packet) (tag : Option Nat) : Prop where
  /-- The entry. -/
  head : packet.reply = true → session.pendingResponses.head? = tag.bind (entryOf asked)
  /-- What is left. -/
  left : (if packet.reply = true then session.pendingResponses.tail else session.pendingResponses) =
    unanswered asked (answers (early ++ [(packet, tag)]))

/-- What the first packet is taken for. -/
theorem first_takes (ordered : InOrder asked (answers (early ++ (packet, tag) :: later)))
    (numbered : Numbered ((packet, tag) :: later)) (quiet : Quiet asked early ((packet, tag) :: later))
    (queue : session.pendingResponses = unanswered asked (answers early)) :
    Takes asked early session packet tag := by
  by_cases reply : packet.reply = true
  · obtain ⟨number, rfl⟩ := numbered.first reply
    have more : answers (early ++ [(packet, some number)]) = answers early ++ [number] := by
      rw [answers_append]
      simp [answers, reply]
    have front : InOrder asked (answers early ++ [number]) := by
      rw [List.append_cons, answers_append, more] at ordered
      exact ordered.front (List.prefix_append _ _)
    have alone := (quiet [] packet number ⟨later, rfl⟩ reply).1
    rw [List.append_nil] at alone
    obtain ⟨head, tail⟩ := front.answer alone
    refine ⟨fun _ => queue ▸ head, ?_⟩
    rw [queue, if_pos reply, more]
    exact tail
  · have same : answers (early ++ [(packet, tag)]) = answers early := by
      rw [answers_append]
      simp [answers, reply]
    refine ⟨fun is => absurd is reply, ?_⟩
    rw [if_neg reply, same]
    exact queue

/-- What is noted of the first packet. -/
theorem Takes.expected (takes : Takes asked early session packet tag) :
    (if (receivedFrom packet).type = MessageType.msgOk.code ∨
        (receivedFrom packet).type = MessageType.msgError.code then
        [session.pendingResponses.head?] else []) = expected asked [(packet, tag)] := by
  by_cases reply : packet.reply = true
  · rw [if_pos ((reply_iff packet).mp reply), takes.head reply]
    simp [Web.expected, reply]
  · rw [if_neg (mt (reply_iff packet).mpr reply)]
    simp [Web.expected, reply]

/-- The expectations of some packets are those of the first and of the others. -/
theorem expected_cons (entry : Packet × Option Nat) (later : List (Packet × Option Nat)) :
    expected asked (entry :: later) = expected asked [entry] ++ expected asked later := by
  rw [expected, ← List.singleton_append, List.filterMap_append, expected, expected]

/-- The connection after a packet and what comes behind it. -/
theorem Handles.socket_follows (handles : Handles session middle packet)
    (takes : Takes asked early session packet tag) (numbered : Numbered ((packet, tag) :: later))
    (quiet : Quiet asked early ((packet, tag) :: later))
    (follows : Follows asked (early ++ [(packet, tag)]) later middle session') :
    session'.tcpSocket = session.tcpSocket ∨
      session'.tcpSocket = none ∧ session'.pendingResponses = [] := by
  rcases follows.socket with same | closed
  · rcases handles.socket with open_ | ⟨none, reply, logout⟩
    · exact .inl (same.trans open_)
    · obtain ⟨number, rfl⟩ := numbered.first reply
      have nothing := quiet.logout reply ((takes.head reply).symm.trans logout)
      rw [follows.queue, answers_append]
      exact .inr ⟨same.trans none, unanswered_append_answered nothing _⟩
  · exact .inr closed

/-- While there is a connection, neither the first packet nor what comes behind it has answered a
logout. -/
theorem Handles.remains_follows (handles : Handles session middle packet)
    (takes : Takes asked early session packet tag)
    (follows : Follows asked (early ++ [(packet, tag)]) later middle session')
    (stays : session'.tcpSocket ≠ none) {number : Nat} (member : number ∈ answers ((packet, tag) :: later)) :
    entryOf asked number ≠ some (.status .logout) := by
  rw [← List.singleton_append, answers_append, List.mem_append] at member
  rcases member with first | behind
  · obtain ⟨⟨_, _⟩, same, answering⟩ := List.mem_filterMap.mp first
    cases List.mem_singleton.mp same
    obtain ⟨reply, rfl⟩ := Option.ite_none_right_eq_some.mp answering
    intro logout
    have closed := handles.ended reply ((takes.head reply).trans logout)
    rcases follows.socket with same | ⟨none, _⟩
    · exact stays (same.trans closed)
    · exact stays none
  · exact follows.remains stays number behind

/-- A user who is logged in after a packet and what comes behind it was logged in before, or one of
them has accepted the login. -/
theorem Handles.entered_follows (handles : Handles session middle packet)
    (takes : Takes asked early session packet tag) (numbered : Numbered ((packet, tag) :: later))
    (quiet : Quiet asked early ((packet, tag) :: later))
    (ordered : InOrder asked (answers (early ++ (packet, tag) :: later)))
    (follows : Follows asked (early ++ [(packet, tag)]) later middle session')
    (stays : session'.loggedIn = true) : session'.tcpSocket = session.tcpSocket ∧
      (session.loggedIn = true ∧ session'.username = session.username ∨
        ∃ reply number, (reply, some number) ∈ (packet, tag) :: later ∧
          reply.type = MessageType.msgOk.code ∧
            entryOf asked number = some (.auth .login session'.username)) := by
  obtain ⟨same, ⟨earlier, username⟩ | ⟨reply, number, member, ok, entry⟩⟩ := follows.entered stays
  · obtain ⟨before, ⟨entered, user⟩ | ⟨ok, head⟩⟩ := handles.entered earlier
    · exact ⟨same.trans before, .inl ⟨entered, username.trans user⟩⟩
    · have reply : packet.reply = true := Packet.reply_of_type ok
      obtain ⟨number, rfl⟩ := numbered.first reply
      refine ⟨same.trans before, .inr ⟨packet, number, List.mem_cons_self, ok, ?_⟩⟩
      rw [username]
      exact (takes.head reply).symm.trans head
  · rcases handles.socket with before | ⟨none, isReply, logout⟩
    · exact ⟨same.trans before, .inr ⟨reply, number, List.mem_cons_of_mem _ member, ok, entry⟩⟩
    · -- After the reply to a logout no login is unanswered.
      obtain ⟨last, rfl⟩ := numbered.first isReply
      have nothing := quiet.logout isReply ((takes.head isReply).symm.trans logout)
      have answered : number ∈ answers later :=
        List.mem_filterMap.mpr ⟨_, member, if_pos (Packet.reply_of_type ok)⟩
      rw [List.append_cons, answers_append] at ordered
      refine absurd answered (ordered.apart (answered_of_unanswered nothing ?_))
      rw [entry]
      simp

/-- A packet, and what comes behind it. -/
theorem Handles.follows (handles : Handles session middle packet)
    (takes : Takes asked early session packet tag) (numbered : Numbered ((packet, tag) :: later))
    (quiet : Quiet asked early ((packet, tag) :: later))
    (ordered : InOrder asked (answers (early ++ (packet, tag) :: later)))
    (follows : Follows asked (early ++ [(packet, tag)]) later middle session') :
    Follows asked early ((packet, tag) :: later) session session' where
  queue := by
    rw [List.append_cons]
    exact follows.queue
  socket := handles.socket_follows takes numbered quiet follows
  remains stays _ member := handles.remains_follows takes follows stays member
  untouched socket := ⟨(follows.untouched socket).1.trans (handles.untouched socket).1,
    (follows.untouched socket).2.trans (handles.untouched socket).2⟩
  named := follows.named ∘ handles.named
  entered := handles.entered_follows takes numbered quiet ordered follows

/-- Packets that come in order, after some others, are taken for the entries of the requests that
they answer, and leave the entries that are then unanswered. -/
theorem ClientSession.attributed_expected (ordered : InOrder asked (answers (early ++ later)))
    (numbered : Numbered later) (quiet : Quiet asked early later)
    (queue : session.pendingResponses = unanswered asked (answers early)) :
    let packets := later.map fun entry => receivedFrom entry.1
    session.attributed packets =
        expected asked (later.take (session.handlePackets packets).1.length) ∧
      ∀ session', (session.handlePackets packets).2 = some session' →
        Follows asked early later session session' := by
  dsimp only
  induction later generalizing early session with
  | nil =>
    refine ⟨rfl, fun session' handled => ?_⟩
    cases handled
    rw [← List.append_nil early] at queue
    exact ⟨queue, .inl rfl, fun _ _ none => absurd none List.not_mem_nil, fun _ => ⟨rfl, rfl⟩, id,
      fun stays => ⟨rfl, .inl ⟨stays, rfl⟩⟩⟩
  | cons entry later ih =>
    obtain ⟨packet, tag⟩ := entry
    have takes := first_takes ordered numbered quiet queue
    rw [List.map_cons, handlePackets_cons, attributed, takes.expected]
    dsimp only
    cases handled : session.handlePacket (receivedFrom packet) with
    | none =>
      refine ⟨?_, fun session' ended => by contradiction⟩
      rw [List.append_nil]
      rfl
    | some middle =>
      have handles := handlePacket_handles handled
      obtain ⟨attributions, follows⟩ := ih (List.append_cons early (packet, tag) later ▸ ordered)
        numbered.next quiet.next (handles.queue.trans takes.left)
      refine ⟨?_, fun session' ended =>
        handles.follows takes numbered quiet ordered (follows session' ended)⟩
      dsimp only
      rw [attributions, List.length_cons, List.take_succ_cons]
      exact (expected_cons _ _).symm

end

end MultiUserChat.Web
