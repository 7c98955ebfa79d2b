import MultiUserChat.Verif.LastingLogins
import MultiUserChat.Verif.Matching
/-!
# Logins that a server has accepted

A `LOGIN` on a connection is accepted when its server has answered it with `MSG_OK` (`Link.Accepts`).
Its user is then logged in there until the connection is over for it: a `LOGOUT` on it is handled, it
ends, or a send on it fails (`Link.Over`). Each step of the servers keeps this (`Network.Lasting`).
-/

namespace MultiUserChat.Web

/-! ## A login on a connection -/

namespace Link

/-- The server has answered a `LOGIN` on the connection with `MSG_OK`. -/
structure Accepts (link : Link) (written : List (List UInt8)) (number : Nat) (name : CString) :
    Prop where
  /-- It has been handled. -/
  handled : number < link.handled
  /-- It is a `LOGIN` of the user. -/
  login : ∃ packet : Packet, written[number]? = some (wire packet) ∧
    packet.type = MessageType.msgLogin.code ∧ packet.senderName = name
  /-- The reply was `MSG_OK`. -/
  reply : ∃ reply : Packet, (reply, some number) ∈ link.sent ∧
    reply.type = MessageType.msgOk.code

/-- The server has lost the connection, or has handled a `LOGOUT` on it after a request. -/
def Over (link : Link) (written : List (List UInt8)) (number : Nat) : Prop :=
  link.broken = true ∨ link.closed = true ∨
    ∃ later, number < later ∧ later < link.handled ∧ ∃ packet : Packet,
      written[later]? = some (wire packet) ∧ packet.type = MessageType.msgLogout.code

variable {link : Link} {written behind : List (List UInt8)} {number : Nat} {name : CString}

/-- What was written later has not been handled. -/
theorem Accepts.before (accepts : link.Accepts (written ++ behind) number name)
    (bound : link.handled ≤ written.length) : link.Accepts written number name := by
  obtain ⟨handled, ⟨packet, found, login⟩, reply⟩ := accepts
  rw [List.getElem?_append_left (handled.trans_le bound)] at found
  exact ⟨handled, ⟨packet, found, login⟩, reply⟩

/-- A request that was written stays. -/
theorem getElem?_more {bytes : List UInt8} (found : written[number]? = some bytes) :
    (written ++ behind)[number]? = some bytes := by
  rw [List.getElem?_append_left (List.getElem?_eq_some_iff.mp found).1, found]

/-- What is over stays so when more is written. -/
theorem Over.more (past : link.Over written number) : link.Over (written ++ behind) number := by
  refine past.imp_right (Or.imp_right ?_)
  rintro ⟨later, after, handled, packet, found, logout⟩
  exact ⟨later, after, handled, packet, getElem?_more found, logout⟩

/-- A connection to which a send fails is broken. -/
theorem hears_fails {events : List (Event Operation Answer)} {tag : Option Nat}
    (failed : ∃ event ∈ events, FailsTo link.fd event) :
    (link.hears events tag).broken = true ∨ (link.hears events tag).closed = true := by
  obtain ⟨event, member, packet, target, rfl⟩ := failed
  unfold hears
  split
  · assumption
  · refine .inl (List.any_eq_true.mpr ⟨(packet, false), ?_, rfl⟩)
    exact List.mem_filterMap.mpr ⟨_, member, if_pos rfl⟩

/-- A broken connection stays broken. -/
theorem hears_broken {events : List (Event Operation Answer)} {tag : Option Nat}
    (broken : link.broken = true) : (link.hears events tag).broken = true := by
  unfold hears
  rw [if_pos (.inl broken)]
  exact broken

/-- What a connection carries was there before, or is sent now with the number of the request. -/
theorem mem_hears {events : List (Event Operation Answer)} {tag : Option Nat}
    {entry : Packet × Option Nat} (member : entry ∈ (link.hears events tag).sent) :
    entry ∈ link.sent ∨ entry.2 = tag ∧ ∃ target,
      ⟨.send link.fd entry.1 target, true⟩ ∈ events := by
  unfold hears at member
  split at member
  · exact .inl member
  · rcases List.mem_append.mp member with old | new
    · exact .inl old
    · obtain ⟨⟨packet, delivered⟩, taken, rfl⟩ := List.mem_map.mp new
      obtain ⟨⟨op, answer⟩, performed, sending⟩ :=
        List.mem_filterMap.mp ((List.takeWhile_prefix _).subset taken)
      have success : delivered = true := List.mem_takeWhile_imp taken
      cases op with
      | send target sent owner =>
        simp only [Link.sending, Option.ite_none_right_eq_some, Option.some.injEq,
          Prod.mk.injEq] at sending
        obtain ⟨rfl, rfl, rfl⟩ := sending
        exact .inr ⟨rfl, owner, success ▸ performed⟩
      | _ => contradiction

/-- What is over stays so while the server goes on. -/
theorem Over.hears (past : link.Over written number) (events : List (Event Operation Answer))
    (tag : Option Nat) : (link.hears events tag).Over written number := by
  obtain ⟨_, _, handled, closed⟩ := link.hears_same events tag
  refine past.imp hears_broken (Or.imp (closed.trans ·) ?_)
  rw [handled]
  exact id

/-- A request that was accepted has been so before, when the number of another one, or none, is
given to what is sent. -/
theorem Accepts.heard {events : List (Event Operation Answer)} {tag : Option Nat}
    (accepts : (link.hears events tag).Accepts written number name) (other : tag ≠ some number) :
    link.Accepts written number name := by
  obtain ⟨handled, login, reply, member, ok⟩ := accepts
  rw [(link.hears_same events tag).2.2.1] at handled
  refine ⟨handled, login, reply, (mem_hears member).resolve_right ?_, ok⟩
  rintro ⟨same, _⟩
  exact other same.symm

end Link

namespace Network

variable {network network' : Network}

/-- What the gateway has written on a socket. -/
abbrev written (network : Network) (socket : Nat) : List (List UInt8) :=
  (network.gateway.session.sockets socket).written

/-- A login that a server has accepted lasts until the connection is over for it. -/
def Lasting (network : Network) : Prop :=
  ∀ socket link number name, network.links socket = some link →
    link.Accepts (network.written socket) number name →
      link.Over (network.written socket) number ∨
        (network.servers link.server).state.LoggedIn link.fd name

/-! ## The steps of the servers -/

section

variable [Sha256] {outcomes : Nat → Outcome} {server : Nat} {machine : ServerMachine} {input : Input}
  {numbers : Nat → Option Nat} {socket : Nat} {link' : Link} {number : Nat} {name : CString}

/-- A login lasts while its server handles an input that is neither the end of its connection nor a
`LOGOUT` on it. -/
theorem Lasting.served (lasting : network.Lasting)
    (handled : Served outcomes (network.servers server) input machine)
    (wellFormed : (network.servers server).state.WellFormed)
    (after : (network.served server machine numbers).links socket = some link')
    (accepts : link'.Accepts (network.written socket) number name)
    (other : numbers socket ≠ some number)
    (stays : ∀ link, network.links socket = some link → link.server = server →
      link.closed = false → input ≠ .disconnect link.fd ∧
        ∀ packet, input = .packet link.fd packet → packet.type ≠ MessageType.msgLogout.code) :
    link'.Over (network.written socket) number ∨
      ((network.served server machine numbers).servers link'.server).state.LoggedIn link'.fd name := by
  obtain ⟨link, before, ⟨elsewhere, rfl⟩ | ⟨rfl, rfl⟩⟩ := served_links after
  · have same : (network.served server machine numbers).servers link'.server =
        network.servers link'.server := Function.update_of_ne elsewhere _ _
    rw [same]
    exact lasting socket link' number name before accepts
  · have same : (network.served link.server machine numbers).servers link.server = machine :=
      Function.update_self _ _ _
    obtain ⟨server, fd, _, closed⟩ := link.hears_same
      (machine.trace.drop (network.servers link.server).trace.length) (numbers socket)
    rw [server, fd, same]
    rcases lasting socket link number name before (accepts.heard other) with past | here
    · exact .inl (past.hears _ _)
    by_cases shut : link.closed = true
    · exact .inl (.inr (.inl (closed.trans shut)))
    obtain ⟨ends, leaves⟩ := stays link before rfl (by simpa using shut)
    refine (handled.keeps wellFormed here ends leaves).symm.imp_left fun failed => ?_
    exact (Link.hears_fails failed).imp_right .inl

end

section

variable [Sha256] {outcomes : Nat → Nat → Outcome} {socket server : Nat}

/-- Serving another client keeps the logins. -/
theorem Lasting.serves {input : Input} (lasting : network.Lasting)
    (sound : ∀ server, (network.servers server).state.WellFormed)
    (step : network.Step outcomes (.serves server input) network') : network'.Lasting := by
  obtain ⟨machine, free, handled, rfl⟩ := step
  intro other link' number name after accepts
  refine lasting.served handled (sound server) after accepts (by simp) ?_
  intro link before here open_
  have apart := free other link before here open_
  refine ⟨fun same => apart ?_, fun packet same => absurd ?_ apart⟩ <;>
  · rw [same]
    rfl

/-- The end of a connection keeps the logins on the other ones. -/
theorem Lasting.ends (lasting : network.Lasting) (valid : network.Valid)
    (sound : ∀ server, (network.servers server).state.WellFormed)
    (step : network.Step outcomes (.ends socket) network') : network'.Lasting := by
  obtain ⟨own, machine, found, open_, handled, rfl⟩ := step
  intro other link' number name after accepts
  obtain ⟨_, later, _, after', ⟨rfl, rfl⟩ | ⟨different, rfl⟩⟩ := served_updateLink after
  · exact .inl (.inr (.inl rfl))
  · refine lasting.served handled (sound _) after' accepts (by simp) ?_
    intro link before here open_'
    refine ⟨fun same => different ?_, by simp⟩
    exact valid.apart other socket link own before found here open_' open_
      (Input.disconnect.inj same).symm

/-- Handling the next request of a connection keeps the logins, and begins one when a `LOGIN` is
accepted. -/
theorem Lasting.handles (lasting : network.Lasting) (valid : network.Valid)
    (sound : ∀ server, (network.servers server).state.WellFormed)
    (step : network.Step outcomes (.handles socket) network') : network'.Lasting := by
  obtain ⟨own, bytes, packet, machine, found, open_, asked, received, handled, rfl⟩ := step
  have wired {other : Packet} (same : wire other = bytes) : other = packet := by
    have whole := recvPacket_wire other []
    rw [List.append_nil, same, received, Option.some.injEq, Prod.mk.injEq] at whole
    exact whole.1.symm
  intro other link' number name after accepts
  obtain ⟨link, later, before, after', ⟨rfl, rfl⟩ | ⟨different, rfl⟩⟩ := served_updateLink after
  · cases found.symm.trans before
    obtain ⟨_, before', ⟨elsewhere, _⟩ | ⟨_, same⟩⟩ := served_links after'
    · cases found.symm.trans before'
      exact absurd rfl elsewhere
    cases found.symm.trans before'
    rw [if_pos rfl] at same
    have count : later.handled = own.handled := by rw [same, (own.hears_same _ _).2.2.1]
    obtain ⟨less, login, reply, sent, ok⟩ := accepts
    dsimp only at less sent
    rcases Nat.lt_succ_iff_lt_or_eq.mp less with old | rfl
    · -- An earlier request: the login lasts, unless this one is a logout.
      by_cases logout : packet.type = MessageType.msgLogout.code
      · obtain ⟨written, rfl, _⟩ := (valid.recorded other).packets own.handled bytes asked
        rw [← wired rfl] at logout
        exact .inl (.inr (.inr ⟨later.handled, old, Nat.lt_succ_self _, written,
          count ▸ asked, logout⟩))
      have kept := lasting.served handled (sound own.server) after'
        ⟨old, login, reply, sent, ok⟩ (by simp [← count, Nat.ne_of_gt old]) ?_
      · refine kept.imp_left (Or.imp_right (Or.imp_right ?_))
        rintro ⟨last, behind, less, rest⟩
        exact ⟨last, behind, Nat.lt_succ_of_lt less, rest⟩
      · intro link before _ _
        cases found.symm.trans before
        refine ⟨by simp, fun other same => ?_⟩
        cases same
        exact logout
    · -- The request itself: it is a login, and its reply was `MSG_OK`.
      obtain ⟨request, written, type, rfl⟩ := login
      rw [count] at written
      cases wired (Option.some.inj (written.symm.trans asked))
      rw [count, same] at sent
      have entered : machine.state.LoggedIn own.fd packet.senderName := by
        rcases Link.mem_hears sent with earlier | ⟨_, target, performed⟩
        · have answered : own.handled ∈ answers own.sent :=
            List.mem_filterMap.mpr ⟨_, earlier, if_pos (Packet.reply_of_type ok)⟩
          have before := (valid.ordered other own found).earlier own.handled answered
          exact absurd before (Nat.lt_irrefl _)
        · exact handled.enters (sound own.server) type performed ok
      have servers : ((network.served own.server machine fun socket =>
          if socket = other then some own.handled else none).updateLink other fun link =>
            { link with handled := link.handled + 1 }).servers own.server = machine :=
        Function.update_self _ _ _
      obtain ⟨server, fd, _⟩ := own.hears_same
        (machine.trace.drop (network.servers own.server).trace.length) (some own.handled)
      rw [← same] at server fd
      dsimp only
      rw [server, fd, servers]
      exact .inr entered
  · refine lasting.served handled (sound own.server) after' accepts (by simp [different]) ?_
    intro link before here open_'
    refine ⟨by simp, fun _ same => absurd ?_ different⟩
    exact valid.apart other socket link own before found here open_' open_
      (Input.packet.inj same).1.symm

/-- A connection that is accepted keeps the logins on the other ones. -/
theorem Lasting.accepts {fd : Int} (lasting : network.Lasting)
    (step : network.Step outcomes (.accepts socket server fd) network') : network'.Lasting := by
  obtain ⟨machine, handled, _, _, _, rfl⟩ := step
  obtain ⟨_, _, rfl⟩ := served_connect.mp handled
  intro other link' number name after accepts
  by_cases new : other = socket
  · subst new
    dsimp only at after
    rw [Function.update_self, Option.some.injEq] at after
    subst after
    exact absurd accepts.handled (Nat.not_lt_zero _)
  · dsimp only at after
    rw [Function.update_of_ne new] at after
    refine (lasting other link' number name after accepts).imp_right fun here => ?_
    dsimp only
    by_cases there : link'.server = server
    · subst there
      rw [Function.update_self]
      exact here
    · rwa [Function.update_of_ne there]

end

end Network

end MultiUserChat.Web
