import MultiUserChat.Library.Replies
import MultiUserChat.Server.Run
import MultiUserChat.Verif.Answers
import MultiUserChat.Verif.Connections
/-!
# A session with its chat servers

The gateway, any number of chat servers, and the connections between them. A server accepts a
connection for a socket, handles the packets written on it one after the other, serves other clients
in between, and may find the connection at its end. What it sends on the connection arrives at the
gateway in the same order, cut in any way. Each packet that is sent carries the number of the request
that is being handled, and each request the entry that was queued with it; no definition of the
gateway or the server looks at either.
-/

namespace MultiUserChat.Web

/-- The connection of a socket, as its server has it. -/
structure Link where
  /-- The server. -/
  server : Nat
  /-- The descriptor. -/
  fd : Int
  /-- Number of the packets on it that have been handled. -/
  handled : Nat := 0
  /-- What was sent on it, oldest first, with the number of the packet on it that was being handled,
  if it was one. -/
  sent : List (Packet × Option Nat) := []
  /-- A send on it has failed. -/
  broken : Bool := false
  /-- Its descriptor is closed. -/
  closed : Bool := false

namespace Link

/-- The bytes that were sent. -/
def stream (link : Link) : List UInt8 := link.sent.flatMap fun entry => wire entry.1

/-- The packet of a send on the connection, with whether it succeeded. -/
def sending (fd : Int) : Event Operation Answer → Option (Packet × Bool)
  | ⟨.send target packet _, delivered⟩ => if target = fd then some (packet, delivered) else none
  | _ => none

/-- The connection after some operations of its server; nothing arrives behind a failed send. -/
def hears (link : Link) (events : List (Event Operation Answer)) (number : Option Nat) : Link :=
  if link.broken = true ∨ link.closed = true then link
  else
    let sends := events.filterMap (sending link.fd)
    { link with
      sent := link.sent ++ (sends.takeWhile Prod.snd).map fun send => (send.1, number)
      broken := sends.any fun send => !send.2 }

end Link

/-- The requests that some packets answer: those of type `MSG_OK` or `MSG_ERROR` count. -/
def answers (sent : List (Packet × Option Nat)) : List Nat :=
  sent.filterMap fun entry => if entry.1.reply = true then entry.2 else none

/-- Number of packets that the bytes complete. -/
def completed (chunks : List (List UInt8)) : Nat :=
  (packetFraming.decode chunks.flatten).frames.length

/-- A session with its chat servers. -/
structure Network where
  /-- The gateway. -/
  gateway : Gateway := {}
  /-- The chunks that each socket has delivered, oldest first. -/
  fed : Nat → List (List UInt8) := fun _ => []
  /-- For each socket the entries that were queued with the packets written on it. -/
  asked : Nat → List (Option Pending) := fun _ => []
  /-- The servers. -/
  servers : Nat → ServerMachine
  /-- The connections that have been accepted, by their sockets. -/
  links : Nat → Option Link := fun _ => none

/-- The entry that a step of the session has queued. -/
def queuedBy (session session' : ClientSession) : Option Pending :=
  (session'.pendingResponses.drop session.pendingResponses.length).head?

/-- What can happen. -/
inductive Occurrence
  /-- Something happens to the session. -/
  | gateway (happening : Happening)
  /-- A server accepts the connection of a socket. -/
  | accepts (socket server : Nat) (fd : Int)
  /-- The server of a connection handles the next packet on it. -/
  | handles (socket : Nat)
  /-- `recv_packet` fails on a connection. -/
  | ends (socket : Nat)
  /-- A server serves another client. -/
  | serves (server : Nat) (input : Input)

/-- The descriptor of an input. -/
def inputFd : Input → Int
  | .connect fd => fd
  | .packet fd _ => fd
  | .disconnect fd => fd

namespace Network

/-- Bytes arrive from the connection of their socket, in order. -/
def Delivers (network : Network) : Happening → Prop
  | .data socket chunk => ∃ link, network.links socket = some link ∧
      (network.fed socket ++ [chunk]).flatten <+: link.stream
  | _ => True

/-- The descriptor of the server belongs to none of the session's connections. -/
def Free (network : Network) (server : Nat) (fd : Int) : Prop :=
  ∀ socket link, network.links socket = some link → link.server = server → link.closed = false →
    link.fd ≠ fd

/-- The network after a step of the gateway. -/
def observe (network : Network) (happening : Happening) (gateway : Gateway) : Network where
  gateway
  fed := happening.record network.fed
  asked socket := network.asked socket ++
    List.replicate ((gateway.session.sockets socket).written.length -
      (network.gateway.session.sockets socket).written.length)
      (queuedBy network.gateway.session gateway.session)
  servers := network.servers
  links := network.links

/-- The network after a server has handled an input; `numbers` is the number of the packet that was
handled, for the connection that it came from. -/
def served (network : Network) (server : Nat) (machine : ServerMachine)
    (numbers : Nat → Option Nat) : Network :=
  { network with
    servers := Function.update network.servers server machine
    links := fun socket => (network.links socket).map fun link =>
      if link.server = server then
        link.hears (machine.trace.drop (network.servers server).trace.length) (numbers socket)
      else link }

/-- Change one connection. -/
def updateLink (network : Network) (socket : Nat) (change : Link → Link) : Network :=
  { network with
    links := Function.update network.links socket ((network.links socket).map change) }

variable [Sha256] (outcomes : Nat → Nat → Outcome)

/-- One step. -/
def Step (network : Network) : Occurrence → Network → Prop
  | .gateway happening, network' => ∃ gateway, network.gateway.step happening = some gateway ∧
      network.Delivers happening ∧ network' = network.observe happening gateway
  | .accepts socket server fd, network' => ∃ machine,
      Served (outcomes server) (network.servers server) (.connect fd) machine ∧
        socket < network.gateway.session.created ∧ network.links socket = none ∧
        network.Free server fd ∧
        network' =
          { network with
            servers := Function.update network.servers server machine
            links := Function.update network.links socket (some { server, fd }) }
  | .handles socket, network' => ∃ link bytes packet machine,
      network.links socket = some link ∧ link.closed = false ∧
        (network.gateway.session.sockets socket).written[link.handled]? = some bytes ∧
        recvPacket bytes = some (packet, []) ∧
        Served (outcomes link.server) (network.servers link.server) (.packet link.fd packet) machine ∧
        network' = (network.served link.server machine fun other =>
            if other = socket then some link.handled else none).updateLink socket
          fun link => { link with handled := link.handled + 1 }
  | .ends socket, network' => ∃ link machine,
      network.links socket = some link ∧ link.closed = false ∧
        Served (outcomes link.server) (network.servers link.server) (.disconnect link.fd) machine ∧
        network' = (network.served link.server machine fun _ => none).updateLink socket
          fun link => { link with closed := true }
  | .serves server input, network' => ∃ machine,
      network.Free server (inputFd input) ∧
        Served (outcomes server) (network.servers server) input machine ∧
        network' = network.served server machine fun _ => none

/-- A session that has just begun, and servers that have been running. -/
def Initial (network : Network) : Prop :=
  (∀ server, ServerReachable (outcomes server) (network.servers server)) ∧
    network = { servers := network.servers }

end Network

end MultiUserChat.Web
