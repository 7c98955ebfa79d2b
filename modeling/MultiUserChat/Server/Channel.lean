import Mathlib.Logic.Function.Basic
import MultiUserChat.Common.Protocol
/-!
# Concurrent senders of one descriptor

`send_packet` is two loops of `send` calls, one for the header and one for the payload. Here any
number of threads run it on the same descriptor. A step is one `send` of one thread, which appends a
non-empty part of what it was given to the stream; nothing in the code orders the calls of different
threads. `recvPackets` is the peer, which calls `recv_packet` repeatedly.
-/

namespace MultiUserChat

/-- A thread that sends packets to the descriptor. -/
structure Sender where
  /-- What is left of the buffers of the packet being sent. -/
  buffers : List (List UInt8)
  /-- Packets still to be sent. -/
  packets : List Packet
deriving DecidableEq

/-- A sender that has not begun. -/
def Sender.ready (packets : List Packet) : Sender := ⟨[], packets⟩

/-- One `send` call of `send_all` on the first of the remaining buffers; the number of bytes that
are accepted is at least one. -/
def sendSome (count : Nat) : List (List UInt8) → Option (List UInt8 × List (List UInt8))
  | [] => none
  | buffer :: later =>
    if 0 < count ∧ count ≤ buffer.length then
      some (buffer.take count, if count = buffer.length then later else buffer.drop count :: later)
    else none

/-- The descriptor's stream with the threads that send to it. -/
structure Channel (ι : Type) where
  /-- Bytes appended so far. -/
  stream : List UInt8
  /-- The threads. -/
  senders : ι → Sender
  /-- Packets begun so far, with the thread that sends each. -/
  begun : List (ι × Packet)

namespace Channel

variable {ι : Type} [DecidableEq ι]

/-- A thread begins its next packet when it has finished the one before. -/
def next (sender : Sender) : Option (Option Packet × List (List UInt8) × List Packet) :=
  match sender.buffers, sender.packets with
  | [], [] => none
  | [], packet :: rest => some (some packet, sendBuffers packet, rest)
  | buffers, packets => some (none, buffers, packets)

/-- One `send` call of a thread. -/
def step (channel : Channel ι) (thread : ι) (count : Nat) : Option (Channel ι) := do
  let (started, buffers, packets) ← next (channel.senders thread)
  let (bytes, left) ← sendSome count buffers
  return {
    stream := channel.stream ++ bytes
    senders := Function.update channel.senders thread ⟨left, packets⟩
    begun := channel.begun ++ (started.map (thread, ·)).toList }

/-- The channel before any thread has sent anything. -/
def opened (work : ι → List Packet) : Channel ι := ⟨[], fun thread => .ready (work thread), []⟩

/-- No thread is part-way through a packet. -/
def Idle (channel : Channel ι) : Prop := ∀ thread, (channel.senders thread).buffers = []

/-- The packets begun so far, in the order in which they were begun. -/
def packets (channel : Channel ι) : List Packet := channel.begun.map Prod.snd

/-- The packets a thread has begun, in order. -/
def begunBy (channel : Channel ι) (thread : ι) : List Packet :=
  (channel.begun.filter fun entry => entry.1 = thread).map Prod.snd

/-- Perform `send` calls of the given threads with the given counts. -/
def run (channel : Channel ι) (schedule : List (ι × Nat)) : Option (Channel ι) :=
  schedule.foldlM (fun channel entry => channel.step entry.1 entry.2) channel

end Channel

/-- Successive calls of `recv_packet`, with the bytes left after the last. -/
def recvPackets : Nat → List UInt8 → Option (List Packet × List UInt8)
  | 0, stream => some ([], stream)
  | calls + 1, stream => do
    let (packet, rest) ← recvPacket stream
    let (packets, rest) ← recvPackets calls rest
    return (packet :: packets, rest)

end MultiUserChat
