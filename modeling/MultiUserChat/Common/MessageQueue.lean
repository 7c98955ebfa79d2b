import Mathlib.Data.UInt
/-!
# The message queue

`common/message_queue.c`. The functions only copy packets, so the type of a packet is a parameter. A
`size_t` has 64 bits. The pointers to the queue and to a packet are taken to be valid; `items` may be
null. A packet is passed by its content, and `message_queue_dequeue` returns the content that the
packet has afterwards.
-/

namespace MultiUserChat

/-- `MessageQueue` -/
structure MessageQueue (α : Type) where
  /-- `items`, with the packets of the array. -/
  items : Option (List α)
  /-- `capacity` -/
  capacity : UInt64
  /-- `head` -/
  head : UInt64
  /-- `tail` -/
  tail : UInt64
  /-- `size` -/
  size : UInt64
deriving DecidableEq

variable {α : Type}

/-- `memset` of a whole queue. -/
def zeroQueue : MessageQueue α := ⟨none, 0, 0, 0, 0⟩

/-- `message_queue_init`; `calloc` succeeds or not, and fills the array with a packet of zeros. -/
def messageQueueInit (allocated : Bool) (zeros : α) (queue : MessageQueue α)
    (capacity : UInt64) : Int × MessageQueue α :=
  if capacity = 0 then (-1, queue)
  else if allocated = false then (-1, zeroQueue)
  else
    let queue : MessageQueue α := zeroQueue
    (0, { queue with items := some (List.replicate capacity.toNat zeros), capacity })

/-- `message_queue_destroy` -/
def messageQueueDestroy (_ : MessageQueue α) : MessageQueue α := zeroQueue

/-- `message_queue_enqueue` -/
def messageQueueEnqueue (queue : MessageQueue α) (packet : α) :
    Int × MessageQueue α :=
  match queue.items with
  | none => (-1, queue)
  | some items =>
    if queue.size = queue.capacity then (-1, queue)
    else
      (0,
        { queue with
          items := some (items.set queue.tail.toNat packet)
          tail := (queue.tail + 1) % queue.capacity
          size := queue.size + 1 })

/-- `message_queue_dequeue`: the result, the packet and the queue afterwards. -/
def messageQueueDequeue (queue : MessageQueue α) (packet : α) :
    Int × α × MessageQueue α :=
  match queue.items with
  | none => (-1, packet, queue)
  | some items =>
    if queue.size = 0 then (-1, packet, queue)
    else
      (0, items.getD queue.head.toNat packet,
        { queue with
          head := (queue.head + 1) % queue.capacity
          size := queue.size - 1 })

/-- `message_queue_is_empty` -/
def messageQueueIsEmpty (queue : MessageQueue α) : Bool := queue.size = 0

/-- A call that changes a queue, with what its packet contains before. -/
inductive QueueCall (α : Type)
  /-- `message_queue_enqueue` -/
  | enqueue (packet : α)
  /-- `message_queue_dequeue` -/
  | dequeue (packet : α)

/-- The result of a call and the content of its packet afterwards, and the queue. -/
def MessageQueue.call (queue : MessageQueue α) : QueueCall α →
    (Int × α) × MessageQueue α
  | .enqueue packet =>
    (((messageQueueEnqueue queue packet).1, packet), (messageQueueEnqueue queue packet).2)
  | .dequeue packet =>
    (((messageQueueDequeue queue packet).1, (messageQueueDequeue queue packet).2.1),
      (messageQueueDequeue queue packet).2.2)

end MultiUserChat
