import MultiUserChat.Common.MessageQueue
import MultiUserChat.Common.Protocol
import MultiUserChat.Library.Ring
/-!
# The message queue is a bounded list

A queue that `message_queue_init` has made is a ring in the sense of `Library.Ring`, with indices of 64
bits that never overflow because the capacity is one of them. So its calls answer as those on a list
that holds at most as many packets.
-/

namespace MultiUserChat

variable {α : Type}

/-- The operation that a call is. -/
def QueueCall.op : QueueCall α → QueueOp α
  | .enqueue packet => .insert packet
  | .dequeue _ => .remove

/-- The result that reports an answer, and the packet afterwards. -/
def QueueCall.result : QueueCall α → QueueAnswer α → Int × α
  | .enqueue packet, .inserted => (0, packet)
  | .enqueue packet, _ => (-1, packet)
  | .dequeue _, .removed packet => (0, packet)
  | .dequeue packet, _ => (-1, packet)

/-- A call on a list of packets with room for `capacity` of them. -/
def listCall (capacity : Nat) (held : List α) (call : QueueCall α) : (Int × α) × List α :=
  (call.result (queueStep capacity held call.op).1, (queueStep capacity held call.op).2)

/-- The packet that was put into the queue, by the result of the call. -/
def QueueCall.accepted : QueueCall α → Int × α → Option α
  | .enqueue packet, result => if result.1 = 0 then some packet else none
  | .dequeue _, _ => none

/-- The packet that was taken out, by the result of the call. -/
def QueueCall.dequeued : QueueCall α → Int × α → Option α
  | .enqueue _, _ => none
  | .dequeue _, result => if result.1 = 0 then some result.2 else none

/-- A call on the list takes the first packet or adds one behind the others. -/
theorem listCall_conserves (capacity : Nat) (held : List α) (call : QueueCall α) :
    held ++ (call.accepted (listCall capacity held call).1).toList =
      (call.dequeued (listCall capacity held call).1).toList ++ (listCall capacity held call).2 := by
  cases call with
  | enqueue packet =>
    by_cases full : held.length = capacity
    · simp [listCall, QueueCall.op, queueStep, full, QueueCall.result, QueueCall.accepted,
        QueueCall.dequeued]
    · simp [listCall, QueueCall.op, queueStep, full, QueueCall.result, QueueCall.accepted,
        QueueCall.dequeued]
  | dequeue packet =>
    cases held with
    | nil => rfl
    | cons first rest => exact List.append_nil _

/-! ## The ring of a queue -/

/-- The fields are those of a ring. -/
structure MessageQueue.Represents (queue : MessageQueue α) (ring : Ring α) : Prop where
  /-- The array has the slots. -/
  items : queue.items = some ring.slots
  /-- The capacity is their number. -/
  capacity : queue.capacity.toNat = ring.slots.length
  /-- The heads are equal. -/
  head : queue.head.toNat = ring.head
  /-- The tails are equal. -/
  tail : queue.tail.toNat = ring.tail
  /-- The sizes are equal. -/
  size : queue.size.toNat = ring.size

/-- An index moves to the next slot without an overflow. -/
theorem next_toNat {index capacity : UInt64} (inside : index.toNat < capacity.toNat) :
    ((index + 1) % capacity).toNat = (index.toNat + 1) % capacity.toNat := by
  have bound := capacity.toNat_lt
  rw [UInt64.toNat_mod, UInt64.toNat_add]
  congr 1
  exact Nat.mod_eq_of_lt (by rw [UInt64.toNat_one]; omega)

namespace MessageQueue.Represents

variable {queue : MessageQueue α} {ring : Ring α}

/-- The queue is full exactly when the ring is. -/
theorem full_iff (represents : queue.Represents ring) :
    queue.size = queue.capacity ↔ ¬ ring.size < ring.slots.length := by
  have bound := ring.size_le
  rw [← UInt64.toNat_inj, represents.size, represents.capacity]
  omega

/-- The queue is empty exactly when the ring is. -/
theorem empty_iff (represents : queue.Represents ring) : queue.size = 0 ↔ ring.size = 0 := by
  rw [← UInt64.toNat_inj, represents.size, UInt64.toNat_zero]

/-- Enqueuing is inserting. -/
theorem enqueue (represents : queue.Represents ring) (packet : α)
    (room : ring.size < ring.slots.length) :
    (messageQueueEnqueue queue packet).1 = 0 ∧
      (messageQueueEnqueue queue packet).2.Represents (ring.insert packet room) := by
  have inside := ring.tail_lt
  have bound := queue.capacity.toNat_lt
  rw [← represents.tail, ← represents.capacity] at inside
  rw [messageQueueEnqueue, represents.items]
  dsimp only
  rw [if_neg fun full => represents.full_iff.mp full room]
  refine ⟨rfl, ?_, ?_, represents.head, ?_, ?_⟩
  · rw [represents.tail]
    rfl
  · rw [represents.capacity]
    exact List.length_set.symm
  · rw [next_toNat inside, represents.tail, represents.capacity, Ring.tail_insert]
  · have sizes := represents.size
    have capacity := represents.capacity
    rw [UInt64.toNat_add, UInt64.toNat_one, sizes, Nat.mod_eq_of_lt (by omega)]
    rfl

/-- Dequeuing is removing. -/
theorem dequeue (represents : queue.Represents ring) (packet : α) (some_ : ring.size ≠ 0) :
    (messageQueueDequeue queue packet).1 = 0 ∧
      (messageQueueDequeue queue packet).2.1 = ring.front ∧
      (messageQueueDequeue queue packet).2.2.Represents ring.remove := by
  have inside := ring.head_lt
  rw [← represents.head, ← represents.capacity] at inside
  rw [messageQueueDequeue, represents.items]
  dsimp only
  rw [if_neg fun empty => some_ (represents.empty_iff.mp empty)]
  refine ⟨rfl, ?_, rfl, represents.capacity, ?_, ?_, ?_⟩
  · rw [represents.head, List.getD_eq_getElem?_getD, List.getElem?_eq_getElem ring.head_lt]
    rfl
  · rw [next_toNat inside, represents.head, represents.capacity]
    rfl
  · rw [represents.tail, Ring.tail_remove some_]
  · have one : (1 : UInt64) ≤ queue.size := by
      rw [UInt64.le_iff_toNat_le, represents.size, UInt64.toNat_one]
      omega
    rw [UInt64.toNat_sub_of_le _ _ one, represents.size, UInt64.toNat_one]
    rfl

/-- A call on the queue is the operation on the ring. -/
theorem call (represents : queue.Represents ring) (call : QueueCall α) :
    (queue.call call).1 = call.result (ring.step call.op).1 ∧
      (queue.call call).2.Represents (ring.step call.op).2 := by
  cases call with
  | enqueue packet =>
    rw [MessageQueue.call, QueueCall.op, Ring.step]
    by_cases room : ring.size < ring.slots.length
    · obtain ⟨accepted, after⟩ := represents.enqueue packet room
      rw [dif_pos room, accepted]
      exact ⟨rfl, after⟩
    · rw [dif_neg room, messageQueueEnqueue, represents.items]
      dsimp only
      rw [if_pos (represents.full_iff.mpr room)]
      exact ⟨rfl, represents⟩
  | dequeue packet =>
    rw [MessageQueue.call, QueueCall.op, Ring.step]
    by_cases none_ : ring.size = 0
    · rw [if_pos none_, messageQueueDequeue, represents.items]
      dsimp only
      rw [if_pos (represents.empty_iff.mpr none_)]
      exact ⟨rfl, represents⟩
    · obtain ⟨taken, first, after⟩ := represents.dequeue packet none_
      rw [if_neg none_, taken, first]
      exact ⟨rfl, after⟩

end MessageQueue.Represents

/-- A call that is refused leaves the queue as it is. -/
theorem MessageQueue.call_refused {queue : MessageQueue α} {call : QueueCall α}
    (refused : (queue.call call).1.1 ≠ 0) : (queue.call call).2 = queue := by
  cases call with
  | enqueue packet =>
    rw [MessageQueue.call, messageQueueEnqueue] at refused ⊢
    split at refused
    · rfl
    split at refused
    · rename_i full
      dsimp only
      rw [if_pos full]
    · contradiction
  | dequeue packet =>
    rw [MessageQueue.call, messageQueueDequeue] at refused ⊢
    split at refused
    · rfl
    split at refused
    · rename_i empty
      dsimp only
      rw [if_pos empty]
    · contradiction

/-- A queue that was destroyed refuses every call. -/
theorem messageQueueDestroy_call (queue : MessageQueue α) (call : QueueCall α) :
    ((messageQueueDestroy queue).call call).1.1 = -1 ∧
      ((messageQueueDestroy queue).call call).2 = zeroQueue := by
  cases call with
  | enqueue packet => exact ⟨rfl, rfl⟩
  | dequeue packet => exact ⟨rfl, rfl⟩

/-! ## Runs -/

/-- A queue of some capacity, as a list of the packets that it holds. -/
structure MessageQueue.Holds (queue : MessageQueue α) (capacity : Nat) (held : List α) : Prop where
  /-- There are no more packets than the capacity. -/
  bounded : held.length ≤ capacity
  /-- The size is their number. -/
  size : queue.size.toNat = held.length
  /-- The queue says whether there are any. -/
  empty : messageQueueIsEmpty queue = true ↔ held = []
  /-- The head is an index of the array. -/
  head_lt : queue.head.toNat < capacity
  /-- The tail is an index of the array. -/
  tail_lt : queue.tail.toNat < capacity
  /-- The tail is as many places behind the head as there are packets. -/
  tail_eq : queue.tail.toNat = (queue.head.toNat + queue.size.toNat) % capacity
  /-- A call that is refused changes nothing. -/
  refused : ∀ call, (queue.call call).1.1 ≠ 0 → (queue.call call).2 = queue

/-- What some calls on a queue answer and leave is what they answer on a list and leave of it. -/
structure BoundedFifo (capacity : Nat) (made : MessageQueue α) (calls : List (QueueCall α)) :
    Prop where
  /-- The results are those of the list, and so are the packets of the calls afterwards. -/
  results : (answers MessageQueue.call made calls).1 = (answers (listCall capacity) [] calls).1
  /-- The packets that were accepted are those that were dequeued, in order, and those that the list
  still holds. -/
  order : (List.zipWith QueueCall.accepted calls (answers MessageQueue.call made calls).1).reduceOption =
    (List.zipWith QueueCall.dequeued calls (answers MessageQueue.call made calls).1).reduceOption ++
      (answers (listCall capacity) [] calls).2
  /-- The queue that is left holds what the list holds. -/
  left_ : (answers MessageQueue.call made calls).2.Holds capacity (answers (listCall capacity) [] calls).2

/-- The queue stands for a list when a ring with its entries does. -/
theorem MessageQueue.Represents.holds {queue : MessageQueue α} {ring : Ring α}
    (represents : queue.Represents ring) : queue.Holds ring.slots.length ring.held where
  bounded := by
    rw [ring.held_length]
    exact ring.size_le
  size := by rw [ring.held_length, represents.size]
  empty := by
    rw [messageQueueIsEmpty, decide_eq_true_iff, represents.empty_iff, ← ring.held_length,
      List.length_eq_zero_iff]
  head_lt := by
    rw [represents.head]
    exact ring.head_lt
  tail_lt := by
    rw [represents.tail]
    exact ring.tail_lt
  tail_eq := by rw [represents.tail, represents.head, represents.size, Ring.tail]
  refused _ := MessageQueue.call_refused

/-- The ring of a queue of some capacity has the entries of a list. -/
def Stands (capacity : Nat) (queue : MessageQueue α) (held : List α) : Prop :=
  ∃ ring : Ring α, queue.Represents ring ∧ ring.slots.length = capacity ∧ ring.held = held

/-- The ring of a new queue. -/
def newRing (capacity : Nat) (zeros : α) (positive : 0 < capacity) : Ring α where
  slots := List.replicate capacity zeros
  head := 0
  size := 0
  head_lt := by
    rw [List.length_replicate]
    exact positive
  size_le := Nat.zero_le _

/-- A queue that is made stands for the empty list. -/
theorem messageQueueInit_stands {capacity : UInt64} (positive : capacity ≠ 0) (zeros : α)
    (queue : MessageQueue α) : (messageQueueInit true zeros queue capacity).1 = 0 ∧
      Stands capacity.toNat (messageQueueInit true zeros queue capacity).2 [] := by
  have above : 0 < capacity.toNat := by
    rw [Nat.pos_iff_ne_zero]
    exact fun zero => positive (UInt64.toNat_inj.mp zero)
  have length : (newRing capacity.toNat zeros above).slots.length = capacity.toNat :=
    List.length_replicate
  rw [messageQueueInit, if_neg positive, if_neg (by decide)]
  exact ⟨rfl, newRing capacity.toNat zeros above, ⟨rfl, length.symm, rfl, (Nat.zero_mod _).symm, rfl⟩,
    length, rfl⟩

/-- A call on a queue answers as the call on the list, and it stands for the list again. -/
theorem Stands.call {capacity : Nat} {queue : MessageQueue α} {held : List α}
    (stands : Stands capacity queue held) (call : QueueCall α) :
    (queue.call call).1 = (listCall capacity held call).1 ∧
      Stands capacity (queue.call call).2 (listCall capacity held call).2 := by
  obtain ⟨ring, represents, rfl, rfl⟩ := stands
  obtain ⟨result, after⟩ := represents.call call
  obtain ⟨answer, entries, length⟩ := ring.step_held call.op
  rw [result, answer]
  exact ⟨rfl, _, after, length, entries⟩

/-- The calls on a queue that was made with a capacity of at least one answer as those on a list with
room for as many packets, and leave the queue as the list. -/
theorem messageQueue_fifo {capacity : UInt64} (positive : capacity ≠ 0) (zeros : α)
    (queue : MessageQueue α) (calls : List (QueueCall α)) :
    (messageQueueInit true zeros queue capacity).1 = 0 ∧
      BoundedFifo capacity.toNat (messageQueueInit true zeros queue capacity).2 calls := by
  obtain ⟨made, stands⟩ := messageQueueInit_stands positive zeros queue
  obtain ⟨results, ring, represents, length, held⟩ :=
    answers_simulates (fun _ _ call stands => Stands.call stands call) stands calls
  refine ⟨made, results, ?_, ?_⟩
  · rw [results]
    exact answers_conserves (listCall_conserves capacity.toNat) [] calls
  · have holds := represents.holds
    rwa [length, held] at holds

/-- A packet of zeros. -/
def zeroPacket : Packet :=
  (packetInit 0 CString.empty CString.empty []).get (packetInit_isSome.mpr (Nat.zero_le _))

/-- A packet with one byte of data. -/
def bytePacket (byte : UInt8) : Packet :=
  (packetInit MessageType.msgGroup.code (CString.ofString "a") CString.empty [byte]).get
    (packetInit_isSome.mpr (show 1 ≤ 1024 by decide))

/-- Calls that find a queue of two full, go round its end and find it empty. -/
def roundCalls : List (QueueCall Packet) :=
  [.enqueue (bytePacket 1), .enqueue (bytePacket 2), .enqueue (bytePacket 3), .dequeue zeroPacket,
    .enqueue (bytePacket 4), .dequeue zeroPacket, .dequeue zeroPacket, .dequeue zeroPacket]

/-- A queue of two packets refuses a third and gives back those that it took. -/
theorem messageQueue_fifo_round :
    (messageQueueInit true zeroPacket zeroQueue 2).1 = 0 ∧
      BoundedFifo 2 (messageQueueInit true zeroPacket zeroQueue 2).2 roundCalls ∧
      (answers MessageQueue.call (messageQueueInit true zeroPacket zeroQueue 2).2 roundCalls).1 =
        [(0, bytePacket 1), (0, bytePacket 2), (-1, bytePacket 3), (0, bytePacket 1),
          (0, bytePacket 4), (0, bytePacket 2), (0, bytePacket 4), (-1, zeroPacket)] := by
  obtain ⟨made, fifo⟩ :=
    messageQueue_fifo (show (2 : UInt64) ≠ 0 by decide) zeroPacket zeroQueue roundCalls
  exact ⟨made, fifo, by decide +kernel⟩

end MultiUserChat
