import MultiUserChat.Client.Client
import MultiUserChat.Library.Slots
import MultiUserChat.Library.Transition
import MultiUserChat.Verif.GatewayPackets
import MultiUserChat.Verif.Stores
/-!
# Interleaved file transfers

The C client and the gateway each have room for one incoming file, and neither looks at the sender of
a chunk or of the end. Both are a `Receiver` with one slot. The transfer that is reported as received
is the one that was announced as long as no chunk or end of another transfer arrives while the slot is
in use; a foreign chunk is stored in the file of the sender that announced last.
-/

namespace MultiUserChat

/-! ## Transfers -/

/-- The packets by which a file is sent. -/
structure Transfer where
  /-- The header. -/
  header : Packet
  /-- The chunks, in order. -/
  chunks : List Packet
  /-- The end. -/
  last : Packet
  /-- The header is of type `MSG_FILE_BEGIN`. -/
  header_type : header.type = MessageType.msgFileBegin.code
  /-- The chunks are of type `MSG_FILE_CHUNK`. -/
  chunks_type : ∀ chunk ∈ chunks, chunk.type = MessageType.msgFileChunk.code
  /-- The end is of type `MSG_FILE_END`. -/
  last_type : last.type = MessageType.msgFileEnd.code

namespace Transfer

/-- The packets in the order in which they are sent. -/
def packets (transfer : Transfer) : List Packet :=
  transfer.header :: (transfer.chunks ++ [transfer.last])

/-- The bytes that are sent. -/
def content (transfer : Transfer) : List UInt8 := transfer.chunks.flatMap Packet.payload

/-- The bytes by chunks. -/
def pieces (transfer : Transfer) : List (List UInt8) := transfer.chunks.map Packet.payload

end Transfer

/-- The part of a transfer that a file packet is. -/
def Packet.part (packet : Packet) : Part UInt8 :=
  if packet.type = MessageType.msgFileBegin.code then .opening
  else if packet.type = MessageType.msgFileChunk.code then .piece packet.payload
  else .closing

/-- The parts of a transfer are those of its packets. -/
theorem Transfer.parts_eq (transfer : Transfer) :
    parts transfer.pieces = transfer.packets.map Packet.part := by
  have header : transfer.header.part = .opening := by rw [Packet.part, if_pos transfer.header_type]
  have last : transfer.last.part = .closing := by
    rw [Packet.part, transfer.last_type]
    rfl
  have chunks : transfer.chunks.map Packet.part = transfer.pieces.map .piece := by
    rw [pieces, List.map_map]
    refine List.map_congr_left fun chunk member => ?_
    rw [Packet.part, transfer.chunks_type chunk member]
    rfl
  rw [parts, packets, List.map_cons, List.map_append, List.map_singleton, header, last, chunks]

section

variable {ι : Type} [DecidableEq ι]

/-- What has arrived interleaves the transfers: the packets of each sender are a front of what it
sends. -/
def PacketsInterleaved (transfers : ι → Transfer) (arrived : List (ι × Packet)) : Prop :=
  ∀ sender, (arrived.filter fun entry => entry.1 = sender).map Prod.snd <+: (transfers sender).packets

/-- The packets that have arrived as parts. -/
def partsArrived (arrived : List (ι × Packet)) : List (ι × Part UInt8) :=
  arrived.map fun entry => (entry.1, entry.2.part)

/-- Interleaved packets are interleaved parts. -/
theorem PacketsInterleaved.parts {transfers : ι → Transfer} {arrived : List (ι × Packet)}
    (interleaved : PacketsInterleaved transfers arrived) :
    Interleaved (fun sender => (transfers sender).pieces) (partsArrived arrived) := by
  intro sender
  have own : partsOf (partsArrived arrived) sender =
      ((arrived.filter fun entry => entry.1 = sender).map Prod.snd).map Packet.part := by
    rw [partsOf, partsArrived, List.filter_map, List.map_map, List.map_map]
    rfl
  rw [own, Transfer.parts_eq]
  exact (interleaved sender).map _

/-- A packet that arrives belongs to its sender's transfer. -/
theorem PacketsInterleaved.mem {transfers : ι → Transfer} {arrived : List (ι × Packet)} {sender : ι}
    {packet : Packet} (interleaved : PacketsInterleaved transfers (arrived ++ [(sender, packet)])) :
    packet ∈ (transfers sender).packets := by
  obtain ⟨rest, whole⟩ := interleaved sender
  rw [List.filter_append, List.map_append] at whole
  rw [← whole]
  simp

/-- The header that arrives from a sender is the one of its transfer. -/
theorem PacketsInterleaved.header {transfers : ι → Transfer} {arrived : List (ι × Packet)}
    {sender : ι} {packet : Packet}
    (interleaved : PacketsInterleaved transfers (arrived ++ [(sender, packet)]))
    (begin_ : packet.type = MessageType.msgFileBegin.code) :
    packet = (transfers sender).header := by
  rcases List.mem_cons.mp interleaved.mem with same | later
  · exact same
  · rcases List.mem_append.mp later with chunk | last
    · rw [(transfers sender).chunks_type packet chunk] at begin_
      exact absurd begin_ (by decide)
    · rw [List.mem_singleton.mp last, (transfers sender).last_type] at begin_
      exact absurd begin_ (by decide)

end

/-! ## Receivers -/

/-- A receiver of file packets with one slot. -/
structure Receiver (ε σ : Type) where
  /-- It handles a packet with what the environment answers. -/
  handle : ε → σ → Packet → Option σ
  /-- What is stored for the transfer in the slot. -/
  stored : σ → Option (List UInt8)
  /-- It accepts a header. -/
  accepts : ε → Packet → Bool
  /-- The transfer in the slot was announced by a header. -/
  announced : σ → Packet → Prop
  /-- A header that is accepted opens the slot; another one frees it or leaves it as it is. -/
  opening : ∀ {answers state state' packet}, packet.type = MessageType.msgFileBegin.code →
    handle answers state packet = some state' →
      if accepts answers packet = true then stored state' = some [] ∧ announced state' packet
      else stored state' = none ∨
        stored state' = stored state ∧ ∀ header, announced state header → announced state' header
  /-- A chunk is added to the slot that is in use, or frees it. -/
  piece : ∀ {answers state state' packet}, packet.type = MessageType.msgFileChunk.code →
    handle answers state packet = some state' → stored state' = none ∨
      ∃ content, stored state = some content ∧ stored state' = some (content ++ packet.payload) ∧
        ∀ header, announced state header → announced state' header
  /-- The end frees the slot. -/
  closing : ∀ {answers state state' packet}, packet.type = MessageType.msgFileEnd.code →
    handle answers state packet = some state' → stored state' = none

/-- A receiver with what has arrived so far and the sender of the header that opened the slot. -/
structure Reception (ι σ : Type) where
  /-- The receiver's state. -/
  state : σ
  /-- The sender that opened the slot, while it is in use. -/
  owner : Option ι
  /-- The packets that have arrived, with their senders, oldest first. -/
  arrived : List (ι × Packet)

namespace Reception

variable {ι ε σ : Type}

section

variable [DecidableEq ι]

/-- What has been handled so far and the packet that arrives now interleave the transfers. -/
def MayArrive (transfers : ι → Transfer) (reception : Reception ι σ) (sender : ι)
    (packet : Packet) : Prop :=
  PacketsInterleaved transfers (reception.arrived ++ [(sender, packet)])

end

/-- The packet is a header, or the slot is free, or it comes from the sender that opened the slot. -/
def Own (receiver : Receiver ε σ) (reception : Reception ι σ) (sender : ι) (packet : Packet) : Prop :=
  packet.type = MessageType.msgFileBegin.code ∨ receiver.stored reception.state = none ∨
    reception.owner = some sender

/-- The reception after a packet was handled. -/
def after (receiver : Receiver ε σ) (reception : Reception ι σ) (sender : ι) (packet : Packet)
    (answers : ε) (state : σ) : Reception ι σ where
  state
  owner :=
    if packet.type = MessageType.msgFileBegin.code ∧ receiver.accepts answers packet = true then
      some sender
    else if receiver.stored state = none then none
    else reception.owner
  arrived := reception.arrived ++ [(sender, packet)]

section

variable [DecidableEq ι]

/-- Packets arrive and are handled. -/
def Step (transfers : ι → Transfer) (receiver : Receiver ε σ) (reception : Reception ι σ)
    (label : ι × Packet × ε) (reception' : Reception ι σ) : Prop :=
  reception.MayArrive transfers label.1 label.2.1 ∧
    ∃ state, receiver.handle label.2.2 reception.state label.2.1 = some state ∧
      reception' = reception.after receiver label.1 label.2.1 label.2.2 state

/-- Nothing has arrived and the slot is free. -/
def Initial (receiver : Receiver ε σ) (reception : Reception ι σ) : Prop :=
  receiver.stored reception.state = none ∧ reception.owner = none ∧ reception.arrived = []

end

/-- Some interleaving in which chunks and ends that find the slot in use come from the sender that
opened it. -/
def Reached [DecidableEq ι] (transfers : ι → Transfer) (receiver : Receiver ε σ)
    (reception : Reception ι σ) : Prop :=
  Reachable (Initial receiver) (fun reception label reception' =>
    reception.Own receiver label.1 label.2.1 ∧ reception.Step transfers receiver label reception')
    reception

/-- The slot of a reception. -/
def slot (receiver : Receiver ε σ) (reception : Reception ι σ) : Slot ι UInt8 :=
  reception.owner.bind fun owner => (receiver.stored reception.state).map (owner, ·)

/-- What every such interleaving keeps. -/
structure Valid [DecidableEq ι] (transfers : ι → Transfer) (receiver : Receiver ε σ)
    (reception : Reception ι σ) : Prop where
  /-- The slot gathers what its owner sends. -/
  gathers : Gathers (fun sender => (transfers sender).pieces) (partsArrived reception.arrived)
    (reception.slot receiver)
  /-- A slot that is in use has an owner. -/
  owned : receiver.stored reception.state ≠ none → reception.owner ≠ none
  /-- The transfer in the slot was announced by its owner. -/
  announced : ∀ owner, reception.owner = some owner →
    receiver.announced reception.state (transfers owner).header

variable {transfers : ι → Transfer} {receiver : Receiver ε σ} {reception : Reception ι σ}

/-- The content of a slot that is in use belongs to its owner. -/
theorem slot_eq {owner : ι} {content : List UInt8} (owned : reception.owner = some owner)
    (stored : receiver.stored reception.state = some content) :
    reception.slot receiver = some (owner, content) := by
  rw [slot, owned, stored]
  rfl

/-- A packet that finds the slot in use does not disturb it. -/
theorem Own.undisturbed {sender : ι} {packet : Packet}
    (own : reception.Own receiver sender packet) :
    Undisturbed (reception.slot receiver) sender packet.part := by
  rcases own with begin_ | free | owned
  · exact .inl (by rw [Packet.part, if_pos begin_])
  · refine .inr fun owner content used => ?_
    rw [slot, free] at used
    cases owner' : reception.owner <;> rw [owner'] at used <;> contradiction
  · refine .inr fun owner content used => ?_
    rw [slot, owned, Option.bind_some, Option.map_eq_some_iff] at used
    obtain ⟨_, _, same⟩ := used
    exact (Prod.mk.inj same).1

section

variable [DecidableEq ι]

/-- A packet that arrives is a header, a chunk or an end. -/
theorem MayArrive.type {sender : ι} {packet : Packet}
    (arrives : reception.MayArrive transfers sender packet) :
    packet.type = MessageType.msgFileBegin.code ∨ packet.type = MessageType.msgFileChunk.code ∨
      packet.type = MessageType.msgFileEnd.code := by
  rcases List.mem_cons.mp (PacketsInterleaved.mem arrives) with same | later
  · rw [same]
    exact .inl (transfers sender).header_type
  · rcases List.mem_append.mp later with chunk | last
    · exact .inr (.inl ((transfers sender).chunks_type packet chunk))
    · rw [List.mem_singleton.mp last]
      exact .inr (.inr (transfers sender).last_type)

/-- A step takes the part into the slot, and keeps the slot's owner with the header. -/
theorem Valid.takes {sender : ι} {packet : Packet} {answers : ε} {state : σ}
    (valid : reception.Valid transfers receiver)
    (arrives : reception.MayArrive transfers sender packet)
    (handled : receiver.handle answers reception.state packet = some state) :
    Takes (reception.slot receiver) sender packet.part
        ((reception.after receiver sender packet answers state).slot receiver) ∧
      (receiver.stored state ≠ none →
        (reception.after receiver sender packet answers state).owner ≠ none) ∧
      ∀ owner, (reception.after receiver sender packet answers state).owner = some owner →
        receiver.announced state (transfers owner).header := by
  -- A slot that is free afterwards leaves nothing to show.
  have freed (free : receiver.stored state = none)
      (refused : ¬(packet.type = MessageType.msgFileBegin.code ∧
        receiver.accepts answers packet = true)) :
      Takes (reception.slot receiver) sender packet.part
          ((reception.after receiver sender packet answers state).slot receiver) ∧
        (receiver.stored state ≠ none →
          (reception.after receiver sender packet answers state).owner ≠ none) ∧
        ∀ owner, (reception.after receiver sender packet answers state).owner = some owner →
          receiver.announced state (transfers owner).header := by
    have nobody : (reception.after receiver sender packet answers state).owner = none := by
      rw [after, if_neg refused, if_pos free]
    refine ⟨?_, fun used => absurd free used, fun owner owned => ?_⟩
    · have empty : (reception.after receiver sender packet answers state).slot receiver = none := by
        rw [slot, nobody]
        rfl
      rw [empty]
      exact .freed
    · rw [nobody] at owned
      contradiction
  have kept (used : receiver.stored state ≠ none)
      (refused : ¬(packet.type = MessageType.msgFileBegin.code ∧
        receiver.accepts answers packet = true)) :
      (reception.after receiver sender packet answers state).owner = reception.owner := by
    rw [after, if_neg refused, if_neg used]
  rcases arrives.type with begin_ | chunk | end_
  · have result := receiver.opening begin_ handled
    have part : packet.part = .opening := by rw [Packet.part, if_pos begin_]
    split at result
    · rename_i accepted
      have owner : (reception.after receiver sender packet answers state).owner = some sender := by
        rw [after, if_pos ⟨begin_, accepted⟩]
      rw [part, slot_eq owner result.1, owner]
      refine ⟨.opened, by simp, fun other owned => ?_⟩
      rw [← Option.some.inj owned, ← PacketsInterleaved.header arrives begin_]
      exact result.2
    · rename_i refused
      rcases result with free | ⟨same, announced⟩
      · exact freed free fun accepted => refused accepted.2
      by_cases used : receiver.stored state = none
      · exact freed used fun accepted => refused accepted.2
      have owner := kept used fun accepted => refused accepted.2
      have unchanged : (reception.after receiver sender packet answers state).slot receiver =
          reception.slot receiver := by
        rw [slot, owner, slot, ← same]
        rfl
      rw [part, unchanged, owner, same]
      exact ⟨.refused, valid.owned, fun other owned => announced _ (valid.announced other owned)⟩
  · have other : packet.type ≠ MessageType.msgFileBegin.code := by
      rw [chunk]
      decide
    have part : packet.part = .piece packet.payload := by
      rw [Packet.part, if_neg other, if_pos chunk]
    rcases receiver.piece chunk handled with free | ⟨content, stored, extended, announced⟩
    · exact freed free fun accepted => other accepted.1
    obtain ⟨owner, owned⟩ := Option.ne_none_iff_exists'.mp (valid.owned (by rw [stored]; simp))
    have same := kept (by rw [extended]; simp) fun accepted => other accepted.1
    rw [part, slot_eq (same.trans owned) extended, same]
    exact ⟨.added (slot_eq owned stored), fun _ => by rw [owned]; simp,
      fun other owned => announced _ (valid.announced other owned)⟩
  · refine freed (receiver.closing end_ handled) fun accepted => ?_
    rw [accepted.1] at end_
    exact absurd end_ (by decide)

/-- A step keeps what is kept. -/
theorem Valid.step {reception' : Reception ι σ} {label : ι × Packet × ε}
    (valid : reception.Valid transfers receiver) (own : reception.Own receiver label.1 label.2.1)
    (step : reception.Step transfers receiver label reception') :
    reception'.Valid transfers receiver := by
  obtain ⟨sender, packet, answers⟩ := label
  obtain ⟨arrives, state, handled, rfl⟩ := step
  obtain ⟨takes, owned, announced⟩ := valid.takes arrives handled
  have parts : partsArrived (reception.arrived ++ [(sender, packet)]) =
      partsArrived reception.arrived ++ [(sender, packet.part)] := by
    rw [partsArrived, List.map_append]
    rfl
  have interleaved := PacketsInterleaved.parts arrives
  rw [parts] at interleaved
  refine ⟨?_, owned, announced⟩
  change Gathers _ (partsArrived (reception.arrived ++ [(sender, packet)])) _
  rw [parts]
  exact takes.gathers valid.gathers interleaved own.undisturbed

/-- What is kept holds in every such interleaving. -/
theorem Reached.valid (reached : reception.Reached transfers receiver) :
    reception.Valid transfers receiver := by
  refine reached.invariant (Valid transfers receiver) ?_ ?_
  · rintro reception ⟨free, nobody, nothing⟩
    refine ⟨?_, fun used => absurd free used, by simp [nobody]⟩
    intro owner content used
    rw [slot, nobody] at used
    contradiction
  · exact fun _ _ _ _ valid taken => valid.step taken.1 taken.2

/-- What is stored when the end comes is what the sender that announced the file has sent. -/
theorem Reached.stored {sender : ι} {packet : Packet} {content : List UInt8}
    (reached : reception.Reached transfers receiver)
    (arrives : reception.MayArrive transfers sender packet)
    (own : reception.Own receiver sender packet)
    (end_ : packet.type = MessageType.msgFileEnd.code)
    (stored : receiver.stored reception.state = some content) : ∃ owner,
      reception.owner = some owner ∧
        receiver.announced reception.state (transfers owner).header ∧
        content = (transfers owner).content := by
  have valid := reached.valid
  obtain ⟨owner, owned⟩ := Option.ne_none_iff_exists'.mp (valid.owned (by rw [stored]; simp))
  have part : packet.part = .closing := by
    rw [Packet.part, end_]
    rfl
  have parts : partsArrived (reception.arrived ++ [(sender, packet)]) =
      partsArrived reception.arrived ++ [(sender, .closing)] := by
    rw [partsArrived, List.map_append, ← part]
    rfl
  have interleaved := PacketsInterleaved.parts arrives
  rw [parts] at interleaved
  have undisturbed := own.undisturbed
  rw [part] at undisturbed
  refine ⟨owner, owned, valid.announced owner owned, ?_⟩
  rw [gathers_closing valid.gathers interleaved undisturbed (slot_eq owned stored), Transfer.content,
    Transfer.pieces, List.flatMap]

end

end Reception

/-! ## The C client -/

namespace Client

/-- What is stored for the active transfer. -/
def IncomingFile.stored (file : IncomingFile) : Option (List UInt8) :=
  if file.active = true then file.fp else none

/-- The transfer has the names and the size of a header. -/
def IncomingFile.AnnouncedBy (file : IncomingFile) (header : Packet) : Prop :=
  file.sender = copyFixed usernameMaxLen header.senderName ∧
    file.filename =
      copyFixed fileNameMaxLen (FileBeginPayload.ofData header.data.toList).filename ∧
    file.expectedSize = (FileBeginPayload.ofData header.data.toList).filesize

/-- A header opens a transfer with its names and size, or leaves none. -/
theorem handleFileBegin_cases (outcome : Outcome) (packet : Packet) :
    (handleFileBegin outcome packet).1.active = false ∨
      (handleFileBegin outcome packet).1.active = true ∧
        (handleFileBegin outcome packet).1.fp = some [] ∧
        (handleFileBegin outcome packet).1.AnnouncedBy packet := by
  unfold handleFileBegin
  dsimp only
  split
  · exact .inl rfl
  split
  · exact .inl rfl
  split
  · exact .inl rfl
  split
  · exact .inl rfl
  · exact .inr ⟨rfl, rfl, rfl, rfl, rfl⟩

/-- A chunk is added to the active transfer, or ends it. -/
theorem handleFileChunk_cases (outcome : Outcome) (file : IncomingFile) (packet : Packet) :
    (handleFileChunk outcome file packet).1.stored = none ∨ ∃ content,
      file.stored = some content ∧
        (handleFileChunk outcome file packet).1.stored = some (content ++ packet.payload) ∧
        ∀ header, file.AnnouncedBy header →
          (handleFileChunk outcome file packet).1.AnnouncedBy header := by
  obtain ⟨active, sender, filename, expectedSize, receivedSize, fp, path, opened⟩ := file
  unfold handleFileChunk
  cases active with
  | false => exact .inl rfl
  | true =>
    cases fp with
    | none => exact .inl rfl
    | some content =>
      dsimp only
      split
      · exact .inl rfl
      · exact .inr ⟨content, rfl, rfl, fun _ => id⟩

/-- The end leaves no transfer. -/
theorem handleFileEnd_stored (file : IncomingFile) : (handleFileEnd file).1.stored = none := by
  unfold handleFileEnd
  split
  · rename_i idle
    exact if_neg (by simp [idle])
  · split <;> rfl

/-- The end reports what is stored. -/
theorem handleFileEnd_received {file : IncomingFile} {path : CString} {content : List UInt8}
    (reported : Line.received path content ∈ (handleFileEnd file).2) :
    file.stored = some content ∧ path = file.path := by
  unfold handleFileEnd at reported
  split at reported
  · simp at reported
  rename_i active
  have active : file.active = true := by simpa using active
  obtain ⟨bytes, open_⟩ := Option.isSome_iff_exists.mp (file.opened active)
  split at reported
  · rw [open_, Option.getD_some, List.mem_singleton, Line.received.injEq] at reported
    rw [IncomingFile.stored, if_pos active, open_, reported.2]
    exact ⟨rfl, reported.1⟩
  · simp at reported

/-- Only the end of a transfer reports a file. -/
theorem recvThread_received {outcome : Outcome} {file : IncomingFile} {packet : Packet}
    {path : CString} {content : List UInt8}
    (reported : Line.received path content ∈ (recvThread outcome file packet).2) :
    packet.type = MessageType.msgFileEnd.code ∧ file.stored = some content ∧ path = file.path := by
  have begin_ : Line.received path content ∉ (handleFileBegin outcome packet).2 := by
    unfold handleFileBegin
    dsimp only
    split
    · simp
    split
    · simp
    split
    · simp
    · split <;> simp
  have chunk : Line.received path content ∉ (handleFileChunk outcome file packet).2 := by
    unfold handleFileChunk
    split
    · split <;> simp
    · simp
  unfold recvThread at reported
  cases selected : MessageType.ofCode? packet.type with
  | none =>
    rw [selected] at reported
    simp at reported
  | some type =>
    have code := MessageType.code_of_ofCode? selected
    rw [selected] at reported
    cases type with
    | msgFileBegin => exact absurd reported begin_
    | msgFileChunk => exact absurd reported chunk
    | msgFileEnd => exact ⟨code.symm, handleFileEnd_received reported⟩
    | _ => simp at reported

/-- `recv_thread` as a receiver with one slot. -/
def receiver : Receiver Outcome IncomingFile where
  handle outcome file packet := some (recvThread outcome file packet).1
  stored := IncomingFile.stored
  accepts outcome packet := (handleFileBegin outcome packet).1.active
  announced := IncomingFile.AnnouncedBy
  opening := by
    intro outcome file file' packet begin_ handled
    rw [recvThread, begin_, MessageType.ofCode?_code, Option.some.injEq] at handled
    subst handled
    rcases handleFileBegin_cases outcome packet with idle | ⟨active, open_, announced⟩
    · rw [if_neg (by simp [idle])]
      exact .inl (if_neg (by simp [idle]))
    · rw [if_pos active]
      exact ⟨by rw [IncomingFile.stored, if_pos active, open_], announced⟩
  piece := by
    intro outcome file file' packet chunk handled
    rw [recvThread, chunk, MessageType.ofCode?_code, Option.some.injEq] at handled
    subst handled
    exact handleFileChunk_cases outcome file packet
  closing := by
    intro outcome file file' packet end_ handled
    rw [recvThread, end_, MessageType.ofCode?_code, Option.some.injEq] at handled
    subst handled
    exact handleFileEnd_stored file

end Client

/-! ## The gateway -/

namespace Web

/-- What is stored for the incoming file. -/
def ClientSession.stored (session : ClientSession) : Option (List UInt8) :=
  session.incomingFile.map fun file => file.chunks.flatten

/-- The incoming file has the names and the size of a header. -/
def ClientSession.AnnouncedBy (session : ClientSession) (header : Packet) : Prop :=
  ∃ file, session.incomingFile = some file ∧
    file.sender = readFixedCString header.sender.toList ∧
    decodeFileBeginPayload header.payload = .ok (file.filename, file.expectedSize)

/-- The gateway accepts a header. -/
def acceptsHeader (packet : Packet) : Bool :=
  match decodeFileBeginPayload packet.payload with
  | .ok (_, filesize) => filesize ≤ fileTransferMaxBytes
  | .error _ => false

/-- `ClientSession` as a receiver with one slot. -/
def fileReceiver : Receiver Unit ClientSession where
  handle _ session packet := session.handlePacket (packetOfFrame (wire packet))
  stored := ClientSession.stored
  accepts _ := acceptsHeader
  announced := ClientSession.AnnouncedBy
  opening := by
    intro _ session session' packet begin_ handled
    rw [packetOfFrame_eq, ClientSession.handlePacket, receivedFrom, begin_, MessageType.ofCode?_code,
      Option.some.injEq] at handled
    subst handled
    unfold ClientSession.handleIncomingFileBegin acceptsHeader
    dsimp only
    cases decoded : decodeFileBeginPayload packet.payload with
    | error message => exact .inr ⟨rfl, fun _ => id⟩
    | ok header =>
      obtain ⟨filename, filesize⟩ := header
      dsimp only
      by_cases small : filesize ≤ fileTransferMaxBytes
      · rw [if_neg (Nat.not_lt.mpr small), if_pos (decide_eq_true small)]
        exact ⟨rfl, _, rfl, rfl, decoded⟩
      · rw [if_pos (Nat.not_le.mp small), if_neg (by simpa using small)]
        exact .inr ⟨rfl, fun _ => id⟩
  piece := by
    intro _ session session' packet chunk handled
    rw [packetOfFrame_eq, ClientSession.handlePacket, receivedFrom, chunk, MessageType.ofCode?_code,
      Option.some.injEq] at handled
    subst handled
    unfold ClientSession.handleIncomingFileChunk
    dsimp only
    cases open_ : session.incomingFile with
    | none =>
      dsimp only
      exact .inl (by rw [ClientSession.stored, open_]; rfl)
    | some file =>
      refine .inr ⟨file.chunks.flatten, by rw [ClientSession.stored, open_]; rfl, ?_, ?_⟩
      · change some (file.chunks ++ [packet.payload]).flatten = _
        rw [List.flatten_append, List.flatten_singleton]
      · rintro header ⟨_, same, sender, decoded⟩
        rw [open_, Option.some.injEq] at same
        subst same
        exact ⟨_, rfl, sender, decoded⟩
  closing := by
    intro _ session session' packet end_ handled
    rw [packetOfFrame_eq, ClientSession.handlePacket, receivedFrom, end_, MessageType.ofCode?_code,
      Option.some.injEq] at handled
    subst handled
    unfold ClientSession.handleIncomingFileEnd
    cases open_ : session.incomingFile with
    | none =>
      dsimp only
      rw [ClientSession.stored, open_]
      rfl
    | some file =>
      dsimp only
      split <;> rfl

/-- What a packet adds to the notices. -/
def ClientSession.noticed (session session' : ClientSession) : List Notice :=
  session'.notices.drop session.notices.length

/-- A notice that is told is noticed. -/
theorem ClientSession.noticed_told {session session' : ClientSession} {notice : Notice}
    (told : session'.notices = session.notices ++ [notice]) :
    session.noticed session' = [notice] := by
  rw [noticed, told, List.drop_left]

/-- Only what is told is noticed. -/
theorem ClientSession.noticed_same {session session' : ClientSession}
    (same : session'.notices = session.notices) : session.noticed session' = [] := by
  rw [noticed, same, List.drop_length]

/-- A header reports no file. -/
theorem fileBegin_noticed {session : ClientSession} {packet : ReceivedPacket}
    {sender filename : Text} {data : List UInt8} :
    Notice.fileReceived sender filename data ∉
      session.noticed (session.handleIncomingFileBegin packet) := by
  unfold ClientSession.handleIncomingFileBegin
  split
  · rw [ClientSession.noticed_told rfl]
    simp
  · split <;>
    · rw [ClientSession.noticed_told rfl]
      simp

/-- A chunk reports no file. -/
theorem fileChunk_noticed {session : ClientSession} {packet : ReceivedPacket}
    {sender filename : Text} {data : List UInt8} :
    Notice.fileReceived sender filename data ∉
      session.noticed (session.handleIncomingFileChunk packet) := by
  unfold ClientSession.handleIncomingFileChunk
  split
  · rw [ClientSession.noticed_same rfl]
    simp
  · rw [ClientSession.noticed_told rfl]
    simp

/-- The end reports what is stored. -/
theorem fileEnd_noticed {session : ClientSession} {sender filename : Text} {data : List UInt8}
    (reported : Notice.fileReceived sender filename data ∈
      session.noticed session.handleIncomingFileEnd) :
    session.stored = some data ∧
      ∃ file, session.incomingFile = some file ∧ sender = file.sender ∧ filename = file.filename := by
  unfold ClientSession.handleIncomingFileEnd at reported
  split at reported
  · rw [ClientSession.noticed_same rfl] at reported
    contradiction
  rename_i file open_
  dsimp only at reported
  split at reported
  · rw [ClientSession.noticed_told rfl, List.mem_singleton] at reported
    contradiction
  · rw [ClientSession.noticed_told rfl, List.mem_singleton, Notice.fileReceived.injEq] at reported
    obtain ⟨rfl, rfl, rfl⟩ := reported
    exact ⟨by rw [ClientSession.stored, open_]; rfl, file, open_, rfl, rfl⟩

/-- Of the file packets only the end of a transfer reports a file, with what is stored. -/
theorem fileReceived_noticed {session session' : ClientSession} {packet : Packet}
    {sender filename : Text} {data : List UInt8}
    (type : packet.type = MessageType.msgFileBegin.code ∨
      packet.type = MessageType.msgFileChunk.code ∨ packet.type = MessageType.msgFileEnd.code)
    (handled : session.handlePacket (packetOfFrame (wire packet)) = some session')
    (reported : Notice.fileReceived sender filename data ∈ session.noticed session') :
    packet.type = MessageType.msgFileEnd.code ∧ session.stored = some data ∧
      ∃ file, session.incomingFile = some file ∧ sender = file.sender ∧ filename = file.filename := by
  rw [packetOfFrame_eq, ClientSession.handlePacket, receivedFrom] at handled
  rcases type with begin_ | chunk | end_
  · rw [begin_, MessageType.ofCode?_code, Option.some.injEq] at handled
    subst handled
    exact absurd reported fileBegin_noticed
  · rw [chunk, MessageType.ofCode?_code, Option.some.injEq] at handled
    subst handled
    exact absurd reported fileChunk_noticed
  · rw [end_, MessageType.ofCode?_code, Option.some.injEq] at handled
    subst handled
    exact ⟨end_, fileEnd_noticed reported⟩

end Web

/-- Interleaved transfers stay apart as long as every chunk and end that finds the slot in use comes
from the sender whose header opened it: what the C client and the gateway report as received is then
what that sender has sent, under the names and the size it announced. -/
theorem transfers_apart {ι : Type} [DecidableEq ι] (transfers : ι → Transfer) :
    (∀ (reception : Reception ι Client.IncomingFile) (sender : ι) (packet : Packet)
        (outcome : Client.Outcome) (path : CString) (content : List UInt8),
        reception.Reached transfers Client.receiver →
        reception.MayArrive transfers sender packet → reception.Own Client.receiver sender packet →
        Client.Line.received path content ∈ (Client.recvThread outcome reception.state packet).2 →
        path = reception.state.path ∧ ∃ owner, reception.owner = some owner ∧
          reception.state.AnnouncedBy (transfers owner).header ∧
          content = (transfers owner).content) ∧
      ∀ (reception : Reception ι Web.ClientSession) (sender : ι) (packet : Packet)
        (session : Web.ClientSession) (name filename : List Nat) (data : List UInt8),
        reception.Reached transfers Web.fileReceiver →
        reception.MayArrive transfers sender packet → reception.Own Web.fileReceiver sender packet →
        reception.state.handlePacket (Web.packetOfFrame (wire packet)) = some session →
        Web.Notice.fileReceived name filename data ∈ reception.state.noticed session →
        ∃ owner, reception.owner = some owner ∧
          name = Web.readFixedCString (transfers owner).header.sender.toList ∧
          (∃ filesize, Web.decodeFileBeginPayload (transfers owner).header.payload =
            .ok (filename, filesize)) ∧
          data = (transfers owner).content := by
  constructor
  · intro reception sender packet outcome path content reached arrives own reported
    obtain ⟨end_, stored, place⟩ := Client.recvThread_received reported
    exact ⟨place, reached.stored arrives own end_ stored⟩
  · intro reception sender packet session name filename data reached arrives own handled reported
    obtain ⟨end_, stored, file, open_, rfl, rfl⟩ :=
      Web.fileReceived_noticed arrives.type handled reported
    obtain ⟨owner, owned, ⟨_, same, named, decoded⟩, sent⟩ := reached.stored arrives own end_ stored
    rw [open_, Option.some.injEq] at same
    subst same
    exact ⟨owner, owned, named, ⟨_, decoded⟩, sent⟩

/-! ## Two senders -/

/-- The type of a request. -/
theorem request_type {type : MessageType} {sender receiver : CString} {data : List UInt8}
    {fits : data.length ≤ packetDataMax} :
    (request type sender receiver data fits).type = type.code :=
  (packetInit_eq (Option.some_get _).symm).1

/-- A header for two bytes. -/
@[irreducible]
def pairHeader (sender : String) : Packet :=
  request .msgFileBegin (CString.ofString sender) CString.empty
    ([0x66] ++ List.replicate 255 0 ++ [2, 0, 0, 0, 0, 0, 0, 0])
    (by
      rw [List.length_append, List.length_append, List.length_replicate]
      decide)

/-- A chunk of two bytes. -/
@[irreducible]
def pairChunk (sender : String) (byte : UInt8) : Packet :=
  request .msgFileChunk (CString.ofString sender) CString.empty [byte, byte]
    (by simp [packetDataMax])

/-- The end. -/
@[irreducible]
def pairLast (sender : String) : Packet :=
  request .msgFileEnd (CString.ofString sender) CString.empty [] (by simp [packetDataMax])

/-- A transfer of two bytes. -/
def pairTransfer (sender : String) (byte : UInt8) : Transfer where
  header := pairHeader sender
  chunks := [pairChunk sender byte]
  last := pairLast sender
  header_type := by
    unfold pairHeader
    exact request_type
  chunks_type := by
    intro chunk member
    rw [List.mem_singleton.mp member, pairChunk, request_type]
  last_type := by rw [pairLast, request_type]

/-- The packets of the transfer. -/
theorem pairTransfer_packets (sender : String) (byte : UInt8) :
    (pairTransfer sender byte).packets = [pairHeader sender, pairChunk sender byte, pairLast sender] := by
  simp only [Transfer.packets, pairTransfer, List.cons_append, List.nil_append]

/-- Everything that the C client asks for succeeds. -/
def plainOutcome : Client.Outcome := ⟨⟨.made, fun _ => true, fun _ => false⟩, true, none⟩

/-- The C client takes a packet, and everything succeeds. -/
def clientTakes {ι : Type} (reception : Reception ι Client.IncomingFile) (arrival : ι × Packet) :
    Reception ι Client.IncomingFile :=
  reception.after Client.receiver arrival.1 arrival.2 plainOutcome
    (Client.recvThread plainOutcome reception.state arrival.2).1

/-- What the C client takes is a step. -/
theorem clientTakes_step {ι : Type} [DecidableEq ι] {transfers : ι → Transfer}
    {reception : Reception ι Client.IncomingFile} {sender : ι} {packet : Packet}
    (arrives : PacketsInterleaved transfers (reception.arrived ++ [(sender, packet)])) :
    reception.Step transfers Client.receiver (sender, packet, plainOutcome)
      (clientTakes reception (sender, packet)) :=
  ⟨arrives, _, rfl, rfl⟩

/-- No transfer. -/
def noTransfer : Client.IncomingFile := { opened := Client.inactive_opened }

/-- Two transfers with different names and contents. -/
def pairTransfers : Bool → Transfer
  | true => pairTransfer "a" 1
  | false => pairTransfer "b" 2

/-- The packets of two senders are interleaved when those of each one come in order. -/
theorem pairInterleaved {packets arrived : List (Bool × Packet)} (front_of : arrived <+: packets)
    (first : (packets.filter fun entry => entry.1 = true).map Prod.snd <+:
      [pairHeader "a", pairChunk "a" 1, pairLast "a"])
    (second : (packets.filter fun entry => entry.1 = false).map Prod.snd <+:
      [pairHeader "b", pairChunk "b" 2, pairLast "b"]) : PacketsInterleaved pairTransfers arrived := by
  intro sender
  refine ((front_of.filter _).map _).trans ?_
  cases sender
  · rw [pairTransfers, pairTransfer_packets]
    exact second
  · rw [pairTransfers, pairTransfer_packets]
    exact first

/-- The second sender's header arrives before the transfer of the first. -/
theorem overtakenInterleaved (arrived : List (Bool × Packet))
    (front_of : arrived <+: [(false, pairHeader "b"), (true, pairHeader "a"), (true, pairChunk "a" 1),
      (true, pairLast "a")]) : PacketsInterleaved pairTransfers arrived :=
  pairInterleaved front_of (by simp) (by simp)

/-- The C client once all but the end of the first transfer has arrived. -/
def pairReception : Reception Bool Client.IncomingFile :=
  clientTakes (clientTakes (clientTakes ⟨noTransfer, none, []⟩ (false, pairHeader "b"))
    (true, pairHeader "a")) (true, pairChunk "a" 1)

/-- The sample run meets the condition: its one chunk comes from the sender of the last header. -/
theorem pairReception_reached : pairReception.Reached pairTransfers Client.receiver := by
  refine .next (.next (.next (.start ⟨rfl, rfl, rfl⟩)
    ⟨.inl (pairTransfer "b" 2).header_type, clientTakes_step ?_⟩)
    ⟨.inl (pairTransfer "a" 1).header_type, clientTakes_step ?_⟩)
    ⟨.inr (.inr (by decide +kernel)), clientTakes_step ?_⟩
  · exact overtakenInterleaved [(false, pairHeader "b")] (by simp)
  · exact overtakenInterleaved [(false, pairHeader "b"), (true, pairHeader "a")] (by simp)
  · exact overtakenInterleaved
      [(false, pairHeader "b"), (true, pairHeader "a"), (true, pairChunk "a" 1)] (by simp)

/-- The first transfer is reported with its content, although the second one has begun. -/
theorem transfers_apart_pair :
    ∃ owner, pairReception.owner = some owner ∧ [1, 1] = (pairTransfers owner).content := by
  obtain ⟨_, owner, owned, _, content⟩ :=
    (transfers_apart pairTransfers).1 pairReception true (pairLast "a") plainOutcome
      pairReception.state.path [1, 1] pairReception_reached (overtakenInterleaved _ List.prefix_rfl)
      (.inr (.inr (by decide +kernel))) (by decide +kernel)
  exact ⟨owner, owned, content⟩

/-- A chunk of the first sender arrives after the header of the second. -/
def foreignReception : Reception Bool Client.IncomingFile :=
  clientTakes (clientTakes (clientTakes ⟨noTransfer, none, []⟩ (false, pairHeader "b"))
    (true, pairHeader "a")) (false, pairChunk "b" 2)

/-- The packets interleave the transfers. -/
theorem foreignInterleaved (arrived : List (Bool × Packet))
    (front_of : arrived <+: [(false, pairHeader "b"), (true, pairHeader "a"),
      (false, pairChunk "b" 2), (false, pairLast "b")]) :
    PacketsInterleaved pairTransfers arrived := pairInterleaved front_of (by simp) (by simp)

/-- The foreign chunk makes the length match, and the first sender's bytes are reported as the file of
the second. -/
theorem transfers_apart_foreign :
    ¬ ∀ (transfers : Bool → Transfer) (reception : Reception Bool Client.IncomingFile)
      (sender : Bool) (packet : Packet) (outcome : Client.Outcome) (path : CString)
      (content : List UInt8),
      Reachable (Reception.Initial Client.receiver) (Reception.Step transfers Client.receiver)
        reception →
      reception.MayArrive transfers sender packet →
      Client.Line.received path content ∈ (Client.recvThread outcome reception.state packet).2 →
      ∃ owner, reception.state.AnnouncedBy (transfers owner).header ∧
        content = (transfers owner).content := by
  intro separate
  have reached : Reachable (Reception.Initial Client.receiver)
      (Reception.Step pairTransfers Client.receiver) foreignReception := by
    refine .next (.next (.next (.start ⟨rfl, rfl, rfl⟩) (clientTakes_step ?_)) (clientTakes_step ?_))
      (clientTakes_step ?_)
    · exact foreignInterleaved [(false, pairHeader "b")] (by simp)
    · exact foreignInterleaved [(false, pairHeader "b"), (true, pairHeader "a")] (by simp)
    · exact foreignInterleaved
        [(false, pairHeader "b"), (true, pairHeader "a"), (false, pairChunk "b" 2)] (by simp)
  obtain ⟨owner, ⟨announced, _⟩, sent⟩ := separate pairTransfers foreignReception false
    (pairLast "b") plainOutcome foreignReception.state.path [2, 2] reached
    (foreignInterleaved _ List.prefix_rfl) (by decide +kernel)
  cases owner
  · exact absurd announced (by decide +kernel)
  · exact absurd sent (by decide +kernel)

end MultiUserChat
