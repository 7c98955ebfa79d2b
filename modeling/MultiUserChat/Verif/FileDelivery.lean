import MultiUserChat.Client.SendFile
import MultiUserChat.Verif.GatewayActions
import MultiUserChat.Verif.SameFiles
import MultiUserChat.Web.Page
/-!
# Files from end to end

The C client and the page behind the gateway send a file as a header, chunks that add up to its
content, and an end (`WholeFile`). Both receivers report such a transfer with its content when no other
file packet comes in between, whatever else arrives and whatever transfer was active before.
-/

namespace MultiUserChat

/-- The packets send a file of this content: a header with its size, chunks that add up to it, and an
end, all from one named sender. -/
structure WholeFile (content : List UInt8) (packets : List Packet) : Prop where
  /-- The header, the chunks and the end. -/
  parts : ∃ (header : Packet) (chunks : List Packet) (last : Packet),
    packets = header :: (chunks ++ [last]) ∧ header.type = MessageType.msgFileBegin.code ∧
      (∀ chunk ∈ chunks, chunk.type = MessageType.msgFileChunk.code) ∧
      last.type = MessageType.msgFileEnd.code ∧ header.length = fileNameMaxLen + 8 ∧
      fromBigEndian (header.payload.drop fileNameMaxLen).reverse = content.length ∧
      chunks.flatMap Packet.payload = content
  /-- The sender has a name. -/
  named : ∀ packet ∈ packets, 0 < packet.senderName.length
  /-- The header names a file. -/
  names : ∀ packet ∈ packets, packet.NamesFile

/-! ## Receiving -/

instance : DecidablePred Packet.OfFile := fun packet =>
  inferInstanceAs (Decidable (packet.type = MessageType.msgFileBegin.code ∨
    packet.type = MessageType.msgFileChunk.code ∨ packet.type = MessageType.msgFileEnd.code))

/-- Other packets are no items. -/
theorem fileItem_eq_none {packet : Packet} (other : ¬ packet.OfFile) : Web.fileItem packet = none := by
  unfold Web.fileItem
  cases selected : MessageType.ofCode? packet.type with
  | none => rfl
  | some type =>
    have code := MessageType.code_of_ofCode? selected
    cases type with
    | msgFileBegin => exact absurd (.inl code.symm) other
    | msgFileChunk => exact absurd (.inr (.inl code.symm)) other
    | msgFileEnd => exact absurd (.inr (.inr code.symm)) other
    | _ => rfl

/-- Only file packets are items. -/
theorem fileItems_filter (packets : List Packet) :
    Web.fileItems (packets.filter Packet.OfFile) = Web.fileItems packets := by
  rw [Web.fileItems, Web.fileItems, List.filterMap_filter]
  refine List.filterMap_congr fun packet _ => ?_
  split
  · rfl
  · rename_i other
    exact (fileItem_eq_none (by simpa using other)).symm

/-- The items of a whole file. -/
theorem WholeFile.items {content : List UInt8} {packets : List Packet}
    (whole : WholeFile content packets) (small : content.length ≤ fileTransferMaxBytes) :
    ∃ origin, ∃ pieces : List (List UInt8), pieces.flatten = content ∧
      Web.fileItems packets =
        .opening origin content.length :: (pieces.map .piece ++ [.closing]) := by
  obtain ⟨header, chunks, last, rfl, begin_, types, end_, framed, size, sum⟩ := whole.parts
  refine ⟨Web.readFixedCString header.sender.toList, chunks.map Packet.payload, sum, ?_⟩
  have opening : Web.fileItem header =
      some (.opening (Web.readFixedCString header.sender.toList) content.length) := by
    rw [Web.fileItem, begin_, MessageType.ofCode?_code]
    dsimp only
    rw [Web.decodeFileBeginPayload, if_neg (not_not_intro (header.payload_length.trans framed)), size]
    dsimp only
    rw [if_neg (Nat.not_lt.mpr small)]
  have closing : Web.fileItem last = some .closing := by
    rw [Web.fileItem, end_, MessageType.ofCode?_code]
  have middle : chunks.filterMap Web.fileItem = (chunks.map Packet.payload).map .piece := by
    rw [List.map_map, ← List.filterMap_eq_map]
    refine List.filterMap_congr fun chunk member => ?_
    rw [Web.fileItem, types chunk member, MessageType.ofCode?_code]
    rfl
  rw [Web.fileItems, List.filterMap_cons_some opening, List.filterMap_append, middle,
    List.filterMap_cons_some closing, List.filterMap_nil]

/-- A whole file is delivered: every packet is within the limit, and each receiver reports the content
when its file packets are those of the file and its file operations succeed. -/
def Delivered (content : List UInt8) (packets : List Packet) : Prop :=
  (∀ packet ∈ packets, packet.length ≤ packetDataMax) ∧
    (∀ earlier arrivals : List (Packet × Client.Outcome),
      (arrivals.map Prod.fst).filter Packet.OfFile = packets →
      (∀ arrival ∈ arrivals, arrival.1.OfFile → arrival.2.Succeeds arrival.1) →
      (Client.receivedFiles (Client.recvThreadLoop noTransfer earlier).1 arrivals).map Prod.snd =
        [content]) ∧
    ∀ (session : Web.ClientSession) (arrivals : List Packet),
      arrivals.filter Packet.OfFile = packets →
      (∀ packet ∈ arrivals, Web.GroupWellFormed (Web.packetOfFrame (wire packet))) →
      ∃ session', (session.handlePackets (arrivals.map fun packet =>
          Web.packetOfFrame (wire packet))).2 = some session' ∧
        (session.noticedFiles session').map Prod.snd = [content]

/-- Whole files are delivered. -/
theorem WholeFile.delivered {content : List UInt8} {packets : List Packet}
    (whole : WholeFile content packets) (small : content.length ≤ fileTransferMaxBytes) :
    Delivered content packets := by
  obtain ⟨origin, pieces, rfl, items⟩ := whole.items small
  refine ⟨fun packet _ => packet.length_le, fun earlier arrivals sent succeeds => ?_,
    fun session arrivals sent formed => ?_⟩
  · have counted := (Client.recvThreadLoop_run Client.counted_noTransfer earlier).2.2
    have reported := (Client.recvThreadLoop_run counted arrivals).2.1
    have storable : ∀ arrival ∈ arrivals, arrival.1.OfFile → Client.Storable arrival.2 arrival.1 := by
      intro arrival member file
      have listed : arrival.1 ∈ packets := by
        rw [← sent]
        exact List.mem_filter.mpr ⟨List.mem_map_of_mem member, decide_eq_true file⟩
      exact ⟨succeeds arrival member file, whole.named _ listed, whole.names _ listed⟩
    have same : Client.fileItems arrivals = Web.fileItems packets := by
      rw [fileItems_eq storable, ← sent, fileItems_filter]
    have whole_ : Client.filePolicy.agrees pieces.flatten.length pieces.flatten.length = true :=
      decide_eq_true rfl
    rw [same, items, Policy.run_transfer _ whole_] at reported
    have contents := congrArg (List.map Prod.snd) reported
    rw [List.map_map] at contents
    exact contents
  · obtain ⟨session', handled⟩ := session.handlePackets_survives formed
    refine ⟨session', handled, ?_⟩
    have whole_ : Web.filePolicy.agrees pieces.flatten.length pieces.flatten.length = true :=
      decide_eq_true rfl
    rw [(Web.ClientSession.handlePackets_run handled).2.noticed, ← fileItems_filter, sent, items,
      Policy.run_transfer _ whole_]
    rfl

/-! ## Sending -/

/-- The last component has no slash. -/
theorem baseFilename_component (path : CString) : 0x2f ∉ (baseFilename path).bytes := by
  let last := path.bytes.reverse.takeWhile (· ≠ 0x2f)
  have same : (baseFilename path).bytes = last.reverse := by
    have front : last = path.bytes.reverse.take last.length :=
      List.prefix_iff_eq_take.mp (List.takeWhile_prefix _)
    change path.bytes.drop (path.bytes.length - last.length) = _
    rw [front, List.reverse_take, List.reverse_reverse, List.length_reverse, ← front]
  rw [same, List.mem_reverse]
  intro slash
  simpa using List.mem_takeWhile_imp slash

/-- The packets of a transfer with a header of this name and size are those of a whole file. -/
theorem WholeFile.of_payload {content : List UInt8} {header last : Packet} {chunks : List Packet}
    {name : CString} (named : ∀ packet ∈ header :: (chunks ++ [last]), 0 < packet.senderName.length)
    (begin_ : header.type = MessageType.msgFileBegin.code)
    (types : ∀ chunk ∈ chunks, chunk.type = MessageType.msgFileChunk.code)
    (end_ : last.type = MessageType.msgFileEnd.code)
    (framed : header.payload.length = fileNameMaxLen + 8)
    (announced : CString.ofBytes (header.payload.take fileNameMaxLen) = name)
    (size : fromBigEndian (header.payload.drop fileNameMaxLen).reverse = content.length)
    (given : 0 < name.length) (short : name.length < fileNameMaxLen) (component : 0x2f ∉ name.bytes)
    (sum : chunks.flatMap Packet.payload = content) :
    WholeFile content (header :: (chunks ++ [last])) where
  parts := ⟨header, chunks, last, rfl, begin_, types, end_, header.payload_length.symm.trans framed,
    size, sum⟩
  named := named
  names := by
    intro packet member type_ _
    have first : packet = header := by
      rcases List.mem_cons.mp member with same | later
      · exact same
      rcases List.mem_append.mp later with chunk | last_
      · exact absurd ((types packet chunk).symm.trans type_) (by decide)
      · rw [List.mem_singleton.mp last_] at type_
        exact absurd (end_.symm.trans type_) (by decide)
    rw [first, Packet.announcedName, announced]
    exact ⟨given, short, fun slash => component (List.mem_of_getLast? slash)⟩

namespace Client

/-- Everything that `send_file` asks for succeeds, on a file of this content. -/
structure SendOutcome.Succeeds (outcome : SendOutcome) (content : List UInt8) : Prop where
  /-- `stat` finds a regular file of this size. -/
  size : outcome.size = some (UInt64.ofNat content.length)
  /-- `fopen` succeeds. -/
  opened : outcome.opened = true
  /-- The open file holds the content. -/
  content : outcome.content = content
  /-- `fread` ends with no error. -/
  read : ∀ turn, outcome.failed turn = none
  /-- `send_packet` succeeds. -/
  sent : ∀ number, outcome.sent number = true

variable {outcome : SendOutcome} {content : List UInt8} {username receiver : CString}

/-- A packet whose data fit is sent. -/
theorem sendNumbered_eq (sent : ∀ number, outcome.sent number = true) (number : Nat)
    (type : MessageType) {data : List UInt8} (fits : data.length ≤ packetDataMax) :
    ∃ packet, sendNumbered outcome number type username receiver data = some packet ∧
      packet.type = type.code ∧ packet.sender = copyFixedString username ∧ packet.payload = data := by
  obtain ⟨packet, built⟩ := Option.isSome_iff_exists.mp
    ((@packetInit_isSome type.code username receiver data).mpr fits)
  obtain ⟨same, sender, _, payload⟩ := packetInit_eq built
  refine ⟨packet, ?_, same, sender, payload⟩
  rw [sendNumbered, built, Option.filter_some, if_pos (sent number)]

/-- The chunks add up to what is left of the file. -/
theorem sendChunks_all (sent : ∀ number, outcome.sent number = true)
    (read : ∀ turn, outcome.failed turn = none) {turns turn : Nat} {rest : List UInt8}
    (enough : rest.length < packetDataMax * turns) : ∃ chunks,
      sendChunks outcome username receiver turns turn rest = (chunks, none) ∧
        (∀ chunk ∈ chunks, chunk.type = MessageType.msgFileChunk.code ∧
          chunk.sender = copyFixedString username) ∧
        chunks.flatMap Packet.payload = rest := by
  induction turns generalizing turn rest with
  | zero => exact absurd enough (Nat.not_lt_zero _)
  | succ turns ih =>
    have buf : rest.take (min packetDataMax ((outcome.failed turn).getD packetDataMax)) =
        rest.take packetDataMax := by
      rw [read turn, Option.getD_none, Nat.min_self]
    obtain ⟨chunk, made, type_, sender, payload⟩ := @sendNumbered_eq outcome username receiver sent
      (turn + 1) .msgFileChunk (rest.take packetDataMax) (List.length_take_le _ _)
    unfold sendChunks
    dsimp only
    rw [buf, made, if_neg (by simp), read turn, if_neg (by simp)]
    by_cases short : (rest.take packetDataMax).length < packetDataMax
    · rw [if_pos short]
      have all : rest.take packetDataMax = rest := by
        rw [List.length_take] at short
        exact List.take_of_length_le (by omega)
      by_cases nothing : rest = []
      · subst nothing
        exact ⟨[], rfl, by simp, rfl⟩
      · rw [if_pos (by rw [all]; exact List.length_pos_iff.mpr nothing)]
        refine ⟨[chunk], rfl, ?_, ?_⟩
        · rw [List.forall_mem_singleton]
          exact ⟨type_, sender⟩
        · rw [List.flatMap_singleton, payload, all]
    · rw [if_neg short]
      have full : packetDataMax ≤ rest.length :=
        (Nat.le_of_not_lt short).trans (List.length_take_le' _ _)
      obtain ⟨later, done, types, sum⟩ := @ih (turn + 1) (rest.drop packetDataMax) (by
        rw [List.length_drop]
        rw [Nat.mul_succ] at enough
        omega)
      rw [done, if_pos (by rw [List.length_take_of_le full]; decide)]
      refine ⟨chunk :: later, rfl, List.forall_mem_cons.mpr ⟨⟨type_, sender⟩, types⟩, ?_⟩
      rw [List.flatMap_cons, payload, sum, List.take_append_drop]

/-- The payload of a header, with its name and its size. -/
theorem fileBeginPayload_bytes (filename : CString) (filesize : UInt64) :
    (FileBeginPayload.bytes filename filesize).length = fileNameMaxLen + 8 ∧
      (FileBeginPayload.bytes filename filesize).take fileNameMaxLen =
        (copyFixed fileNameMaxLen filename).array ∧
      fromBigEndian ((FileBeginPayload.bytes filename filesize).drop fileNameMaxLen).reverse =
        filesize.toNat := by
  have array := (copyFixed fileNameMaxLen filename).array_length
  unfold FileBeginPayload.bytes
  refine ⟨?_, List.take_left' array, ?_⟩
  · rw [List.length_append, array, List.length_reverse, List.length_append, bigEndian_length,
      bigEndian_length]
  · rw [List.drop_left' array, List.reverse_reverse, fromBigEndian_twoWords filesize.toNat_lt]

/-- What the C client sends when everything succeeds is a whole file. -/
theorem sendFile_whole {username receiver : FixedString usernameMaxLen} {path : FixedString 512}
    (succeeds : outcome.Succeeds content) (small : content.length ≤ fileTransferMaxBytes)
    (named : 0 < username.toCString.length)
    (given : 0 < (baseFilename path.toCString).length)
    (short : (baseFilename path.toCString).length < fileNameMaxLen) :
    WholeFile content (sendFile outcome username receiver path).1 := by
  have value : (UInt64.ofNat content.length).toNat = content.length := by
    rw [UInt64.toNat_ofNat']
    exact Nat.mod_eq_of_lt (Nat.lt_of_le_of_lt small (by decide))
  have allowed : ¬ UInt64.ofNat content.length > UInt64.ofNat fileTransferMaxBytes := by
    refine UInt64.not_lt.mpr (UInt64.le_iff_toNat_le.mpr ?_)
    rw [value]
    exact small
  obtain ⟨length, name, size⟩ :=
    fileBeginPayload_bytes (baseFilename path.toCString) (UInt64.ofNat content.length)
  have sender : CString.ofBytes (copyFixedString username.toCString).toList = username.toCString :=
    ofBytes_copyFixedString username.fits
  obtain ⟨header, madeHeader, begin_, own, payload⟩ := @sendNumbered_eq outcome username.toCString
    receiver.toCString succeeds.sent 0 .msgFileBegin _ (length.trans_le (by decide))
  obtain ⟨chunks, madeChunks, types, sum⟩ := @sendChunks_all outcome username.toCString
    receiver.toCString succeeds.sent succeeds.read (content.length / packetDataMax + 1) 0 content
    (Nat.lt_mul_div_succ _ (by decide))
  obtain ⟨last, madeLast, end_, ownLast, _⟩ := @sendNumbered_eq outcome username.toCString
    receiver.toCString succeeds.sent (chunks.length + 1) .msgFileEnd [] (by decide)
  have packets : (sendFile outcome username receiver path).1 = header :: (chunks ++ [last]) := by
    unfold sendFile
    rw [succeeds.size]
    dsimp only
    rw [if_neg allowed, if_neg (by simp [succeeds.opened]), madeHeader]
    dsimp only
    rw [succeeds.content, madeChunks]
    dsimp only
    rw [madeLast]
  rw [packets]
  refine @WholeFile.of_payload content header last chunks (baseFilename path.toCString) ?_ begin_
    (fun chunk member => (types chunk member).1) end_ (by rw [payload]; exact length) ?_ ?_ given short
    (baseFilename_component _) sum
  · intro packet member
    have from_ : packet.sender = copyFixedString username.toCString := by
      rcases List.mem_cons.mp member with rfl | later
      · exact own
      rcases List.mem_append.mp later with chunk | last_
      · exact (types packet chunk).2
      · rw [List.mem_singleton.mp last_]
        exact ownLast
    rw [Packet.senderName, from_, sender]
    exact named
  · rw [payload, name, FixedString.ofBytes_array, copyFixed_toCString short]
  · rw [payload, size, value]

end Client

/-! ### The page behind the gateway -/

namespace Web

/-- What `encodeFileBeginPayload` writes. -/
theorem encodeFileBeginPayload_eq {filename : Text} (filesize : Nat)
    (fits : (Utf8.encode filename).length < fileNameMaxLen) :
    encodeFileBeginPayload filename filesize = .ok (Utf8.encode filename ++
      List.replicate (fileNameMaxLen - (Utf8.encode filename).length) 0 ++
        (bigEndian (filesize / 2 ^ 32) ++ bigEndian filesize).reverse) := by
  have zeros : List.replicate (fileNameMaxLen + 8) (0 : UInt8) =
      [] ++ List.replicate fileNameMaxLen 0 ++ List.replicate 8 0 := by
    rw [List.nil_append, ← List.replicate_add]
  have field : (Utf8.encode filename ++
      List.replicate (fileNameMaxLen - (Utf8.encode filename).length) (0 : UInt8)).length =
        fileNameMaxLen := by
    rw [List.length_append, List.length_replicate]
    omega
  have name := @writeFixedCString_field [] (List.replicate fileNameMaxLen 0) (List.replicate 8 0) 0
    fileNameMaxLen filename "filename" rfl List.length_replicate fits
  have size := @overwrite_middle _ (List.replicate 8 0) []
    (bigEndian (filesize / 2 ^ 32) ++ bigEndian filesize).reverse fileNameMaxLen field (by
      rw [List.length_reverse, List.length_append, bigEndian_length, bigEndian_length,
        List.length_replicate])
  rw [List.append_nil, List.append_nil] at size
  rw [encodeFileBeginPayload, zeros, name, List.nil_append]
  exact congrArg Except.ok size

/-- A name without a slash is its own last component. -/
theorem basename_of_component {name : Text} (component : 0x2f ∉ name) : basename name = name := by
  have reversed : 0x2f ∉ name.reverse := by rwa [List.mem_reverse]
  have kept : name.reverse.dropWhile (· = 0x2f) = name.reverse := by
    cases split : name.reverse with
    | nil => rfl
    | cons point rest =>
      rw [split, List.mem_cons, not_or] at reversed
      rw [List.dropWhile_cons_of_neg (by simpa using Ne.symm reversed.1)]
  have all : name.reverse.takeWhile (· ≠ 0x2f) = name.reverse := by
    rw [List.takeWhile_eq_self_iff]
    intro point member
    simpa using fun same : point = 0x2f => reversed (same ▸ member)
  rw [basename, kept, all, List.reverse_reverse]

/-- The parts of a file add up to it, and none is empty or longer than a packet. -/
theorem fileChunks_eq (bytes : List UInt8) : (fileChunks bytes).flatten = bytes ∧
    ∀ chunk ∈ fileChunks bytes, 0 < chunk.length ∧ chunk.length ≤ packetDataMax := by
  have size : packetDataMax = 1024 := rfl
  constructor
  · rw [fileChunks, flatten_pieces, size]
    exact List.take_of_length_le (by omega)
  · intro chunk member
    obtain ⟨turn, inside, rfl⟩ := List.mem_map.mp member
    rw [List.mem_range, size] at inside
    rw [List.length_take, List.length_drop, size]
    omega

namespace ClientSession

/-- A user is logged in on an open connection. -/
structure Ready (session : ClientSession) (socket : Nat) : Prop where
  /-- The user is logged in. -/
  entered : session.loggedIn = true
  /-- The name is not empty. -/
  named : session.username ≠ []
  /-- The name fits its field. -/
  fits : byteLength session.username < usernameMaxLen
  /-- The connection is open. -/
  opened : session.openSocket = some socket

/-- Packets were written to a connection that stays open. -/
structure Sent (session session' : ClientSession) (socket : Nat) (packets : List Packet) : Prop where
  /-- The user stays logged in. -/
  ready : session'.Ready socket
  /-- It is the same user. -/
  username : session'.username = session.username
  /-- The packets were written. -/
  written : (session'.sockets socket).written =
    (session.sockets socket).written ++ packets.map wire

variable {session middle session' : ClientSession} {socket : Nat} {receiver : Text}

/-- One is sent after the other. -/
theorem Sent.trans {packets later : List Packet} (first : Sent session middle socket packets)
    (second : Sent middle session' socket later) : Sent session session' socket (packets ++ later) where
  ready := second.ready
  username := second.username.trans first.username
  written := by rw [second.written, first.written, List.map_append, List.append_assoc]

/-- Writing a packet sends it, also after an entry was queued. -/
theorem Ready.sent (ready : session.Ready socket) (packet : Packet) (pending : Option Pending) :
    Sent session ((session.queue pending).write socket (wire packet)) socket [packet] where
  ready := by
    refine ⟨ready.entered, ready.named, ready.fits, ?_⟩
    have open_ := ready.opened
    rw [openSocket, Option.filter_eq_some_iff] at open_ ⊢
    refine ⟨open_.1, ?_⟩
    simp only [write, updateSocket, Function.update_self]
    exact open_.2
  username := rfl
  written := by
    rw [write_written, if_pos rfl]
    rfl

/-- What is posted on an open connection is written. -/
theorem Ready.post (ready : session.Ready socket) (packet : Packet) (pending : Option Pending) :
    (session.queue pending).caught ((session.queue pending).post (.ok (wire packet))) =
      (session.queue pending).write socket (wire packet) := by
  have open_ : (session.queue pending).openSocket = some socket := ready.opened
  change (session.queue pending).caught ((session.queue pending).sendPacket (wire packet)) = _
  rw [sendPacket, open_]
  rfl

/-- A user who is logged in may go on. -/
theorem Ready.requireLogin (ready : session.Ready socket) (body : ClientSession → ClientSession) :
    session.requireLogin body = body session := by
  rw [ClientSession.requireLogin, if_neg (by simp [ready.entered, ready.named])]

/-- A header is sent. -/
theorem handleSendFileBegin_sent (ready : session.Ready socket)
    (valid : validatePeerName (trim receiver) = none) {filename : Text} {size : Number}
    {filesize : Nat} (given : filename ≠ []) (short : byteLength filename < fileNameMaxLen)
    (line : 0xa ∉ filename) (natural : size.natural = some filesize)
    (small : filesize ≤ fileTransferMaxBytes) : ∃ packet : Packet,
      Sent session (session.handleSendFileBegin receiver filename size) socket [packet] ∧
        packet.type = MessageType.msgFileBegin.code ∧ packet.senderName = wireName session.username ∧
        packet.receiverName = wireName (trim receiver) ∧
        packet.payload = Utf8.encode filename ++
          List.replicate (fileNameMaxLen - (Utf8.encode filename).length) 0 ++
            (bigEndian (filesize / 2 ^ 32) ++ bigEndian filesize).reverse := by
  have accepted : size.natural.filter (· ≤ fileTransferMaxBytes) = some filesize := by
    rw [natural, Option.filter_some, if_pos (decide_eq_true small)]
  have encoded := encodeFileBeginPayload_eq filesize short
  obtain ⟨packet, made, type_, sender, peer, payload⟩ := encodePacket_wire
    MessageType.msgFileBegin.code ready.fits (validatePeerName_fits valid)
    ((encodeFileBeginPayload_length encoded).trans_le (by decide))
  refine ⟨packet, ?_, type_, sender, peer, payload⟩
  have sent := ready.sent packet none
  rw [← ready.post packet none, queue_none, ← made] at sent
  have checks : ¬(filename = [] ∨ byteLength filename ≥ fileNameMaxLen ∨ 0xa ∈ filename) := by
    simp only [given, line, or_false, false_or, Nat.not_le, ge_iff_le]
    exact short
  rw [handleSendFileBegin, ready.requireLogin]
  dsimp only
  rw [valid]
  dsimp only
  rw [if_neg checks, accepted]
  dsimp only
  rw [encoded]
  exact sent

/-- A chunk is sent. -/
theorem handleSendFileChunk_sent (ready : session.Ready socket)
    (valid : validatePeerName (trim receiver) = none) {data : List UInt8}
    (given : 0 < data.length) (fits : data.length ≤ packetDataMax) : ∃ packet : Packet,
      Sent session (session.handleSendFileChunk receiver data) socket [packet] ∧
        packet.type = MessageType.msgFileChunk.code ∧ packet.senderName = wireName session.username ∧
        packet.payload = data := by
  obtain ⟨packet, made, type_, sender, _, payload⟩ := encodePacket_wire
    MessageType.msgFileChunk.code ready.fits (validatePeerName_fits valid) fits
  refine ⟨packet, ?_, type_, sender, payload⟩
  have sent := ready.sent packet none
  rw [← ready.post packet none, queue_none, ← made] at sent
  rw [handleSendFileChunk, ready.requireLogin]
  dsimp only
  rw [valid]
  dsimp only
  rw [if_neg (by omega)]
  exact sent

/-- The end is sent. -/
theorem handleSendFileEnd_sent (ready : session.Ready socket)
    (valid : validatePeerName (trim receiver) = none) : ∃ packet : Packet,
      Sent session (session.handleSendFileEnd receiver) socket [packet] ∧
        packet.type = MessageType.msgFileEnd.code ∧
        packet.senderName = wireName session.username := by
  obtain ⟨packet, made, type_, sender, _, _⟩ := @encodePacket_wire MessageType.msgFileEnd.code
    session.username (trim receiver) [] ready.fits (validatePeerName_fits valid) (by decide)
  refine ⟨packet, ?_, type_, sender⟩
  have sent := ready.sent packet (some (.status .sendFile))
  rw [← ready.post packet (some (.status .sendFile)), ← made] at sent
  rw [handleSendFileEnd, ready.requireLogin]
  dsimp only
  rw [valid]
  exact sent

/-- Chunks are sent one after the other. -/
theorem handleSendFileChunks_sent (ready : session.Ready socket)
    (valid : validatePeerName (trim receiver) = none) {pieces : List (List UInt8)}
    (each : ∀ piece ∈ pieces, 0 < piece.length ∧ piece.length ≤ packetDataMax) :
    ∃ chunks : List Packet,
      Sent session (pieces.foldl (fun session data => session.handleSendFileChunk receiver data)
          session) socket chunks ∧
        (∀ chunk ∈ chunks, chunk.type = MessageType.msgFileChunk.code ∧
          chunk.senderName = wireName session.username) ∧
        chunks.flatMap Packet.payload = pieces.flatten := by
  induction pieces generalizing session with
  | nil => exact ⟨[], ⟨ready, rfl, by simp⟩, by simp, rfl⟩
  | cons piece pieces ih =>
    obtain ⟨⟨given, fits⟩, others⟩ := List.forall_mem_cons.mp each
    obtain ⟨chunk, first, type_, sender, payload⟩ := handleSendFileChunk_sent ready valid given fits
    obtain ⟨chunks, later, types, sum⟩ := ih first.ready others
    rw [first.username] at types
    refine ⟨chunk :: chunks, first.trans later, List.forall_mem_cons.mpr ⟨⟨type_, sender⟩, types⟩, ?_⟩
    rw [List.flatMap_cons, payload, sum, List.flatten_cons]

end ClientSession

/-- What the page sends for a selected file is a whole file on the connection of its session. -/
theorem submitSelectedFile_whole {gateway : Gateway} {currentUsername receiver name : Text}
    {content : List UInt8} {socket : Nat} (ready : gateway.session.Ready socket)
    (named : 0 < (wireName gateway.session.username).length)
    (valid : validatePeerName (trim receiver) = none) (other : receiver ≠ currentUsername)
    (small : content.length ≤ fileTransferMaxBytes) (given : name ≠ [])
    (short : byteLength name < fileNameMaxLen) (plain : ∀ point ∈ [0, 0x2f, 0xa], point ∉ name) :
    ∃ actions packets, submitSelectedFile currentUsername receiver ⟨name, content⟩ = .ok actions ∧
      gateway.session.Sent (actions.foldl Gateway.handleMessage gateway).session socket packets ∧
      WholeFile content packets := by
  simp only [List.forall_mem_cons, List.not_mem_nil, false_imp_iff, implies_true, and_true] at plain
  obtain ⟨nulFree, component, line⟩ := plain
  have asked : receiver ≠ [] := by
    rintro rfl
    exact absurd valid (by decide)
  obtain ⟨sum, each⟩ := fileChunks_eq content
  have natural : (Number.finite content.length).natural = some content.length := by
    simp [Number.natural]
  obtain ⟨header, first, begin_, sender, _, payload⟩ :=
    ClientSession.handleSendFileBegin_sent ready valid given short line natural small
  obtain ⟨chunks, middle, types, total⟩ :=
    ClientSession.handleSendFileChunks_sent first.ready valid each
  obtain ⟨last, end_, type_, own⟩ := ClientSession.handleSendFileEnd_sent middle.ready valid
  rw [middle.username, first.username] at own
  rw [first.username] at types
  have whole := (first.trans middle).trans end_
  have folded (pieces : List (List UInt8)) (gateway : Gateway) :
      ((pieces.map (.sendFileChunk receiver)).foldl Gateway.handleMessage gateway).session =
        pieces.foldl (fun session data => session.handleSendFileChunk receiver data)
          gateway.session := by
    induction pieces generalizing gateway with
    | nil => rfl
    | cons piece pieces ih => exact ih (gateway.handleMessage (.sendFileChunk receiver piece))
  have submitted : submitSelectedFile currentUsername receiver ⟨name, content⟩ =
      .ok (.sendFileBegin receiver name (.finite content.length) ::
        ((fileChunks content).map (.sendFileChunk receiver) ++ [.sendFileEnd receiver])) := by
    rw [submitSelectedFile, if_neg (by simp [asked, other]), if_neg (Nat.not_lt.mpr small)]
    dsimp only
    rw [basename_of_component component]
  refine ⟨_, header :: (chunks ++ [last]), submitted, ?_, ?_⟩
  · rw [List.foldl_cons, List.foldl_append, List.foldl_cons, List.foldl_nil]
    change gateway.session.Sent (ClientSession.handleSendFileEnd _ receiver) socket _
    rw [folded]
    exact whole
  · have field : (Utf8.encode name ++
        List.replicate (fileNameMaxLen - (Utf8.encode name).length) (0 : UInt8)).length =
          fileNameMaxLen := by
      rw [List.length_append, List.length_replicate]
      exact Nat.add_sub_cancel' short.le
    have bytes : (wireName name).bytes = Utf8.encode name :=
      CString.takeWhile_nulFree fun zero => nulFree (Utf8.zero_mem_encode.mp zero)
    refine @WholeFile.of_payload content header last chunks (wireName name) ?_ begin_
      (fun chunk member => (types chunk member).1) type_ ?_ ?_ ?_ ?_ ?_ ?_ (total.trans sum)
    · intro packet member
      rcases List.mem_cons.mp member with rfl | later
      · rwa [sender]
      rcases List.mem_append.mp later with chunk | last_
      · rwa [(types packet chunk).2]
      · rwa [List.mem_singleton.mp last_, own]
    · rw [payload, List.length_append, field, List.length_reverse, List.length_append,
        bigEndian_length, bigEndian_length]
    · rw [payload, List.take_left' field, CString.ofBytes_append_zeros]
      rfl
    · rw [payload, List.drop_left' field, List.reverse_reverse,
        fromBigEndian_twoWords (Nat.lt_of_le_of_lt small (by decide))]
    · rw [CString.length, bytes, List.length_pos_iff]
      exact fun nothing => given (Utf8.encode_eq_nil.mp nothing)
    · rw [CString.length, bytes]
      exact short
    · rw [bytes, Utf8.ascii_mem_encode (by decide)]
      exact component

end Web

/-- A file of at most 10 MiB under a name of 1 to 255 bytes is delivered, whether the C client sends it
or the page behind the gateway: the packets are within the limits, and each receiver reports the file
with its content when the packets reach it in order with no other file packet in between. -/
theorem file_delivered {content : List UInt8} (small : content.length ≤ fileTransferMaxBytes) :
    (∀ (outcome : Client.SendOutcome) (username receiver : FixedString usernameMaxLen)
        (path : FixedString 512), outcome.Succeeds content → 0 < username.toCString.length →
        0 < (baseFilename path.toCString).length →
        (baseFilename path.toCString).length < fileNameMaxLen →
        Delivered content (Client.sendFile outcome username receiver path).1) ∧
      ∀ (gateway : Web.Gateway) (socket : Nat) (currentUsername receiver name : List Nat),
        gateway.session.Ready socket → 0 < (Web.wireName gateway.session.username).length →
        Web.validatePeerName (Web.trim receiver) = none → receiver ≠ currentUsername → name ≠ [] →
        Web.byteLength name < fileNameMaxLen → (∀ point ∈ [0, 0x2f, 0xa], point ∉ name) →
        ∃ actions packets,
          Web.submitSelectedFile currentUsername receiver ⟨name, content⟩ = .ok actions ∧
          gateway.session.Sent (actions.foldl Web.Gateway.handleMessage gateway).session socket
            packets ∧
          Delivered content packets := by
  constructor
  · intro outcome username receiver path succeeds named given short
    exact (Client.sendFile_whole succeeds small named given short).delivered small
  · intro gateway socket currentUsername receiver name ready named valid other given short plain
    obtain ⟨actions, packets, submitted, sent, whole⟩ :=
      Web.submitSelectedFile_whole ready named valid other small given short plain
    exact ⟨actions, packets, submitted, sent, whole.delivered small⟩

/-- The environment of a file of two bytes. -/
def pairSend : Client.SendOutcome where
  size := some 2
  opened := true
  content := [1, 1]
  failed _ := none
  sent _ := true

/-- A gateway whose user is logged in. -/
def sampleGateway : Web.Gateway where
  session := { tcpSocket := some 0, username := Web.literal "a", loggedIn := true, created := 1 }

/-- A file of two bytes is delivered from both senders. -/
theorem file_delivered_pair :
    Delivered [1, 1] (Client.sendFile pairSend (copyFixed usernameMaxLen (CString.ofString "a"))
        (copyFixed usernameMaxLen (CString.ofString "b"))
        (copyFixed 512 (CString.ofString "/tmp/f"))).1 ∧
      ∃ actions packets,
        Web.submitSelectedFile (Web.literal "a") (Web.literal "b") ⟨Web.literal "f", [1, 1]⟩ =
          .ok actions ∧
        sampleGateway.session.Sent (actions.foldl Web.Gateway.handleMessage sampleGateway).session 0
          packets ∧
        Delivered [1, 1] packets := by
  obtain ⟨client, page⟩ := @file_delivered [1, 1] (by decide)
  refine ⟨client pairSend _ _ _ ⟨rfl, rfl, rfl, fun _ => rfl, fun _ => rfl⟩ ?_ ?_ ?_,
    page sampleGateway 0 (Web.literal "a") (Web.literal "b") (Web.literal "f")
      ⟨rfl, ?_, ?_, rfl⟩ ?_ ?_ ?_ ?_ ?_ ?_⟩ <;> decide

end MultiUserChat
