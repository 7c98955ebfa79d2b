import MultiUserChat.Library.Intake
import MultiUserChat.Verif.FileTransfers
/-!
# Incoming files

What the C client and the gateway make of the packets that arrive, as receivers of announced contents
in the sense of `Library.Intake`. The C client gives the active transfer up when a header is refused
and compares 64-bit counts; the gateway keeps the transfer and compares lengths. A sender is compared
by the text that its name denotes.
-/

namespace MultiUserChat

/-- A header, a chunk or an end. -/
def Packet.OfFile (packet : Packet) : Prop :=
  packet.type = MessageType.msgFileBegin.code ∨ packet.type = MessageType.msgFileChunk.code ∨
    packet.type = MessageType.msgFileEnd.code

/-! ## The C client -/

namespace Client

/-- `recv_thread` as a receiver of announced contents. -/
def filePolicy : Policy where
  keeps := false
  agrees received announced := UInt64.ofNat received = UInt64.ofNat announced

/-- The active transfer. -/
def IncomingFile.intake (file : IncomingFile) : Option (Intake (List Nat) UInt8) :=
  file.stored.map fun content =>
    ⟨Utf8.decode file.sender.bytes, file.expectedSize.toNat, content⟩

/-- What a packet is to the active transfer, if anything. -/
def fileItem (outcome : Outcome) (packet : Packet) : Option (Item (List Nat) UInt8) :=
  match MessageType.ofCode? packet.type with
  | some .msgFileBegin =>
    let file := (handleFileBegin outcome packet).1
    some (if file.active = true then
      .opening (Utf8.decode file.sender.bytes) file.expectedSize.toNat else .refused)
  | some .msgFileChunk =>
    some (if outcome.taken.any (· < packet.length) then .broken else .piece packet.payload)
  | some .msgFileEnd => some .closing
  | _ => none

/-- What packets are to the active transfer. -/
def fileItems (arrivals : List (Packet × Outcome)) : List (Item (List Nat) UInt8) :=
  arrivals.filterMap fun arrival => fileItem arrival.2 arrival.1

/-- The file that a line reports, with the sender of the transfer. -/
def reportedFile (file : IncomingFile) : Line → Option (CString × List UInt8)
  | .received _ content => some (file.sender.toCString, content)
  | _ => none

/-- The files that are reported while packets arrive, each with the sender of its transfer. -/
def receivedFiles (file : IncomingFile) : List (Packet × Outcome) → List (CString × List UInt8)
  | [] => []
  | (packet, outcome) :: packets =>
    (recvThread outcome file packet).2.filterMap (reportedFile file) ++
      receivedFiles (recvThread outcome file packet).1 packets

/-- The name of a sender as text. -/
def readSender (file : CString × List UInt8) : List Nat × List UInt8 :=
  (Utf8.decode file.1.bytes, file.2)

/-- `received_size` counts what is stored, in 64 bits. -/
def IncomingFile.Counted (file : IncomingFile) : Prop :=
  ∀ content, file.stored = some content → file.receivedSize = UInt64.ofNat content.length

/-- A header opens the slot or frees it. -/
theorem handleFileBegin_intake (outcome : Outcome) (packet : Packet) :
    (handleFileBegin outcome packet).1.intake =
      if (handleFileBegin outcome packet).1.active = true then
        some ⟨Utf8.decode (handleFileBegin outcome packet).1.sender.bytes,
          (handleFileBegin outcome packet).1.expectedSize.toNat, []⟩
      else none := by
  rcases handleFileBegin_cases outcome packet with idle | ⟨active, open_, _⟩
  · rw [IncomingFile.intake, IncomingFile.stored, idle]
    rfl
  · rw [IncomingFile.intake, IncomingFile.stored, if_pos active, if_pos active, open_]
    rfl

/-- A header reports no file, and what it opens is counted. -/
theorem handleFileBegin_quiet (outcome : Outcome) (file : IncomingFile) (packet : Packet) :
    (handleFileBegin outcome packet).2.filterMap (reportedFile file) = [] ∧
      (handleFileBegin outcome packet).1.Counted := by
  have idle : IncomingFile.Counted {} := by
    intro content stored
    cases stored
  unfold handleFileBegin
  dsimp only
  split
  · exact ⟨rfl, idle⟩
  split
  · exact ⟨rfl, idle⟩
  split
  · exact ⟨rfl, idle⟩
  split
  · exact ⟨rfl, idle⟩
  · refine ⟨rfl, ?_⟩
    intro content stored
    obtain rfl := Option.some.inj stored
    rfl

/-- A chunk is added to the slot or frees it, and reports no file. -/
theorem handleFileChunk_intake (outcome : Outcome) (file : IncomingFile) (packet : Packet) :
    (handleFileChunk outcome file packet).1.intake =
        (filePolicy.take file.intake
          (if outcome.taken.any (· < packet.length) then .broken else .piece packet.payload)).1 ∧
      (handleFileChunk outcome file packet).2.filterMap (reportedFile file) = [] ∧
      (file.Counted → (handleFileChunk outcome file packet).1.Counted) := by
  obtain ⟨active, sender, filename, expectedSize, receivedSize, fp, path, opened⟩ := file
  unfold handleFileChunk
  cases active with
  | false =>
    refine ⟨?_, rfl, id⟩
    by_cases short : outcome.taken.any (· < packet.length) = true
    · rw [if_pos short]
      rfl
    · rw [if_neg short]
      rfl
  | true =>
    cases fp with
    | none => exact absurd (opened rfl) (by simp)
    | some content =>
      dsimp only
      by_cases short : outcome.taken.any (· < packet.length) = true
      · rw [if_pos short, if_pos short]
        exact ⟨rfl, rfl, fun _ => nofun⟩
      · rw [if_neg short, if_neg short]
        refine ⟨rfl, rfl, ?_⟩
        rintro counted _ ⟨⟩
        have size : receivedSize = UInt64.ofNat content.length := counted content rfl
        change receivedSize + UInt64.ofNat packet.length = _
        rw [size, List.length_append, Packet.payload_length, UInt64.ofNat_add]

/-- The end frees the slot and reports what the slot reports. -/
theorem handleFileEnd_intake {file : IncomingFile} (counted : file.Counted) :
    (handleFileEnd file).1.intake = none ∧
      ((handleFileEnd file).2.filterMap (reportedFile file)).map readSender =
        (filePolicy.report file.intake).toList := by
  refine ⟨by rw [IncomingFile.intake, handleFileEnd_stored]; rfl, ?_⟩
  unfold handleFileEnd
  cases active : file.active with
  | false =>
    rw [IncomingFile.intake, IncomingFile.stored, active]
    rfl
  | true =>
    obtain ⟨content, open_⟩ := Option.isSome_iff_exists.mp (file.opened active)
    have stored : file.stored = some content := by rw [IncomingFile.stored, if_pos active, open_]
    have agrees : filePolicy.agrees content.length file.expectedSize.toNat =
        decide (file.receivedSize = file.expectedSize) := by
      rw [counted content stored]
      change decide (UInt64.ofNat content.length = UInt64.ofNat file.expectedSize.toNat) = _
      rw [UInt64.ofNat_toNat]
    rw [IncomingFile.intake, stored, Option.map_some, Policy.report, Option.bind_some, agrees]
    by_cases same : file.receivedSize = file.expectedSize
    · rw [if_neg (by simp), if_pos same, if_pos (by simpa using same), open_]
      rfl
    · rw [if_neg (by simp), if_neg same, if_neg (by simpa using same)]
      rfl

/-- A file packet is taken as the item that it is. -/
theorem recvThread_item {outcome : Outcome} {file : IncomingFile} {packet : Packet}
    {item : Item (List Nat) UInt8} (counted : file.Counted)
    (given : fileItem outcome packet = some item) :
    (recvThread outcome file packet).1.intake = (filePolicy.take file.intake item).1 ∧
      ((recvThread outcome file packet).2.filterMap (reportedFile file)).map readSender =
        (filePolicy.take file.intake item).2.toList ∧
      (recvThread outcome file packet).1.Counted := by
  unfold fileItem at given
  unfold recvThread
  split at given
  · rename_i begin_
    rw [begin_, ← Option.some.inj given]
    obtain ⟨quiet, counts⟩ := handleFileBegin_quiet outcome file packet
    dsimp only
    rw [handleFileBegin_intake, quiet]
    split <;> exact ⟨rfl, rfl, counts⟩
  · rename_i chunk
    rw [chunk, ← Option.some.inj given]
    obtain ⟨taken, quiet, counts⟩ := handleFileChunk_intake outcome file packet
    refine ⟨taken, ?_, counts counted⟩
    dsimp only
    rw [quiet]
    split <;> rfl
  · rename_i end_
    rw [end_, ← Option.some.inj given]
    obtain ⟨freed, reported⟩ := handleFileEnd_intake counted
    refine ⟨freed, reported, ?_⟩
    intro content stored
    rw [handleFileEnd_stored] at stored
    contradiction
  · contradiction

/-- Another packet leaves the incoming file alone. -/
theorem recvThread_other {outcome : Outcome} {file : IncomingFile} {packet : Packet}
    (other : fileItem outcome packet = none) :
    (recvThread outcome file packet).1 = file ∧
      (recvThread outcome file packet).2.filterMap (reportedFile file) = [] := by
  unfold fileItem at other
  unfold recvThread
  cases selected : MessageType.ofCode? packet.type with
  | none => exact ⟨rfl, rfl⟩
  | some type =>
    rw [selected] at other
    cases type with
    | msgFileBegin => contradiction
    | msgFileChunk => contradiction
    | msgFileEnd => contradiction
    | _ => exact ⟨rfl, rfl⟩

/-- Another packet is passed by. -/
theorem fileItems_other {outcome : Outcome} {packet : Packet}
    (other : fileItem outcome packet = none) (arrivals : List (Packet × Outcome)) :
    fileItems ((packet, outcome) :: arrivals) = fileItems arrivals :=
  List.filterMap_cons_none other

/-- A file packet is an item. -/
theorem fileItems_item {outcome : Outcome} {packet : Packet} {item : Item (List Nat) UInt8}
    (given : fileItem outcome packet = some item) (arrivals : List (Packet × Outcome)) :
    fileItems ((packet, outcome) :: arrivals) = item :: fileItems arrivals :=
  List.filterMap_cons_some given

/-- What arrives is taken as the items that it is. -/
theorem recvThreadLoop_run {file : IncomingFile} (counted : file.Counted)
    (arrivals : List (Packet × Outcome)) :
    (recvThreadLoop file arrivals).1.intake =
        (filePolicy.run file.intake (fileItems arrivals)).1 ∧
      (receivedFiles file arrivals).map readSender =
        (filePolicy.run file.intake (fileItems arrivals)).2 ∧
      (recvThreadLoop file arrivals).1.Counted := by
  induction arrivals generalizing file with
  | nil => exact ⟨rfl, rfl, counted⟩
  | cons arrival arrivals ih =>
    obtain ⟨packet, outcome⟩ := arrival
    cases given : fileItem outcome packet with
    | none =>
      obtain ⟨same, quiet⟩ := @recvThread_other outcome file packet given
      rw [fileItems_other given, receivedFiles, quiet, List.nil_append, same]
      change (recvThreadLoop (recvThread outcome file packet).1 arrivals).1.intake = _ ∧ _ ∧
        (recvThreadLoop (recvThread outcome file packet).1 arrivals).1.Counted
      rw [same]
      exact ih counted
    | some item =>
      obtain ⟨taken, reported, counts⟩ := recvThread_item counted given
      obtain ⟨slot, files, later⟩ := ih counts
      rw [fileItems_item given, Policy.run_cons, receivedFiles, List.map_append, reported, files,
        ← taken]
      exact ⟨slot, rfl, later⟩

/-- One more packet arrives. -/
theorem recvThreadLoop_concat (file : IncomingFile) (front : List (Packet × Outcome))
    (packet : Packet) (outcome : Outcome) :
    (recvThreadLoop file (front ++ [(packet, outcome)])).1 =
      (recvThread outcome (recvThreadLoop file front).1 packet).1 := by
  induction front generalizing file with
  | nil => rfl
  | cons arrival front ih => exact ih (recvThread arrival.2 file arrival.1).1

/-- Nothing is stored without a transfer. -/
theorem counted_noTransfer : noTransfer.Counted := nofun

end Client

/-! ## The gateway -/

namespace Web

/-- `ClientSession` as a receiver of announced contents. -/
def filePolicy : Policy where
  keeps := true
  agrees received announced := received = announced

/-- The incoming file. -/
def ClientSession.intake (session : ClientSession) : Option (Intake (List Nat) UInt8) :=
  session.incomingFile.map fun file => ⟨file.sender, file.expectedSize, file.chunks.flatten⟩

/-- What a packet is to the incoming file, if anything. -/
def fileItem (packet : Packet) : Option (Item (List Nat) UInt8) :=
  match MessageType.ofCode? packet.type with
  | some .msgFileBegin =>
    some (match decodeFileBeginPayload packet.payload with
      | .ok (_, filesize) =>
        if filesize > fileTransferMaxBytes then .refused
        else .opening (readFixedCString packet.sender.toList) filesize
      | .error _ => .refused)
  | some .msgFileChunk => some (.piece packet.payload)
  | some .msgFileEnd => some .closing
  | _ => none

/-- What packets are to the incoming file. -/
def fileItems (packets : List Packet) : List (Item (List Nat) UInt8) := packets.filterMap fileItem

/-- The file that a notice reports, with its sender. -/
def Notice.file? : Notice → Option (List Nat × List UInt8)
  | .fileReceived sender _ data => some (sender, data)
  | _ => none

/-- The files that the browser has been told of between two states of a session. -/
def ClientSession.noticedFiles (session session' : ClientSession) : List (List Nat × List UInt8) :=
  (session.noticed session').filterMap Notice.file?

/-- The browser was told of these files, and nothing was taken back. -/
def ClientSession.Told (session session' : ClientSession) (files : List (List Nat × List UInt8)) :
    Prop :=
  ∃ told, session'.notices = session.notices ++ told ∧ told.filterMap Notice.file? = files

namespace ClientSession

variable {session middle session' : ClientSession} {files later : List (List Nat × List UInt8)}

/-- What was told was noticed. -/
theorem Told.noticed (told : session.Told session' files) : session.noticedFiles session' = files := by
  obtain ⟨notices, added, same⟩ := told
  rw [noticedFiles, ClientSession.noticed, added, List.drop_left, same]

/-- One is told after the other. -/
theorem Told.trans (first : session.Told middle files) (second : middle.Told session' later) :
    session.Told session' (files ++ later) := by
  obtain ⟨early, added, rfl⟩ := first
  obtain ⟨late, more, rfl⟩ := second
  exact ⟨early ++ late, by rw [more, added, List.append_assoc], List.filterMap_append⟩

/-- Nothing is told. -/
theorem told_nothing (same : session'.notices = session.notices) : session.Told session' [] :=
  ⟨[], by rw [same, List.append_nil], rfl⟩

/-- A notice that reports no file is told. -/
theorem told_quiet {notice : Notice} (same : session'.notices = session.notices ++ [notice])
    (quiet : notice.file? = none) : session.Told session' [] :=
  ⟨[notice], same, by rw [List.filterMap_cons_none quiet, List.filterMap_nil]⟩

/-- A file is told. -/
theorem told_file {sender filename : List Nat} {data : List UInt8}
    (same : session'.notices = session.notices ++ [.fileReceived sender filename data]) :
    session.Told session' [(sender, data)] := ⟨_, same, rfl⟩

/-- A header opens the slot or leaves it as it is. -/
theorem handleIncomingFileBegin_intake (session : ClientSession) (packet : ReceivedPacket) :
    (session.handleIncomingFileBegin packet).intake =
        (filePolicy.take session.intake (match decodeFileBeginPayload packet.data with
          | .ok (_, filesize) =>
            if filesize > fileTransferMaxBytes then .refused
            else .opening packet.sender filesize
          | .error _ => .refused)).1 ∧
      session.Told (session.handleIncomingFileBegin packet) [] := by
  unfold handleIncomingFileBegin
  cases decodeFileBeginPayload packet.data with
  | error message => exact ⟨rfl, told_quiet rfl rfl⟩
  | ok header =>
    dsimp only
    by_cases large : header.2 > fileTransferMaxBytes
    · rw [if_pos large, if_pos large]
      exact ⟨rfl, told_quiet rfl rfl⟩
    · rw [if_neg large, if_neg large]
      exact ⟨rfl, told_quiet rfl rfl⟩

/-- A chunk is added to the slot. -/
theorem handleIncomingFileChunk_intake (session : ClientSession) (packet : ReceivedPacket) :
    (session.handleIncomingFileChunk packet).intake =
        (filePolicy.take session.intake (.piece packet.data)).1 ∧
      session.Told (session.handleIncomingFileChunk packet) [] := by
  unfold handleIncomingFileChunk
  cases open_ : session.incomingFile with
  | none =>
    rw [intake, open_]
    exact ⟨rfl, told_nothing rfl⟩
  | some file =>
    refine ⟨?_, told_quiet rfl rfl⟩
    rw [intake, intake, open_]
    change some (⟨file.sender, file.expectedSize, (file.chunks ++ [packet.data]).flatten⟩ :
      Intake (List Nat) UInt8) = _
    rw [List.flatten_append, List.flatten_singleton]
    rfl

/-- The end frees the slot and reports what the slot reports. -/
theorem handleIncomingFileEnd_intake (session : ClientSession) :
    session.handleIncomingFileEnd.intake = none ∧
      session.Told session.handleIncomingFileEnd (filePolicy.report session.intake).toList := by
  unfold handleIncomingFileEnd
  cases open_ : session.incomingFile with
  | none =>
    rw [intake, open_]
    exact ⟨rfl, told_nothing rfl⟩
  | some file =>
    rw [intake, intake, open_, Option.map_some, Policy.report, Option.bind_some]
    dsimp only
    by_cases whole : file.chunks.flatten.length = file.expectedSize
    · have agrees : filePolicy.agrees file.chunks.flatten.length file.expectedSize = true :=
        decide_eq_true whole
      rw [if_neg (not_not_intro whole), if_pos agrees]
      exact ⟨rfl, told_file rfl⟩
    · have differs : ¬ filePolicy.agrees file.chunks.flatten.length file.expectedSize = true :=
        fun agrees => whole (of_decide_eq_true agrees)
      rw [if_pos whole, if_neg differs]
      exact ⟨rfl, told_quiet rfl rfl⟩

/-- A file packet is taken as the item that it is. -/
theorem handlePacket_item {packet : Packet} {item : Item (List Nat) UInt8}
    (given : fileItem packet = some item) :
    ∃ session', session.handlePacket (packetOfFrame (wire packet)) = some session' ∧
      session'.intake = (filePolicy.take session.intake item).1 ∧
      session.Told session' (filePolicy.take session.intake item).2.toList := by
  rw [packetOfFrame_eq, handlePacket, receivedFrom]
  unfold fileItem at given
  split at given
  · rename_i begin_
    rw [begin_, ← Option.some.inj given]
    obtain ⟨taken, told⟩ := session.handleIncomingFileBegin_intake (receivedFrom packet)
    refine ⟨_, rfl, taken, ?_⟩
    split
    · split <;> exact told
    · exact told
  · rename_i chunk
    rw [chunk, ← Option.some.inj given]
    exact ⟨_, rfl, session.handleIncomingFileChunk_intake (receivedFrom packet)⟩
  · rename_i end_
    rw [end_, ← Option.some.inj given]
    exact ⟨_, rfl, session.handleIncomingFileEnd_intake⟩
  · contradiction

/-- A reply leaves the incoming file alone and reports no file. -/
theorem handleCommandResponse_passes (session : ClientSession) (packet : ReceivedPacket) :
    (session.handleCommandResponse packet).incomingFile = session.incomingFile ∧
      session.Told (session.handleCommandResponse packet) [] := by
  unfold handleCommandResponse
  cases session.pendingResponses.head? with
  | none =>
    dsimp only
    split <;> exact ⟨rfl, told_quiet rfl rfl⟩
  | some pending =>
    cases pending with
    | auth action username =>
      dsimp only
      split <;> exact ⟨rfl, told_quiet rfl rfl⟩
    | status action =>
      cases action with
      | logout =>
        dsimp only
        obtain ⟨sockets, closed⟩ := closeTcp_eq
          ({ session with
              pendingResponses := session.pendingResponses.tail, loggedIn := false, username := [],
              groupsById := [] }.send (.status "logged_out"
                (some (packet.type = MessageType.msgOk.code)) none (packetText packet))) false
        rw [closed]
        exact ⟨rfl, told_quiet rfl rfl⟩
      | _ =>
        dsimp only
        split <;> exact ⟨rfl, told_quiet rfl rfl⟩

/-- Another packet leaves the incoming file alone and reports no file. -/
theorem handlePacket_passes {packet : Packet} (other : fileItem packet = none)
    (handled : session.handlePacket (packetOfFrame (wire packet)) = some session') :
    session'.incomingFile = session.incomingFile ∧ session.Told session' [] := by
  have type_ : (receivedFrom packet).type = packet.type := rfl
  rw [packetOfFrame_eq, handlePacket, type_] at handled
  unfold fileItem at other
  cases selected : MessageType.ofCode? packet.type with
  | none =>
    rw [selected] at handled
    cases handled
    exact ⟨rfl, told_quiet rfl rfl⟩
  | some type =>
    rw [selected] at other handled
    cases type with
    | msgFileBegin => contradiction
    | msgFileChunk => contradiction
    | msgFileEnd => contradiction
    | msgOk =>
      cases handled
      exact session.handleCommandResponse_passes _
    | msgError =>
      cases handled
      exact session.handleCommandResponse_passes _
    | msgGroupList =>
      obtain ⟨groups, _, rest⟩ := Option.bind_eq_some_iff.mp handled
      obtain ⟨groupsById, same⟩ := foldl_setGroup_eq { session with groupsById := [] } groups
      rw [same] at rest
      cases rest
      exact ⟨rfl, told_quiet rfl rfl⟩
    | msgGroupEvent =>
      obtain ⟨⟨event, group⟩, _, rest⟩ := Option.bind_eq_some_iff.mp handled
      cases rest
      exact ⟨rfl, told_quiet rfl rfl⟩
    | msgGroupMessage =>
      obtain ⟨⟨groupId, groupName, text⟩, _, rest⟩ := Option.bind_eq_some_iff.mp handled
      cases rest
      exact ⟨rfl, told_quiet rfl rfl⟩
    | _ =>
      cases handled
      exact ⟨rfl, told_quiet rfl rfl⟩

/-- Packets are handled one after the other. -/
theorem handlePackets_bind (session : ClientSession) (packet : ReceivedPacket)
    (packets : List ReceivedPacket) :
    (session.handlePackets (packet :: packets)).2 =
      (session.handlePacket packet).bind fun session => (session.handlePackets packets).2 := by
  rw [handlePackets]
  cases session.handlePacket packet <;> rfl

/-- Packets are handled after others. -/
theorem handlePackets_append (session : ClientSession) (packets later : List ReceivedPacket) :
    (session.handlePackets (packets ++ later)).2 =
      (session.handlePackets packets).2.bind fun session => (session.handlePackets later).2 := by
  induction packets generalizing session with
  | nil => rfl
  | cons packet packets ih =>
    rw [List.cons_append, handlePackets_bind, handlePackets_bind, Option.bind_assoc]
    exact congrArg _ (funext ih)

/-- Packets that are handled are taken as the items that they are. -/
theorem handlePackets_run {packets : List Packet}
    (handled : (session.handlePackets (packets.map fun packet => packetOfFrame (wire packet))).2 =
      some session') :
    session'.intake = (filePolicy.run session.intake (fileItems packets)).1 ∧
      session.Told session' (filePolicy.run session.intake (fileItems packets)).2 := by
  induction packets generalizing session with
  | nil =>
    obtain rfl : session = session' := Option.some.inj handled
    exact ⟨rfl, told_nothing rfl⟩
  | cons packet packets ih =>
    rw [List.map_cons, handlePackets_bind, Option.bind_eq_some_iff] at handled
    obtain ⟨middle, first, rest⟩ := handled
    obtain ⟨slot, files⟩ := ih rest
    cases given : fileItem packet with
    | none =>
      obtain ⟨same, quiet⟩ := handlePacket_passes given first
      have kept : middle.intake = session.intake := by rw [intake, intake, same]
      rw [fileItems, List.filterMap_cons_none given, ← kept]
      exact ⟨slot, quiet.trans files⟩
    | some item =>
      obtain ⟨_, done, taken, told⟩ := handlePacket_item given
      obtain rfl := Option.some.inj (done.symm.trans first)
      rw [fileItems, List.filterMap_cons_some given, Policy.run_cons, ← taken]
      exact ⟨slot, told.trans files⟩

/-- Packets whose payloads have their forms are all handled. -/
theorem handlePackets_survives (session : ClientSession) {packets : List Packet}
    (formed : ∀ packet ∈ packets, GroupWellFormed (packetOfFrame (wire packet))) :
    ∃ session', (session.handlePackets (packets.map fun packet => packetOfFrame (wire packet))).2 =
      some session' := by
  have contained : session.PacketsContained
      (packets.map fun packet => packetOfFrame (wire packet)) := by
    rw [packetsContained_iff]
    intro received member
    obtain ⟨packet, given, rfl⟩ := List.mem_map.mp member
    exact formed packet given
  obtain ⟨session', handled, _⟩ := handlePackets_contained contained
  exact ⟨session', by rw [handled]⟩

end ClientSession

/-- A file packet has no group payload. -/
theorem groupWellFormed_of_ofFile {packet : Packet} (file : packet.OfFile) :
    GroupWellFormed (packetOfFrame (wire packet)) := by
  rw [packetOfFrame_eq]
  have type_ : (receivedFrom packet).type = packet.type := rfl
  refine ⟨?_, ?_, ?_⟩ <;> rw [type_] <;> intro group <;> exfalso <;>
    rcases file with same | same | same <;> rw [same] at group <;> revert group <;> decide

end Web

/-- The packets of a transfer of two bytes are of a file. -/
theorem pair_ofFile (sender : String) (byte : UInt8) :
    (pairHeader sender).OfFile ∧ (pairChunk sender byte).OfFile ∧ (pairLast sender).OfFile :=
  ⟨.inl (pairTransfer sender byte).header_type,
    .inr (.inl ((pairTransfer sender byte).chunks_type _ (List.mem_singleton_self _))),
    .inr (.inr (pairTransfer sender byte).last_type)⟩

end MultiUserChat
