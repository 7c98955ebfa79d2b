import MultiUserChat.Library.Lists
import MultiUserChat.Verif.DownloadPaths
import MultiUserChat.Verif.IncomingFiles
/-!
# The C client and the gateway as receivers of files

When its file operations succeed, the C client accepts the headers that the gateway accepts and reads
the same senders, sizes and chunks. The two are then receivers of the same items that differ in their
policies, and report the same files as long as no header is refused while a transfer is active and no
transfer gathers `2 ^ 64` bytes.
-/

namespace MultiUserChat

/-! ## Names and sizes -/

/-- The name of a file before its last component ends in no slash, so a component is left. -/
theorem baseFilename_length_pos {path : CString} (given : 0 < path.length)
    (component : path.bytes.getLast? ≠ some 0x2f) : 0 < (baseFilename path).length := by
  have last : 0 < (path.bytes.reverse.takeWhile (· ≠ 0x2f)).length := by
    rw [← List.head?_reverse] at component
    cases reversed : path.bytes.reverse with
    | nil =>
      rw [List.reverse_eq_nil_iff] at reversed
      rw [CString.length, reversed] at given
      contradiction
    | cons byte rest =>
      rw [reversed, List.head?_cons, Ne, Option.some.injEq] at component
      rw [List.takeWhile_cons_of_pos (by simpa using component)]
      exact Nat.succ_pos _
  have bound : (path.bytes.reverse.takeWhile (· ≠ 0x2f)).length ≤ path.bytes.length := by
    exact (List.takeWhile_sublist _).length_le.trans_eq List.length_reverse
  change 0 < (path.bytes.drop _).length
  rw [List.length_drop]
  unfold CString.length
  omega

/-- The name of the file that a header announces, up to its first NUL. -/
def Packet.announcedName (packet : Packet) : CString :=
  CString.ofBytes (packet.payload.take fileNameMaxLen)

/-- A header of the right length announces a name of 1 to 255 bytes that does not end in a slash. -/
def Packet.NamesFile (packet : Packet) : Prop :=
  packet.type = MessageType.msgFileBegin.code → packet.length = fileNameMaxLen + 8 →
    0 < packet.announcedName.length ∧ packet.announcedName.length < fileNameMaxLen ∧
      packet.announcedName.bytes.getLast? ≠ some 0x2f

/-- What the C client reads from a header of the right length. -/
theorem ofData_eq {packet : Packet} (framed : packet.length = fileNameMaxLen + 8)
    (short : packet.announcedName.length < fileNameMaxLen) :
    (Client.FileBeginPayload.ofData packet.data.toList).filename = packet.announcedName ∧
      (Client.FileBeginPayload.ofData packet.data.toList).filesize.toNat =
        fromBigEndian (packet.payload.drop fileNameMaxLen).reverse := by
  have size : packet.payload.length = fileNameMaxLen + 8 := packet.payload_length.trans framed
  have whole : packet.data.toList = packet.payload ++ List.replicate (packetDataMax - packet.length) 0 :=
    packet.data_eq
  constructor
  · have name : packet.data.toList.take fileNameMaxLen = packet.payload.take fileNameMaxLen := by
      rw [whole, List.take_append_of_le_length (by rw [size]; exact Nat.le_add_right _ _)]
    apply CString.ext
    change ((packet.data.toList.take fileNameMaxLen).set (fileNameMaxLen - 1) 0).takeWhile (· ≠ 0) = _
    rw [name]
    exact takeWhile_set_behind (by decide) (Nat.le_sub_one_of_lt short)
  · have bytes : (packet.data.toList.drop fileNameMaxLen).take 8 =
        packet.payload.drop fileNameMaxLen := by
      rw [whole, List.drop_append_of_le_length (by rw [size]; exact Nat.le_add_right _ _),
        List.take_append_of_le_length (by rw [List.length_drop, size]; omega),
        List.take_of_length_le (by rw [List.length_drop, size]; omega)]
    have bound := fromBigEndian_lt (packet.payload.drop fileNameMaxLen).reverse
    rw [List.length_reverse, List.length_drop, size] at bound
    change (UInt64.ofNat (fromBigEndian ((packet.data.toList.drop fileNameMaxLen).take 8).reverse)).toNat
      = _
    rw [bytes, UInt64.toNat_ofNat']
    exact Nat.mod_eq_of_lt bound

/-! ## Files that can be stored -/

namespace Client

/-- The file operations for a packet succeed: the directory can be used, there is memory for the
candidates and one of them is free, `fopen` succeeds and `fwrite` takes the whole chunk. -/
structure Outcome.Succeeds (outcome : Outcome) (packet : Packet) : Prop where
  /-- The directory is there or can be made. -/
  usable : ensureDirectory (CString.ofString "downloads") outcome.download.directory = true
  /-- Every `malloc` succeeds. -/
  memory : ∀ turn, outcome.download.allocated turn = true
  /-- A path for the file is free. -/
  free : ∃ number < 1000, outcome.download.present
    (downloadPath (CString.ofString "downloads") packet.senderName
      (FileBeginPayload.ofData packet.data.toList).filename number) = false
  /-- `fopen` succeeds. -/
  opened : outcome.opened = true
  /-- `fwrite` takes what it is given. -/
  written : outcome.taken.any (· < packet.length) = false

/-- The name of a sender fits its array. -/
theorem senderName_fits (packet : Packet) : packet.senderName.length < usernameMaxLen := by
  have whole : packet.sender.toList.length = usernameMaxLen := packet.sender.toList_length
  have terminated := packet.sender_terminated
  by_contra long
  have all : (packet.sender.toList.takeWhile (· ≠ 0)) = packet.sender.toList :=
    (List.takeWhile_prefix _).eq_of_length_le (by rw [whole]; exact Nat.le_of_not_lt long)
  have member : (0 : UInt8) ∈ packet.sender.toList.takeWhile (· ≠ 0) := by
    rw [all]
    exact List.mem_of_getElem? terminated
  simpa using List.mem_takeWhile_imp member

/-- A header of the right length and an allowed size opens a transfer. -/
theorem handleFileBegin_succeeds {outcome : Outcome} {packet : Packet}
    (succeeds : outcome.Succeeds packet) (named : 0 < packet.senderName.length)
    (framed : packet.length = fileNameMaxLen + 8) (names : 0 < packet.announcedName.length ∧
      packet.announcedName.length < fileNameMaxLen ∧
      packet.announcedName.bytes.getLast? ≠ some 0x2f)
    (small : (FileBeginPayload.ofData packet.data.toList).filesize.toNat ≤ fileTransferMaxBytes) :
    (handleFileBegin outcome packet).1.active = true ∧
      (handleFileBegin outcome packet).1.sender.toCString = packet.senderName ∧
      (handleFileBegin outcome packet).1.expectedSize =
        (FileBeginPayload.ofData packet.data.toList).filesize := by
  obtain ⟨given, short, component⟩ := names
  have name := (ofData_eq framed short).1
  have sender := senderName_fits packet
  have directory : (CString.ofString "downloads").length = 9 := by decide
  have array : usernameMaxLen = 32 := rfl
  obtain ⟨path, found⟩ := @buildUniqueDownloadPath_isSome outcome.download
    (CString.ofString "downloads") packet.senderName
    (FileBeginPayload.ofData packet.data.toList).filename 512 succeeds.usable succeeds.memory named
    (by rw [name]; exact baseFilename_length_pos given component)
    (fun number inside => by
      have bound := downloadPath_length_le (CString.ofString "downloads") packet.senderName
        (FileBeginPayload.ofData packet.data.toList).filename inside
      omega)
    succeeds.free
  have allowed : ¬ (FileBeginPayload.ofData packet.data.toList).filesize >
      UInt64.ofNat fileTransferMaxBytes :=
    UInt64.not_lt.mpr (UInt64.le_iff_toNat_le.mpr small)
  unfold handleFileBegin
  dsimp only
  rw [if_neg (not_not_intro framed), if_neg allowed, found]
  dsimp only
  rw [if_neg (by simp [succeeds.opened])]
  exact ⟨rfl, copyFixed_toCString sender, rfl⟩

end Client

/-- A file packet of a named sender that the C client can store. -/
structure Client.Storable (outcome : Client.Outcome) (packet : Packet) : Prop where
  /-- The file operations succeed. -/
  succeeds : outcome.Succeeds packet
  /-- The sender has a name. -/
  named : 0 < packet.senderName.length
  /-- A header names a file. -/
  names : packet.NamesFile

/-- The C client and the gateway take a packet alike. -/
theorem fileItem_eq {outcome : Client.Outcome} {packet : Packet}
    (storable : packet.OfFile → Client.Storable outcome packet) :
    Client.fileItem outcome packet = Web.fileItem packet := by
  unfold Client.fileItem Web.fileItem
  cases selected : MessageType.ofCode? packet.type with
  | none => rfl
  | some type =>
    cases type with
    | msgFileBegin =>
      have begin_ := MessageType.code_of_ofCode? selected
      obtain ⟨succeeds, named, names⟩ := storable (.inl begin_.symm)
      dsimp only
      congr 1
      by_cases framed : packet.length = fileNameMaxLen + 8
      · have valid := names begin_.symm framed
        have size := (ofData_eq framed valid.2.1).2
        have decoded : Web.decodeFileBeginPayload packet.payload =
            .ok (Web.readFixedCString (packet.payload.take fileNameMaxLen),
              fromBigEndian (packet.payload.drop fileNameMaxLen).reverse) := by
          rw [Web.decodeFileBeginPayload, if_neg (not_not_intro (packet.payload_length.trans framed))]
        rw [decoded, ← size]
        dsimp only
        by_cases small : (Client.FileBeginPayload.ofData packet.data.toList).filesize.toNat ≤
            fileTransferMaxBytes
        · obtain ⟨active, sender, expected⟩ :=
            Client.handleFileBegin_succeeds succeeds named framed valid small
          rw [if_pos active, if_neg (Nat.not_lt.mpr small), sender, expected]
          rfl
        · have large : (Client.FileBeginPayload.ofData packet.data.toList).filesize >
              UInt64.ofNat fileTransferMaxBytes :=
            UInt64.not_le.mp fun le => small (UInt64.le_iff_toNat_le.mp le)
          have idle : (Client.handleFileBegin outcome packet).1.active = false := by
            rw [Client.handleFileBegin, if_neg (not_not_intro framed)]
            dsimp only
            rw [if_pos large]
          rw [if_neg (by simp [idle]), if_pos (Nat.not_le.mp small)]
      · have idle : (Client.handleFileBegin outcome packet).1.active = false := by
          rw [Client.handleFileBegin, if_pos framed]
        have refused : Web.decodeFileBeginPayload packet.payload =
            .error (Web.literal "invalid file begin payload") := by
          rw [Web.decodeFileBeginPayload, if_pos (by rwa [packet.payload_length])]
        rw [if_neg (by simp [idle]), refused]
    | msgFileChunk =>
      have chunk := MessageType.code_of_ofCode? selected
      dsimp only
      rw [if_neg (by simp [(storable (.inr (.inl chunk.symm))).succeeds.written])]
    | _ => rfl

/-- The two receivers take the same items from packets that the C client can store. -/
theorem fileItems_eq {arrivals : List (Packet × Client.Outcome)}
    (storable : ∀ arrival ∈ arrivals, arrival.1.OfFile → Client.Storable arrival.2 arrival.1) :
    Client.fileItems arrivals = Web.fileItems (arrivals.map Prod.fst) := by
  rw [Web.fileItems, List.filterMap_map, Client.fileItems]
  exact List.filterMap_congr fun arrival member => fileItem_eq (storable arrival member)

/-- A header that the gateway does not accept is an opening that is refused. -/
theorem fileItem_refused {packet : Packet} (refused : Web.fileItem packet = some .refused) :
    packet.type = MessageType.msgFileBegin.code ∧ Web.acceptsHeader packet = false := by
  unfold Web.fileItem at refused
  split at refused
  · rename_i begin_
    refine ⟨(MessageType.code_of_ofCode? begin_).symm, ?_⟩
    unfold Web.acceptsHeader
    cases decoded : Web.decodeFileBeginPayload packet.payload with
    | error message => rfl
    | ok header =>
      obtain ⟨filename, filesize⟩ := header
      rw [decoded] at refused
      dsimp only at refused ⊢
      split at refused
      · rename_i large
        simpa using large
      · simp at refused
  all_goals simp at refused

/-- A packet that finds the C client's transfer does not set the two receivers apart: a header that is
refused finds no transfer, and a transfer has gathered less than `2 ^ 64` bytes. -/
structure Client.IncomingFile.Steady (file : Client.IncomingFile) (packet : Packet) : Prop where
  /-- A header that is refused finds no transfer. -/
  refused : packet.type = MessageType.msgFileBegin.code → Web.acceptsHeader packet = false →
    file.active = false
  /-- A transfer that ends has gathered less than `2 ^ 64` bytes. -/
  counted : packet.type = MessageType.msgFileEnd.code → ∀ content, file.stored = some content →
    content.length < 2 ^ 64

/-- The two receivers then do the same with the packet. -/
theorem unison_of_steady {file : Client.IncomingFile} {packet : Packet}
    {item : Item (List Nat) UInt8} (given : Web.fileItem packet = some item)
    (steady : file.Steady packet) :
    Unison Client.filePolicy Web.filePolicy file.intake item := by
  cases item with
  | opening => trivial
  | refused =>
    obtain ⟨begin_, refused⟩ := fileItem_refused given
    have idle := steady.refused begin_ refused
    refine .inr ?_
    rw [Client.IncomingFile.intake, Client.IncomingFile.stored, idle]
    rfl
  | piece => trivial
  | broken => trivial
  | closing =>
    have end_ : packet.type = MessageType.msgFileEnd.code := by
      unfold Web.fileItem at given
      split at given
      · split at given
        · split at given <;> simp at given
        · simp at given
      · simp at given
      · rename_i end_
        exact (MessageType.code_of_ofCode? end_).symm
      · contradiction
    change Client.filePolicy.report file.intake = Web.filePolicy.report file.intake
    rw [Client.IncomingFile.intake]
    cases stored : file.stored with
    | none => rfl
    | some content =>
      have small := steady.counted end_ content stored
      have agrees : Client.filePolicy.agrees content.length file.expectedSize.toNat =
          Web.filePolicy.agrees content.length file.expectedSize.toNat := by
        refine decide_eq_decide.mpr ?_
        rw [← UInt64.toNat_inj, UInt64.toNat_ofNat', UInt64.toNat_ofNat', Nat.mod_eq_of_lt small,
          Nat.mod_eq_of_lt file.expectedSize.toNat_lt]
      rw [Option.map_some, Policy.report, Policy.report, Option.bind_some, Option.bind_some, agrees]

/-- Everything succeeds for every packet. -/
theorem plainOutcome_succeeds (packet : Packet) : plainOutcome.Succeeds packet where
  usable := by decide
  memory _ := rfl
  free := ⟨0, by decide, rfl⟩
  opened := rfl
  written := rfl

/-- The packets of a transfer of two bytes meet what is asked of packets. -/
theorem pair_valid : ∀ packet ∈ [pairHeader "a", pairChunk "a" 1, pairLast "a"],
    packet.OfFile ∧ Client.Storable plainOutcome packet := by
  obtain ⟨header, chunk, last⟩ := pair_ofFile "a" 1
  have name : 0 < (pairHeader "a").announcedName.length ∧
      (pairHeader "a").announcedName.length < fileNameMaxLen ∧
      (pairHeader "a").announcedName.bytes.getLast? ≠ some 0x2f := by decide +kernel
  have chunk_type := (pairTransfer "a" 1).chunks_type (pairChunk "a" 1) (List.mem_singleton_self _)
  have last_type : (pairLast "a").type = _ := (pairTransfer "a" 1).last_type
  simp only [List.forall_mem_cons, List.not_mem_nil, false_imp_iff, implies_true, and_true]
  refine ⟨⟨header, plainOutcome_succeeds _, by decide +kernel, fun _ _ => name⟩,
    ⟨chunk, plainOutcome_succeeds _, by decide +kernel, fun begin_ => ?_⟩,
    last, plainOutcome_succeeds _, by decide +kernel, fun begin_ => ?_⟩
  · rw [chunk_type] at begin_
    exact absurd begin_ (by decide)
  · rw [last_type] at begin_
    exact absurd begin_ (by decide)

/-- Each of these packets finds the C client's transfer steady. -/
theorem pair_steady (front : List (Packet × Client.Outcome)) (arrival : Packet × Client.Outcome)
    (front_of : front ++ [arrival] <+:
      [pairHeader "a", pairChunk "a" 1, pairLast "a"].map (·, plainOutcome)) :
    (Client.recvThreadLoop noTransfer front).1.Steady arrival.1 := by
  have header_type := (pairTransfer "a" 1).header_type
  have chunk_type := (pairTransfer "a" 1).chunks_type (pairChunk "a" 1) (List.mem_singleton_self _)
  have last_type := (pairTransfer "a" 1).last_type
  have accepted : Web.acceptsHeader (pairHeader "a") = true := by decide +kernel
  rcases List.prefix_concat_iff.mp (show front ++ [arrival] <+:
      [(pairHeader "a", plainOutcome), (pairChunk "a" 1, plainOutcome)] ++
        [(pairLast "a", plainOutcome)] from front_of) with same | front_of
  · obtain ⟨rfl, last⟩ := List.append_inj' same rfl
    obtain rfl := List.singleton_inj.mp last
    refine ⟨fun begin_ => absurd (last_type.symm.trans begin_) (by decide), fun _ content stored => ?_⟩
    have gathered : (Client.recvThreadLoop noTransfer
        [(pairHeader "a", plainOutcome), (pairChunk "a" 1, plainOutcome)]).1.stored =
          some [1, 1] := by decide +kernel
    rw [gathered] at stored
    obtain rfl := Option.some.inj stored
    decide
  rcases List.prefix_concat_iff.mp (show front ++ [arrival] <+:
      [(pairHeader "a", plainOutcome)] ++ [(pairChunk "a" 1, plainOutcome)] from front_of)
    with same | front_of
  · obtain ⟨rfl, last⟩ := List.append_inj' same rfl
    obtain rfl := List.singleton_inj.mp last
    exact ⟨fun begin_ => absurd (chunk_type.symm.trans begin_) (by decide),
      fun end_ => absurd (chunk_type.symm.trans end_) (by decide)⟩
  rcases List.prefix_concat_iff.mp (show front ++ [arrival] <+:
      [] ++ [(pairHeader "a", plainOutcome)] from front_of) with same | front_of
  · obtain ⟨rfl, last⟩ := List.append_inj' same rfl
    obtain rfl := List.singleton_inj.mp last
    exact ⟨fun _ refused => absurd (accepted.symm.trans refused) (by decide),
      fun end_ => absurd (header_type.symm.trans end_) (by decide)⟩
  · exact absurd (List.prefix_nil.mp front_of) (by simp)

/-- The C client and the gateway report the same files from the same senders, as long as every header
that is refused finds no transfer and no transfer gathers `2 ^ 64` bytes. -/
theorem receivedFiles_agree (session : Web.ClientSession) (arrivals : List (Packet × Client.Outcome))
    (idle : session.incomingFile = none)
    (files : ∀ arrival ∈ arrivals, arrival.1.OfFile ∧ Client.Storable arrival.2 arrival.1)
    (steady : ∀ front arrival, front ++ [arrival] <+: arrivals →
      (Client.recvThreadLoop noTransfer front).1.Steady arrival.1) :
    ∃ session', (session.handlePackets (arrivals.map fun arrival =>
        Web.packetOfFrame (wire arrival.1))).2 = some session' ∧
      session.noticedFiles session' =
        (Client.receivedFiles noTransfer arrivals).map Client.readSender := by
  have frames : (arrivals.map fun arrival => Web.packetOfFrame (wire arrival.1)) =
      (arrivals.map Prod.fst).map fun packet => Web.packetOfFrame (wire packet) := by
    rw [List.map_map]
    rfl
  rw [frames]
  obtain ⟨session', handled⟩ := @Web.ClientSession.handlePackets_survives session
    (arrivals.map Prod.fst) (by
      intro packet member
      obtain ⟨arrival, given, rfl⟩ := List.mem_map.mp member
      exact Web.groupWellFormed_of_ofFile (files arrival given).1)
  refine ⟨session', handled, ?_⟩
  have items := fileItems_eq fun arrival member _ => (files arrival member).2
  have nothing : session.intake = noTransfer.intake := by
    rw [Web.ClientSession.intake, idle]
    rfl
  have same : Client.filePolicy.run noTransfer.intake (Client.fileItems arrivals) =
      Web.filePolicy.run noTransfer.intake (Client.fileItems arrivals) := by
    refine run_eq_of_unison fun front item front_of => ?_
    -- The items in front are those of the packets in front, after which the transfer is known.
    obtain ⟨early, arrival, early_of, rfl, given⟩ := prefix_filterMap_concat front_of
    have storable := (files arrival (early_of.subset (by simp))).2
    have slot := (Client.recvThreadLoop_run Client.counted_noTransfer early).1
    rw [Client.fileItems] at slot
    rw [← slot]
    exact unison_of_steady (fileItem_eq (fun _ => storable) ▸ given) (steady early arrival early_of)
  rw [(Web.ClientSession.handlePackets_run handled).2.noticed, ← items, nothing, ← same,
    (Client.recvThreadLoop_run Client.counted_noTransfer arrivals).2.1]

/-- A transfer of two bytes that nothing interrupts is reported by both. -/
theorem receivedFiles_agree_pair : ∃ session',
    (({} : Web.ClientSession).handlePackets
      ([pairHeader "a", pairChunk "a" 1, pairLast "a"].map fun packet =>
        Web.packetOfFrame (wire packet))).2 = some session' ∧
      ({} : Web.ClientSession).noticedFiles session' = [([97], [1, 1])] := by
  have reported : (Client.receivedFiles noTransfer
      ([pairHeader "a", pairChunk "a" 1, pairLast "a"].map (·, plainOutcome))).map
        Client.readSender = [([97], [1, 1])] := by decide +kernel
  obtain ⟨session', handled, same⟩ := receivedFiles_agree {}
    ([pairHeader "a", pairChunk "a" 1, pairLast "a"].map (·, plainOutcome)) rfl
    (by
      intro arrival member
      obtain ⟨packet, given, rfl⟩ := List.mem_map.mp member
      exact pair_valid packet given)
    pair_steady
  rw [reported] at same
  exact ⟨session', handled, same⟩

/-- A header without a payload. -/
@[irreducible]
def emptyHeader : Packet :=
  request .msgFileBegin (CString.ofString "a") CString.empty [] (Nat.zero_le _)

/-- A header that is refused ends the C client's transfer and leaves the gateway's, so only the gateway
reports the file. -/
theorem receivedFiles_agree_refused :
    ¬ ∀ (session : Web.ClientSession) (arrivals : List (Packet × Client.Outcome)),
      session.incomingFile = none →
      (∀ arrival ∈ arrivals, arrival.1.OfFile ∧ Client.Storable arrival.2 arrival.1) →
      ∃ session', (session.handlePackets (arrivals.map fun arrival =>
          Web.packetOfFrame (wire arrival.1))).2 = some session' ∧
        session.noticedFiles session' =
          (Client.receivedFiles noTransfer arrivals).map Client.readSender := by
  intro agree
  obtain ⟨header, chunk, last⟩ := And.intro (pair_valid (pairHeader "a") (by simp))
    (And.intro (pair_valid (pairChunk "a" 1) (by simp)) (pair_valid (pairLast "a") (by simp)))
  have empty : emptyHeader.OfFile ∧ Client.Storable plainOutcome emptyHeader := by
    have length : emptyHeader.length = 0 := by decide +kernel
    refine ⟨.inl ?_, plainOutcome_succeeds _, by decide +kernel, fun _ framed => ?_⟩
    · rw [emptyHeader, request_type]
    · rw [length] at framed
      exact absurd framed (by decide)
  obtain ⟨session', handled, same⟩ := agree {}
    ([pairHeader "a", emptyHeader, pairChunk "a" 1, pairLast "a"].map (·, plainOutcome)) rfl (by
      simp only [List.forall_mem_map, List.forall_mem_cons, List.not_mem_nil, false_imp_iff,
        implies_true, and_true]
      exact ⟨header, empty, chunk, last⟩)
  have gateway : (Web.filePolicy.run ({} : Web.ClientSession).intake (Web.fileItems
      [pairHeader "a", emptyHeader, pairChunk "a" 1, pairLast "a"])).2 = [([97], [1, 1])] := by
    decide +kernel
  have client : (Client.receivedFiles noTransfer
      ([pairHeader "a", emptyHeader, pairChunk "a" 1, pairLast "a"].map (·, plainOutcome))).map
        Client.readSender = [] := by decide +kernel
  have told := (@Web.ClientSession.handlePackets_run _ _
    [pairHeader "a", emptyHeader, pairChunk "a" 1, pairLast "a"] handled).2.noticed
  rw [client, told, gateway] at same
  exact List.cons_ne_nil _ _ same

end MultiUserChat
