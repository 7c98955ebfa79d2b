import MultiUserChat.Library.Lists
import MultiUserChat.Library.Transition
import MultiUserChat.Verif.IncomingFiles
/-!
# How much a transfer stores

Both receivers test the size announced when a transfer begins and the total when it ends, and store
every chunk in between. A transfer stays within the size announced exactly as long as each chunk that
is stored is no longer than what is left of it.
-/

namespace MultiUserChat

/-! ## The C client -/

namespace Client

/-- The active transfer has stored no more than was announced, and that is within the limit. -/
def IncomingFile.Bounded (file : IncomingFile) : Prop :=
  ∀ content, file.stored = some content →
    content.length ≤ file.expectedSize.toNat ∧ file.expectedSize.toNat ≤ fileTransferMaxBytes

/-- A chunk that is stored is no longer than what is left of the size announced. -/
def IncomingFile.HasRoom (file : IncomingFile) (outcome : Outcome) (packet : Packet) : Prop :=
  packet.type = MessageType.msgFileChunk.code → outcome.taken.any (· < packet.length) = false →
    ∀ content, file.stored = some content →
      content.length + packet.length ≤ file.expectedSize.toNat

/-- The bound is that of the slot. -/
theorem bounded_iff {file : IncomingFile} :
    file.Bounded ↔ Within fileTransferMaxBytes file.intake := by
  rw [IncomingFile.Bounded, Within, IncomingFile.intake]
  cases file.stored <;> simp

/-- A header that is accepted announces no more than the limit. -/
theorem handleFileBegin_modest {outcome : Outcome} {packet : Packet}
    (active : (handleFileBegin outcome packet).1.active = true) :
    (handleFileBegin outcome packet).1.expectedSize.toNat ≤ fileTransferMaxBytes := by
  unfold handleFileBegin at active ⊢
  dsimp only at active ⊢
  split at active
  · contradiction
  split at active
  · contradiction
  rename_i framed small
  have size : (FileBeginPayload.ofData packet.data.toList).filesize.toNat ≤ fileTransferMaxBytes :=
    UInt64.le_iff_toNat_le.mp (UInt64.not_lt.mp small)
  rw [if_neg framed, if_neg small]
  split
  · exact Nat.zero_le _
  · split
    · exact Nat.zero_le _
    · exact size

/-- Every header that opens the slot is modest. -/
theorem fileItem_modest {outcome : Outcome} {packet : Packet} {item : Item (List Nat) UInt8}
    (given : fileItem outcome packet = some item) : item.Modest fileTransferMaxBytes := by
  unfold fileItem at given
  split at given
  · rw [← Option.some.inj given]
    split
    · rename_i active
      exact handleFileBegin_modest active
    · trivial
  · rw [← Option.some.inj given]
    split <;> trivial
  · rw [← Option.some.inj given]
    trivial
  · contradiction

/-- A packet fits the slot when the client has room for it. -/
theorem fits_iff {outcome : Outcome} {file : IncomingFile} {packet : Packet}
    {item : Item (List Nat) UInt8} (given : fileItem outcome packet = some item) :
    Fits file.intake item ↔ file.HasRoom outcome packet := by
  have other {type : MessageType} (selected : MessageType.ofCode? packet.type = some type)
      (differs : type ≠ .msgFileChunk) : file.HasRoom outcome packet := fun chunk =>
    absurd (MessageType.eq_of_ofCode? selected chunk) differs
  unfold fileItem at given
  split at given
  · rename_i begin_
    rw [← Option.some.inj given]
    refine iff_of_true ?_ (other begin_ (by decide))
    split <;> trivial
  · rename_i chunk
    have type_ : packet.type = MessageType.msgFileChunk.code := (MessageType.code_of_ofCode? chunk).symm
    rw [← Option.some.inj given, IncomingFile.HasRoom]
    by_cases short : outcome.taken.any (· < packet.length) = true
    · rw [if_pos short]
      exact iff_of_true trivial fun _ whole => absurd whole (by simp [short])
    · rw [if_neg short]
      rw [Bool.not_eq_true] at short
      simp only [Fits, type_, short, IncomingFile.intake, Option.mem_def, Option.map_eq_some_iff,
        forall_exists_index, and_imp, forall_apply_eq_imp_iff₂, Packet.payload_length, true_imp_iff]
  · rename_i end_
    rw [← Option.some.inj given]
    exact iff_of_true trivial (other end_ (by decide))
  · contradiction

/-- A packet keeps the bound exactly when there is room for it. -/
theorem recvThread_bounded {outcome : Outcome} {file : IncomingFile} {packet : Packet}
    (counted : file.Counted) (bounded : file.Bounded) :
    (recvThread outcome file packet).1.Bounded ↔ file.HasRoom outcome packet := by
  cases given : fileItem outcome packet with
  | none =>
    refine iff_of_true ((recvThread_other given).1 ▸ bounded) fun chunk => ?_
    rw [fileItem, chunk, MessageType.ofCode?_code] at given
    contradiction
  | some item =>
    rw [bounded_iff, (recvThread_item counted given).1, ← fits_iff given]
    exact within_take (fileItem_modest given) (bounded_iff.mp bounded)

end Client

/-! ## The gateway -/

namespace Web

/-- The incoming file has no more bytes than were announced, and that is within the limit. -/
def ClientSession.Bounded (session : ClientSession) : Prop :=
  ∀ file, session.incomingFile = some file →
    file.chunks.flatten.length ≤ file.expectedSize ∧ file.expectedSize ≤ fileTransferMaxBytes

/-- A chunk is no longer than what is left of the size announced. -/
def ClientSession.HasRoom (session : ClientSession) (packet : Packet) : Prop :=
  packet.type = MessageType.msgFileChunk.code → ∀ file, session.incomingFile = some file →
    file.chunks.flatten.length + packet.length ≤ file.expectedSize

/-- The bound is that of the slot. -/
theorem bounded_iff {session : ClientSession} :
    session.Bounded ↔ Within fileTransferMaxBytes session.intake := by
  rw [ClientSession.Bounded, Within, ClientSession.intake]
  cases session.incomingFile <;> simp

/-- Every header that opens the slot is modest. -/
theorem fileItem_modest {packet : Packet} {item : Item (List Nat) UInt8}
    (given : fileItem packet = some item) : item.Modest fileTransferMaxBytes := by
  unfold fileItem at given
  split at given
  · rw [← Option.some.inj given]
    split
    · split
      · trivial
      · rename_i small
        exact Nat.not_lt.mp small
    · trivial
  · rw [← Option.some.inj given]
    trivial
  · rw [← Option.some.inj given]
    trivial
  · contradiction

/-- A packet fits the slot when the gateway has room for it. -/
theorem fits_iff {session : ClientSession} {packet : Packet} {item : Item (List Nat) UInt8}
    (given : fileItem packet = some item) : Fits session.intake item ↔ session.HasRoom packet := by
  have other {type : MessageType} (selected : MessageType.ofCode? packet.type = some type)
      (differs : type ≠ .msgFileChunk) : session.HasRoom packet := fun chunk =>
    absurd (MessageType.eq_of_ofCode? selected chunk) differs
  unfold fileItem at given
  split at given
  · rename_i begin_
    rw [← Option.some.inj given]
    refine iff_of_true ?_ (other begin_ (by decide))
    split
    · split <;> trivial
    · trivial
  · rename_i chunk
    have type_ := MessageType.code_of_ofCode? chunk
    rw [← Option.some.inj given, ClientSession.HasRoom]
    simp only [Fits, type_.symm, ClientSession.intake, Option.mem_def, Option.map_eq_some_iff,
      forall_exists_index, and_imp, forall_apply_eq_imp_iff₂, Packet.payload_length, true_imp_iff]
  · rename_i end_
    rw [← Option.some.inj given]
    exact iff_of_true trivial (other end_ (by decide))
  · contradiction

/-- A packet keeps the bound exactly when there is room for it. -/
theorem handlePacket_bounded {session session' : ClientSession} {packet : Packet}
    (handled : session.handlePacket (packetOfFrame (wire packet)) = some session')
    (bounded : session.Bounded) : session'.Bounded ↔ session.HasRoom packet := by
  cases given : fileItem packet with
  | none =>
    obtain ⟨same, _⟩ := ClientSession.handlePacket_passes given handled
    refine iff_of_true (by rwa [ClientSession.Bounded, same]) fun chunk => ?_
    rw [fileItem, chunk, MessageType.ofCode?_code] at given
    contradiction
  | some item =>
    obtain ⟨_, done, taken, _⟩ := ClientSession.handlePacket_item given
    obtain rfl := Option.some.inj (done.symm.trans handled)
    rw [bounded_iff, taken, ← fits_iff given]
    exact within_take (fileItem_modest given) (bounded_iff.mp bounded)

end Web

/-- In every state a transfer has stored no more than was announced, and so no more than the limit,
exactly if every chunk that is stored is no longer than what is left of the size announced; in the C
client as in the gateway. -/
theorem transferSizes_iff (arrivals : List (Packet × Client.Outcome))
    {session : Web.ClientSession} {packets : List Packet} (free : session.incomingFile = none)
    (files : ∀ packet ∈ packets, packet.OfFile) :
    ((∀ front, front <+: arrivals → (Client.recvThreadLoop noTransfer front).1.Bounded) ↔
      ∀ front arrival, front ++ [arrival] <+: arrivals →
        (Client.recvThreadLoop noTransfer front).1.HasRoom arrival.2 arrival.1) ∧
      ((∀ front, front <+: packets → ∃ session',
          (session.handlePackets (front.map fun packet =>
            Web.packetOfFrame (wire packet))).2 = some session' ∧ session'.Bounded) ↔
        ∀ front packet, front ++ [packet] <+: packets → ∃ session',
          (session.handlePackets (front.map fun packet =>
            Web.packetOfFrame (wire packet))).2 = some session' ∧ session'.HasRoom packet) := by
  constructor
  · refine @fronts_iff _ _ (fun front => (Client.recvThreadLoop noTransfer front).1)
      Client.IncomingFile.Bounded (fun file arrival => file.HasRoom arrival.2 arrival.1) arrivals
      nofun ?_
    rintro front ⟨packet, outcome⟩ _ bounded
    rw [Client.recvThreadLoop_concat]
    exact Client.recvThread_bounded
      (Client.recvThreadLoop_run Client.counted_noTransfer front).2.2 bounded
  · refine @fronts_iff _ _
      (fun front : List Packet => (session.handlePackets (front.map fun packet =>
        Web.packetOfFrame (wire packet))).2)
      (fun state => ∃ session', state = some session' ∧ session'.Bounded)
      (fun state packet => ∃ session', state = some session' ∧ session'.HasRoom packet) packets
      ⟨session, rfl, by simp [Web.ClientSession.Bounded, free]⟩ ?_
    rintro front packet front_of ⟨session', handled, bounded⟩
    have file : packet.OfFile := files packet (front_of.subset (by simp))
    obtain ⟨session'', next⟩ := Option.isSome_iff_exists.mp
      ((@Web.ClientSession.handlePacket_isSome session' (Web.packetOfFrame (wire packet))).mpr
        (Web.groupWellFormed_of_ofFile file))
    have after : (session.handlePackets ((front ++ [packet]).map fun packet =>
        Web.packetOfFrame (wire packet))).2 = some session'' := by
      rw [List.map_append, Web.ClientSession.handlePackets_append, handled, Option.bind_some,
        List.map_singleton, Web.ClientSession.handlePackets_bind, next]
      rfl
    simp only [after, handled, Option.some.injEq, exists_eq_left']
    exact Web.handlePacket_bounded next bounded

/-- A header and its chunk keep both receivers within the size announced. -/
theorem transferSizes_iff_pair :
    (∀ front, front <+: [(pairHeader "a", plainOutcome), (pairChunk "a" 1, plainOutcome)] →
      (Client.recvThreadLoop noTransfer front).1.Bounded) ∧
      ∀ front, front <+: [pairHeader "a", pairChunk "a" 1] →
        ∃ session', (({} : Web.ClientSession).handlePackets (front.map fun packet =>
          Web.packetOfFrame (wire packet))).2 = some session' ∧ session'.Bounded := by
  obtain ⟨header, chunk, _⟩ := pair_ofFile "a" 1
  have type_ : (pairHeader "a").type = MessageType.msgFileBegin.code :=
    (pairTransfer "a" 1).header_type
  have begin_ : (pairHeader "a").type ≠ MessageType.msgFileChunk.code := by
    rw [type_]
    decide
  have law := @transferSizes_iff
    [(pairHeader "a", plainOutcome), (pairChunk "a" 1, plainOutcome)] {}
    [pairHeader "a", pairChunk "a" 1] rfl (by simp [header, chunk])
  refine ⟨law.1.mpr fun front arrival inside => ?_, law.2.mpr fun front packet inside => ?_⟩
  · rcases concat_prefix_pair inside with ⟨rfl, rfl⟩ | ⟨rfl, rfl⟩
    · exact fun chunk => absurd chunk begin_
    · intro _ _ content stored
      have opened : (Client.recvThreadLoop noTransfer [(pairHeader "a", plainOutcome)]).1.stored =
          some [] := by decide +kernel
      obtain rfl : [] = content := Option.some.inj (opened.symm.trans stored)
      decide +kernel
  · rcases concat_prefix_pair inside with ⟨rfl, rfl⟩ | ⟨rfl, rfl⟩
    · exact ⟨{}, rfl, fun chunk => absurd chunk begin_⟩
    · obtain ⟨session', handled⟩ := @Web.ClientSession.handlePackets_survives {} [pairHeader "a"]
        fun packet member => Web.groupWellFormed_of_ofFile (List.mem_singleton.mp member ▸ header)
      refine ⟨session', handled, ?_⟩
      have slot := (Web.ClientSession.handlePackets_run handled).1
      have given : Web.fileItem (pairChunk "a" 1) = some (.piece [1, 1]) := by decide +kernel
      have opened : (Web.filePolicy.run ({} : Web.ClientSession).intake
          (Web.fileItems [pairHeader "a"])).1 = some ⟨Utf8.decode [97], 2, []⟩ := by decide +kernel
      rw [← Web.fits_iff given, slot, opened]
      rintro intake ⟨⟩
      decide

/-- A header for two bytes and two chunks of two bytes. -/
def overrun : List Packet := [pairHeader "a", pairChunk "a" 1, pairChunk "a" 1]

/-- The second chunk is stored as well, so the transfer has four bytes where two were announced. -/
theorem transferSizes_overrun :
    (¬ ∀ arrivals : List (Packet × Client.Outcome),
      (Client.recvThreadLoop noTransfer arrivals).1.Bounded) ∧
      ¬ ∀ (session : Web.ClientSession) (packets : List Packet), session.incomingFile = none →
        (∀ packet ∈ packets, packet.OfFile) → ∃ session',
          (session.handlePackets (packets.map fun packet =>
            Web.packetOfFrame (wire packet))).2 = some session' ∧ session'.Bounded := by
  constructor
  · intro bounded
    have stored := bounded (overrun.map (·, plainOutcome)) [1, 1, 1, 1] (by decide +kernel)
    exact absurd stored.1 (by decide +kernel)
  · intro bounded
    obtain ⟨header, chunk, _⟩ := pair_ofFile "a" 1
    obtain ⟨session', handled, within_⟩ := bounded {} overrun rfl (by simp [overrun, header, chunk])
    rw [Web.bounded_iff, (Web.ClientSession.handlePackets_run handled).1] at within_
    have full : (Web.filePolicy.run ({} : Web.ClientSession).intake (Web.fileItems overrun)).1 =
        some ⟨Utf8.decode [97], 2, [1, 1, 1, 1]⟩ := by decide +kernel
    exact absurd (within_ _ full).1 (by decide)
end MultiUserChat
