import MultiUserChat.Client.Scans
import MultiUserChat.Server.Scans
import MultiUserChat.Verif.WireFrames
/-!
# String operations stay inside the packet

`packet_init` and `recv_packet` leave a NUL at the end of both names, and zero bytes behind data that
are shorter than their array. Data that fill the array need not contain a NUL, and `handle_register`,
`handle_login` and the client's `printf` read them without looking, which `packet_text_data` is for.
-/

namespace MultiUserChat

open Program

/-- A string operation on the array finds a NUL in it. -/
def InBounds (packet : Packet) (field : Field) : Prop := 0 ∈ field.array packet

/-- The data are shorter than their array or contain a NUL. -/
def Packet.DataTerminated (packet : Packet) : Prop :=
  packet.length < packetDataMax ∨ 0 ∈ packet.payload

namespace InBounds

variable (packet : Packet)

/-- The sender's name is terminated. -/
theorem sender : InBounds packet .sender := List.mem_of_getElem? packet.sender_terminated

/-- The receiver's name is terminated. -/
theorem receiver : InBounds packet .receiver := List.mem_of_getElem? packet.receiver_terminated

/-- The data are terminated by the zero bytes behind them or by one of their own. -/
theorem data : InBounds packet .data ↔ packet.DataTerminated := by
  change 0 ∈ packet.data.toList ↔ _
  rw [packet.data_eq, List.mem_append, List.mem_replicate, Packet.DataTerminated]
  have bound := packet.length_le
  constructor
  · rintro (own | ⟨room, _⟩)
    · exact .inr own
    · exact .inl (by omega)
  · rintro (short | own)
    · exact .inr ⟨by omega, rfl⟩
    · exact .inl own

end InBounds

/-- Data that `packet_text_data` returns are terminated. -/
theorem packetTextData_terminated {packet : Packet} {text : CString}
    (found : packetTextData packet = some text) : packet.DataTerminated := by
  unfold packetTextData at found
  split at found
  · contradiction
  · rename_i last
    rw [not_or, not_not] at last
    exact .inr (List.mem_of_getLast? last.2)

/-! ## The server -/

namespace Scanning

/-- Without its notes the text is the handler. -/
theorem sendGroupMessageFor_erase (fd : Int) (packet : Packet) (username : CString) :
    (sendGroupMessageFor fd packet username).erase =
      MultiUserChat.sendGroupMessageFor fd packet username := by
  unfold sendGroupMessageFor MultiUserChat.sendGroupMessageFor
  cases packetTextData packet with
  | none => exact erase_unnoted _
  | some text =>
    dsimp only
    by_cases empty : packet.receiverName.length = 0 ∨ text.length = 0
    · rw [if_pos empty, if_pos empty]
      exact erase_unnoted _
    rw [if_neg empty, if_neg empty, erase_note_bind, erase_bind, erase_unnoted]
    refine bind_congr fun answer => ?_
    cases answer with
    | error result => exact erase_unnoted _
    | ok snapshot =>
      dsimp only
      cases groupSnapshotHasMember snapshot username with
      | false => exact erase_unnoted _
      | true =>
        change (scan .data >>= fun _ => _).erase = _
        rw [erase_note_bind]
        obtain ⟨result, payload⟩ := groupPayloadBuildMessage snapshot text
        cases result with
        | ok =>
          change (unnoted _ >>= fun _ => unnoted _).erase = _
          rw [erase_bind, erase_unnoted]
          exact bind_congr fun _ => erase_unnoted _
        | _ => exact erase_unnoted _

/-- Without its notes the text is the handler. -/
theorem handleGroupMessage_erase (fd : Int) (packet : Packet) :
    (handleGroupMessage fd packet).erase = MultiUserChat.handleGroupMessage fd packet := by
  unfold handleGroupMessage MultiUserChat.handleGroupMessage
  rw [erase_bind, erase_unnoted]
  refine bind_congr fun answer => ?_
  cases answer with
  | none => exact erase_unnoted _
  | some username => exact sendGroupMessageFor_erase fd packet username

/-- A registration or login without its notes. -/
theorem erase_scan_credentials (packet : Packet) (handler : Handler Unit) :
    (scan .sender >>= fun _ => if validUsername packet.senderName = true then
      (scan .data >>= fun _ => handler.unnoted) else handler.unnoted).erase = handler := by
  rw [erase_note_bind]
  split
  · rw [erase_note_bind, erase_unnoted]
  · rw [erase_unnoted]

/-- Without its notes the text is `process_packet`. -/
theorem processPacket_erase (fd : Int) (packet : Packet) :
    (processPacket fd packet).erase = MultiUserChat.processPacket fd packet := by
  unfold processPacket MultiUserChat.processPacket
  cases MessageType.ofCode? packet.type with
  | none => exact erase_unnoted _
  | some type =>
    cases type with
    | msgRegister => exact erase_scan_credentials packet _
    | msgLogin => exact erase_scan_credentials packet _
    | msgGroupMessage => exact handleGroupMessage_erase fd packet
    | _ => exact erase_unnoted _

/-- Every string operation of a group message stays inside the packet. -/
theorem handleGroupMessage_notes (fd : Int) (packet : Packet) :
    (handleGroupMessage fd packet).Notes (InBounds packet) := by
  unfold handleGroupMessage
  refine Notes.bind (notes_unnoted _ _) fun answer => ?_
  cases answer with
  | none => exact notes_unnoted _ _
  | some username =>
    dsimp only
    unfold sendGroupMessageFor
    cases found : packetTextData packet with
    | none => exact notes_unnoted _ _
    | some text =>
      dsimp only
      split
      · exact notes_unnoted _ _
      refine notes_note_bind.mpr ⟨.receiver packet, Notes.bind (notes_unnoted _ _) fun answer => ?_⟩
      cases answer with
      | error result => exact notes_unnoted _ _
      | ok snapshot =>
        dsimp only
        split
        · exact notes_unnoted _ _
        refine notes_note_bind.mpr
          ⟨(InBounds.data packet).mpr (packetTextData_terminated found), ?_⟩
        split
        · exact Notes.bind (notes_unnoted _ _) fun _ => notes_unnoted _ _
        · exact notes_unnoted _ _

/-- Credentials are read with both names valid, and with data that need not be terminated. -/
theorem credentials_notes (packet : Packet) (handler : Handler Unit) :
    (scan .sender >>= fun _ => if validUsername packet.senderName = true then
        (scan .data >>= fun _ => handler.unnoted) else handler.unnoted).Notes (InBounds packet) ↔
      packet.DataTerminated ∨ validUsername packet.senderName = false := by
  rw [notes_note_bind, and_iff_right (InBounds.sender packet)]
  by_cases valid : validUsername packet.senderName = true
  · rw [if_pos valid, notes_note_bind, and_iff_left (notes_unnoted _ _), InBounds.data]
    simp [valid]
  · rw [if_neg valid]
    exact iff_of_true (notes_unnoted _ _) (.inr (Bool.eq_false_iff.mpr valid))

/-- The server stays inside the packet exactly when the data are terminated, or it is no registration
or login, or the name in it is not valid. -/
theorem processPacket_notes (fd : Int) (packet : Packet) :
    (processPacket fd packet).Notes (InBounds packet) ↔
      packet.DataTerminated ∨
        (packet.type ≠ MessageType.msgRegister.code ∧ packet.type ≠ MessageType.msgLogin.code) ∨
        validUsername packet.senderName = false := by
  by_cases register : packet.type = MessageType.msgRegister.code
  · rw [processPacket, register, MessageType.ofCode?_code]
    exact (credentials_notes packet _).trans (by simp)
  by_cases login : packet.type = MessageType.msgLogin.code
  · rw [processPacket, login, MessageType.ofCode?_code]
    exact (credentials_notes packet _).trans (by simp)
  refine iff_of_true ?_ (.inr (.inl ⟨register, login⟩))
  unfold processPacket
  cases selected : MessageType.ofCode? packet.type with
  | none => exact notes_unnoted _ _
  | some type =>
    have code := MessageType.code_of_ofCode? selected
    cases type with
    | msgRegister => exact absurd code.symm register
    | msgLogin => exact absurd code.symm login
    | msgPrivate => exact notes_note_bind.mpr ⟨.receiver packet, notes_unnoted _ _⟩
    | msgGroupMessage => exact handleGroupMessage_notes fd packet
    | msgFileBegin => exact notes_note_bind.mpr ⟨.receiver packet, notes_unnoted _ _⟩
    | msgFileChunk => exact notes_note_bind.mpr ⟨.receiver packet, notes_unnoted _ _⟩
    | msgFileEnd => exact notes_note_bind.mpr ⟨.receiver packet, notes_unnoted _ _⟩
    | _ => exact notes_unnoted _ _

/-- Where the server does not stay inside the packet, it leaves it whatever the stores answer. -/
theorem processPacket_marks {fd : Int} {packet : Packet} (full : ¬packet.DataTerminated)
    (credentials : packet.type = MessageType.msgRegister.code ∨
      packet.type = MessageType.msgLogin.code)
    (valid : validUsername packet.senderName = true) :
    (processPacket fd packet).Marks fun field => ¬InBounds packet field := by
  have outside : ¬InBounds packet .data := fun inside => full ((InBounds.data packet).mp inside)
  have marks (handler : Handler Unit) : (scan .sender >>= fun _ =>
      if validUsername packet.senderName = true then (scan .data >>= fun _ => handler.unnoted)
      else handler.unnoted).Marks fun field => ¬InBounds packet field := by
    rw [if_pos valid]
    exact .inr fun _ => .inl outside
  rcases credentials with register | login
  · rw [processPacket, register, MessageType.ofCode?_code]
    exact marks _
  · rw [processPacket, login, MessageType.ofCode?_code]
    exact marks _

end Scanning

/-! ## The client -/

namespace Client.Scanning

/-- A file header is read for its sender only. -/
theorem handleFileBegin_inBounds (outcome : Outcome) (packet : Packet) :
    ∀ field ∈ handleFileBegin outcome packet, InBounds packet field := by
  have sender : ∀ field ∈ handleFileBegin outcome packet, field = .sender := by
    unfold handleFileBegin
    dsimp only
    split
    · simp
    split
    · simp
    split
    · simp
    · split <;> simp
  intro field member
  rw [sender field member]
  exact .sender packet

/-- Message types whose data the client prints. -/
def printed : List MessageType := [.msgOk, .msgError, .msgOnlineList, .msgPrivate, .msgGroup]

/-- `recv_thread` stays inside the packet exactly when the data are terminated or not printed. -/
theorem recvThread_inBounds (outcome : Outcome) (packet : Packet) :
    (∀ field ∈ recvThread outcome packet, InBounds packet field) ↔
      packet.DataTerminated ∨ ∀ type ∈ printed, packet.type ≠ type.code := by
  cases selected : MessageType.ofCode? packet.type with
  | none =>
    refine iff_of_true ?_ (.inr fun type _ same => ?_)
    · rw [recvThread, selected]
      simp
    · rw [same, MessageType.ofCode?_code] at selected
      contradiction
  | some type =>
    have code := MessageType.code_of_ofCode? selected
    have among : (∀ other ∈ printed, packet.type ≠ other.code) ↔ type ∉ printed := by
      constructor
      · exact fun distinct member => distinct type member code.symm
      · rintro distinct other member same
        exact distinct (MessageType.eq_of_ofCode? selected same ▸ member)
    rw [recvThread, selected, among, ← InBounds.data]
    have sender := InBounds.sender packet
    cases type with
    | msgFileBegin => exact iff_of_true (handleFileBegin_inBounds outcome packet) (.inr (by decide))
    | _ => simp [printed, sender]

end Client.Scanning

/-- The packets that `recv_packet` returns are the values of `Packet`. In the server every string
operation on one finds a NUL in its array exactly when the data are shorter than their array or
contain a NUL, or the packet is no registration or login of a valid name; otherwise one leaves the
array whatever the stores answer. In the client it is the same for the types whose data are printed,
and while a reply is awaited for every type. -/
theorem scans_inBounds_iff (fd : Int) (outcome : Client.Outcome) (packet : Packet) :
    recvPacket (wire packet) = some (packet, []) ∧
      ((Scanning.processPacket fd packet).Notes (InBounds packet) ↔
        packet.DataTerminated ∨
          (packet.type ≠ MessageType.msgRegister.code ∧ packet.type ≠ MessageType.msgLogin.code) ∨
          validUsername packet.senderName = false) ∧
      (¬packet.DataTerminated → (packet.type = MessageType.msgRegister.code ∨
          packet.type = MessageType.msgLogin.code) → validUsername packet.senderName = true →
        (Scanning.processPacket fd packet).Marks fun field => ¬InBounds packet field) ∧
      ((∀ field ∈ Client.Scanning.recvThread outcome packet, InBounds packet field) ↔
        packet.DataTerminated ∨ ∀ type ∈ Client.Scanning.printed, packet.type ≠ type.code) ∧
      ((∀ field ∈ Client.Scanning.waitForAuthResponse packet, InBounds packet field) ↔
        packet.DataTerminated) := by
  refine ⟨?_, Scanning.processPacket_notes fd packet, Scanning.processPacket_marks,
    Client.Scanning.recvThread_inBounds outcome packet, ?_⟩
  · have read := recvPacket_wire packet []
    rwa [List.append_nil] at read
  · rw [← InBounds.data]
    simp [Client.Scanning.waitForAuthResponse]

/-- The server reads a password that fills the data array beyond the end of the packet. -/
theorem scans_fullRegistration : ¬ ∀ (stream : List UInt8) (packet : Packet) (rest : List UInt8)
    (fd : Int), recvPacket stream = some (packet, rest) →
      (Scanning.processPacket fd packet).Notes (InBounds packet) := by
  intro claim
  obtain ⟨packet, built⟩ := Option.isSome_iff_exists.mp
    (packetInit_isSome.mpr (show (List.replicate packetDataMax (0x61 : UInt8)).length ≤ packetDataMax
      from Nat.le_of_eq List.length_replicate) :
      (packetInit MessageType.msgRegister.code (CString.ofString "a") CString.empty
        (List.replicate packetDataMax 0x61)).isSome)
  obtain ⟨type, sender, _, payload⟩ := packetInit_eq built
  have inside := claim _ packet _ 0 (recvPacket_wire packet [])
  rw [Scanning.processPacket_notes] at inside
  rcases inside with (short | zero) | other | invalid
  · rw [← packet.payload_length, payload, List.length_replicate] at short
    exact absurd short (Nat.lt_irrefl _)
  · rw [payload] at zero
    exact absurd (List.eq_of_mem_replicate zero) (by decide)
  · exact other.1 type
  · rw [Packet.senderName, sender, ofBytes_copyFixedString (by decide)] at invalid
    exact absurd invalid (by decide)

end MultiUserChat
