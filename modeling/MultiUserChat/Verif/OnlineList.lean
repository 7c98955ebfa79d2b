import MultiUserChat.Verif.Announcement
import MultiUserChat.Verif.GroupRecords
/-!
# The list of online users

The server joins the names of the online users with line feeds into one bounded text and writes a
sentence when there are none. The gateway takes the text apart again. The loop is the join of the
names as long as it stays below the bound, and for names in UTF-8 the gateway undoes the join, unless
the join is the sentence itself.
-/

namespace MultiUserChat

open Program Web

/-! ## The text -/

/-- The names of those of the users that are online. -/
def onlineNames (users : List User) : List CString :=
  (users.filter User.online).map fun user => user.username.toCString

/-- Names with a line feed between any two, and one in front when others precede them. -/
def lines : Bool → List CString → List UInt8
  | _, [] => []
  | preceded, name :: names =>
    (if preceded then [10] else []) ++ name.bytes ++ lines true names

/-- Without others in front the names are joined by line feeds. -/
theorem lines_eq_intercalate (names : List CString) :
    lines false names = [10].intercalate (names.map CString.bytes) := by
  induction names with
  | nil => rfl
  | cons name names ih =>
    cases names with
    | nil => simp [lines]
    | cons next names =>
      rw [List.map_cons, List.map_cons, List.intercalate_cons_cons, ← List.map_cons, ← ih]
      simp [lines]

/-- The text has no zero byte. -/
theorem lines_nulFree (preceded : Bool) (names : List CString) : 0 ∉ lines preceded names := by
  induction names generalizing preceded with
  | nil => exact List.not_mem_nil
  | cons name names ih =>
    have nulFree := name.nulFree
    have later := ih true
    cases preceded <;> simp [lines, nulFree, later]

/-- What the list says when nobody is online. -/
def nobodyOnline : CString := CString.ofString "当前没有在线用户"

/-- The text of the list of these names. -/
def onlineText (names : List CString) : CString :=
  if names = [] then nobodyOnline else CString.ofBytes (lines false names)

/-- The joined names are the bytes of the text. -/
theorem onlineText_bytes {names : List CString} (some_ : names ≠ []) :
    (onlineText names).bytes = lines false names := by
  rw [onlineText, if_neg some_]
  exact CString.takeWhile_nulFree (lines_nulFree false names)

/-- The loop appends the names, while all of them stay below the bound. -/
theorem onlineListLoop_eq {outSize : Nat} (users : List User) {text : List UInt8} (listed : Bool)
    (room : text.length < outSize) :
    onlineListLoop outSize users text listed =
      if (text ++ lines listed (onlineNames users)).length < outSize then
        some (text ++ lines listed (onlineNames users), listed || !(onlineNames users).isEmpty)
      else none := by
  induction users generalizing text listed with
  | nil => simp [onlineListLoop, onlineNames, lines, room]
  | cons user users ih =>
    cases online : user.online with
    | false =>
      have others : onlineNames (user :: users) = onlineNames users := by
        simp [onlineNames, online]
      rw [others]
      simp only [onlineListLoop, online, Bool.not_false, ↓reduceIte]
      exact ih listed room
    | true =>
      have here : onlineNames (user :: users) = user.username.toCString :: onlineNames users := by
        simp [onlineNames, online]
      rw [here, lines]
      simp only [onlineListLoop, online, Bool.not_true, Bool.false_eq_true, ↓reduceIte]
      generalize (if listed = true then [10] else []) ++ user.username.toCString.bytes = piece
      by_cases full : piece.length ≥ outSize - text.length
      · rw [if_pos full, if_neg]
        simp only [List.length_append]
        omega
      · rw [if_neg full, ih true (by rw [List.length_append]; omega)]
        simp

/-- The operation returns the text of the online names when their join is below the bound, and fails
otherwise. -/
theorem userStoreOnlineList_eq (store : UserStore) {outSize : Nat} (positive : 0 < outSize) :
    userStoreOnlineList store outSize =
      if (lines false (onlineNames store.users)).length < outSize then
        .ok (onlineText (onlineNames store.users))
      else .error .errIo := by
  rw [userStoreOnlineList, onlineListLoop_eq store.users false positive, List.nil_append,
    Bool.false_or]
  generalize onlineNames store.users = names
  by_cases fits : (lines false names).length < outSize
  · rw [if_pos fits, if_pos fits]
    cases names <;> rfl
  · rw [if_neg fits, if_neg fits]

/-! ## The text in the gateway -/

/-- A code point below 128 is written as itself, so a text that has it shows it in its bytes. -/
theorem lineFeed_mem_encode {text : Text} (inside : 10 ∈ text) : 10 ∈ Utf8.encode text :=
  List.mem_flatMap.mpr ⟨10, inside, by decide⟩

/-- A readable name is read back byte for byte, so different names are read differently. -/
theorem CString.Readable.textOf_inj {left right : CString} (leftReadable : left.Readable)
    (rightReadable : right.Readable) (same : textOf left = textOf right) : left = right :=
  CString.ext (by rw [← leftReadable.encode_textOf, same, rightReadable.encode_textOf])

/-- The text of a valid name is not empty and has no line feed. -/
theorem textOf_valid {name : CString} (readable : name.Readable)
    (valid : validUsername name = true) : textOf name ≠ [] ∧ 10 ∉ textOf name := by
  simp only [validUsername, Bool.and_eq_true, decide_eq_true_eq, Bool.not_eq_true'] at valid
  obtain ⟨⟨⟨nonempty, _⟩, _⟩, oneLine⟩ := valid
  refine ⟨fun empty => nonempty ?_, fun inside => ?_⟩
  · rw [CString.length, ← readable.encode_textOf, empty]
    rfl
  · have written : 10 ∈ name.bytes := readable.encode_textOf ▸ lineFeed_mem_encode inside
    simp [CString.contains, written] at oneLine

/-- The joined names are read as the joined texts of the names. -/
theorem decode_lines {names : List CString} (readable : ∀ name ∈ names, name.Readable) :
    Utf8.decode (lines false names) = [10].intercalate (names.map textOf) := by
  rw [lines_eq_intercalate]
  induction names with
  | nil => rfl
  | cons name names ih =>
    obtain ⟨here, later⟩ := List.forall_mem_cons.mp readable
    cases names with
    | nil => simp [textOf]
    | cons next names =>
      rw [List.map_cons, List.map_cons, List.map_cons, List.map_cons, List.intercalate_cons_cons,
        List.intercalate_cons_cons, ← List.map_cons, ← List.map_cons, ← ih later]
      obtain ⟨points, bytes⟩ := here
      have front : name.bytes ++ [10] = Utf8.encode (points ++ [10]) := by
        rw [Utf8.encode_append, bytes]
        rfl
      rw [front, Utf8.decode_encode_append, List.map_append, textOf, bytes, Utf8.decode_encode]
      rfl

/-- The joined texts are split into the texts. -/
theorem splitOn_decode_lines {names : List CString} (some_ : names ≠ [])
    (readable : ∀ name ∈ names, name.Readable)
    (valid : ∀ name ∈ names, validUsername name = true) :
    (Utf8.decode (lines false names)).splitOn 10 = names.map textOf := by
  rw [decode_lines readable]
  refine List.splitOn_intercalate 10 (fun text member => ?_) (by simpa using some_)
  obtain ⟨name, inside, rfl⟩ := List.mem_map.mp member
  exact (textOf_valid (readable name inside) (valid name inside)).2

/-- The sentence is the one the gateway compares with. -/
theorem textOf_nobodyOnline : textOf nobodyOnline = literal "当前没有在线用户" := by decide

/-- The sentence is readable. -/
theorem nobodyOnline_readable : nobodyOnline.Readable :=
  ⟨literal "当前没有在线用户", by decide⟩

/-- The joined names read as the sentence only when it is the one name. -/
theorem eq_nobodyOnline {names : List CString} (some_ : names ≠ [])
    (readable : ∀ name ∈ names, name.Readable)
    (valid : ∀ name ∈ names, validUsername name = true)
    (same : Utf8.decode (lines false names) = literal "当前没有在线用户") : names = [nobodyOnline] := by
  have oneLine : (literal "当前没有在线用户").splitOn 10 = [textOf nobodyOnline] := by decide
  have parts := splitOn_decode_lines some_ readable valid
  rw [same, oneLine] at parts
  obtain ⟨name, rfl, read⟩ := List.map_eq_singleton_iff.mp parts.symm
  rw [(readable name (List.mem_singleton_self _)).textOf_inj nobodyOnline_readable read]

/-- The gateway shows the names that a list was made of, unless the sentence is the only one. -/
theorem handlePacket_onlineList (session : ClientSession) {answer : Packet} {names : List CString}
    (type : answer.type = MessageType.msgOnlineList.code)
    (content : answer.payload = (onlineText names).terminated)
    (readable : ∀ name ∈ names, name.Readable)
    (valid : ∀ name ∈ names, validUsername name = true) (distinguished : names ≠ [nobodyOnline]) :
    session.handlePacket (packetOfFrame (wire answer)) =
      some (session.send (.onlineList (names.map textOf))) := by
  have read : (receivedFrom answer).text = textOf (onlineText names) := by
    change readFixedCString answer.payload = _
    rw [content, readFixedCString, CString.terminated,
      CString.takeWhile_append_nul (onlineText names).nulFree, textOf]
  have received : (receivedFrom answer).type = MessageType.msgOnlineList.code := type
  rw [packetOfFrame_eq, ClientSession.handlePacket, received, MessageType.ofCode?_code, read]
  by_cases empty : names = []
  · subst empty
    rw [onlineText, if_pos rfl, if_pos textOf_nobodyOnline, List.map_nil]
  · rw [textOf, onlineText_bytes empty,
      if_neg (fun same => distinguished (eq_nobodyOnline empty readable valid same)),
      splitOn_decode_lines empty readable valid]
    have written : (names.map textOf).filter (· ≠ []) = names.map textOf := by
      refine List.filter_eq_self.mpr fun text member => ?_
      obtain ⟨name, inside, rfl⟩ := List.mem_map.mp member
      exact decide_eq_true (textOf_valid (readable name inside) (valid name inside)).1
    rw [written]

/-! ## The request -/

/-- The names of the online users are those of the users that are online, each once. -/
theorem onlineNames_spec {state : ServerState} (wellFormed : state.WellFormed) :
    (onlineNames state.users.users).Nodup ∧
      ∀ name, name ∈ onlineNames state.users.users ↔ state.online name = true := by
  refine ⟨(wellFormed.users.users_distinct.sublist (List.filter_sublist.map _)), fun name => ?_⟩
  simp only [onlineNames, List.mem_map, List.mem_filter, ServerState.online_iff, and_assoc]
  exact ⟨fun ⟨user, member, online, named⟩ => ⟨user, member, named, online⟩,
    fun ⟨user, member, named, online⟩ => ⟨user, member, online, named⟩⟩

/-- The online users have valid names. -/
theorem onlineNames_valid {state : ServerState} (wellFormed : state.WellFormed) {name : CString}
    (listed : name ∈ onlineNames state.users.users) : validUsername name = true := by
  obtain ⟨user, member, rfl⟩ := List.mem_map.mp listed
  exact wellFormed.users.valid user
    (wellFormed.users.mem_users.mp (List.mem_of_mem_filter member))

/-- The joined names of the online users leave room for the terminator in a packet. -/
def OnlineListFits (state : ServerState) : Prop :=
  (lines false (onlineNames state.users.users)).length < packetDataMax

/-- Every gateway session shows the packet to the browser as the names of exactly the users that are
online, each once. -/
def OnlineShown (answer : Packet) (state : ServerState) : Prop :=
  ∃ shown : List Text,
    (∀ session : ClientSession, session.handlePacket (packetOfFrame (wire answer)) =
      some (session.send (.onlineList shown))) ∧
    shown.Nodup ∧ ∀ text, text ∈ shown ↔ ∃ name, state.online name = true ∧ textOf name = text

/-- The only thing sent is a list of the online users, to the descriptor. Nothing is said of the list
whose only name is the sentence. -/
def OnlineListed (before after : ServerMachine) (fd : Int) : Prop :=
  ∃ answer : Packet, answer.type = MessageType.msgOnlineList.code ∧
    deliveries before after = [(fd, answer)] ∧
    (onlineNames before.state.users.users ≠ [nobodyOnline] → OnlineShown answer before.state)

/-- A list is not an error. -/
theorem OnlineListed.not_error {before after : ServerMachine} {fd : Int}
    (listed : OnlineListed before after fd) : ¬ RepliedError before after fd := by
  obtain ⟨answer, list, sent, _⟩ := listed
  exact not_repliedError sent (by rw [list]; decide)

/-- The text of the list has at most as many bytes as a packet holds beside the terminator. -/
theorem onlineText_short {names : List CString} (fits : (lines false names).length < packetDataMax) :
    (onlineText names).length + 1 ≤ packetDataMax := by
  by_cases empty : names = []
  · subst empty
    decide
  · rw [CString.length, onlineText_bytes empty]
    exact fits

section

variable [Sha256] {outcomes : Nat → Outcome} {machine final : ServerMachine} {fd : Int}

@[simp]
theorem answer_userOnlineList (machine : ServerMachine) :
    machine.answer (serverSemantics outcomes) .userOnlineList =
      userStoreOnlineList machine.state.users packetDataMax := rfl

/-- The handler answers with the text of the online names when their join fits and with an error when
it does not, and leaves the state as it is. -/
theorem handleOnlineList_settles (success : SendsSucceed outcomes machine)
    (ran : (handleOnlineList fd).Runs (serverSemantics outcomes) machine () final) :
    final.state = machine.state ∧
      ((OnlineListFits machine.state ∧ ∃ answer : Packet,
          answer.type = MessageType.msgOnlineList.code ∧
          answer.payload = (onlineText (onlineNames machine.state.users.users)).terminated ∧
          deliveries machine final = [(fd, answer)]) ∨
        ¬ OnlineListFits machine.state ∧ RepliedError machine final fd) := by
  unfold handleOnlineList at ran
  simp only [perform_bind, done_bind, runs_perform, answer_userOnlineList] at ran
  set looked := machine.after (serverSemantics outcomes) .userOnlineList
  obtain ⟨same, later, silent⟩ := looked_up success rfl (by simp) ran
  rw [userStoreOnlineList_eq machine.state.users (by decide)] at ran
  by_cases fits : OnlineListFits machine.state
  · rw [if_pos (show (lines false _).length < _ from fits)] at ran
    obtain ⟨state, answer, type, content, sent⟩ :=
      sendTextResponse_text later (onlineText_short fits) ran
    exact ⟨state.trans same, .inl ⟨fits, answer, type, content, silent.trans sent⟩⟩
  · rw [if_neg (show ¬ (lines false _).length < _ from fits)] at ran
    obtain ⟨state, error⟩ := sendTextResponse_delivers later (userResultMessage_short _) ran
    exact ⟨state.trans same, .inr ⟨fits, RepliedError.of_silent error silent⟩⟩

/-- In every reachable state whose online users have names in UTF-8, while sends succeed, a request
for the online list is answered, by the list of exactly the online users when their joined names fit,
and otherwise by an error. -/
theorem onlineListed_iff {packet : Packet} (reached : ServerReachable outcomes machine)
    (success : SendsSucceed outcomes machine)
    (readable : ∀ name, machine.state.online name = true → name.Readable)
    (type : packet.type = MessageType.msgOnlineList.code) :
    ∃ final, (processPacket fd packet).Runs (serverSemantics outcomes) machine () final ∧
      final.state = machine.state ∧
      (OnlineListed machine final fd ↔ OnlineListFits machine.state) ∧
      (RepliedError machine final fd ↔ ¬ OnlineListFits machine.state) := by
  have wellFormed := serverReachable_wellFormed reached
  obtain ⟨⟨⟩, final, ran⟩ := handler_returns outcomes (processPacket fd packet) wellFormed
  refine ⟨final, ran, ?_⟩
  rw [processPacket, type, MessageType.ofCode?_code] at ran
  change (handleOnlineList fd).Runs _ _ _ _ at ran
  obtain ⟨distinct, online⟩ := onlineNames_spec wellFormed
  have namesReadable : ∀ name ∈ onlineNames machine.state.users.users, name.Readable :=
    fun name listed => readable name ((online name).mp listed)
  obtain ⟨state, settled⟩ := handleOnlineList_settles success ran
  have answered : OnlineListFits machine.state ∧ OnlineListed machine final fd ∨
      ¬ OnlineListFits machine.state ∧ RepliedError machine final fd := by
    refine settled.imp_left ?_
    rintro ⟨fits, answer, list, content, sent⟩
    refine ⟨fits, answer, list, sent, fun distinguished => ⟨_, fun session =>
      handlePacket_onlineList session list content namesReadable
        (fun _ => onlineNames_valid wellFormed) distinguished, ?_, fun text => ?_⟩⟩
    · refine distinct.map_on fun left leftIn right rightIn same => ?_
      exact (namesReadable left leftIn).textOf_inj (namesReadable right rightIn) same
    · simp only [List.mem_map, online]
  exact ⟨state, sent_iff answered OnlineListed.not_error⟩

end

section

attribute [local instance] sampleDigest

/-- A request for the online users. -/
def onlineListRequest : Packet :=
  request .msgOnlineList CString.empty CString.empty [] (Nat.zero_le _)

/-- Names in ASCII are readable. -/
theorem online_readable {state : ServerState}
    (ascii : (state.users.users.all fun user =>
      user.username.toCString.bytes.all (· < 128)) = true) {name : CString}
    (online : state.online name = true) : name.Readable := by
  obtain ⟨user, member, rfl, _⟩ := ServerState.online_iff.mp online
  refine CString.readable_ascii fun byte inside => ?_
  exact of_decide_eq_true (List.all_eq_true.mp (List.all_eq_true.mp ascii user member) byte inside)

/-- Two online users are listed. -/
theorem onlineListed_iff_couple : ∃ final,
    (processPacket 5 onlineListRequest).Runs (serverSemantics (failingAt [])) coupleMachine () final ∧
      OnlineListed coupleMachine final 5 := by
  have ascii : (coupleMachine.state.users.users.all fun user =>
      user.username.toCString.bytes.all (· < 128)) = true := by decide
  have type : onlineListRequest.type = MessageType.msgOnlineList.code := by decide
  obtain ⟨final, ran, _, listed, _⟩ := onlineListed_iff (sample_reachable couple_returns)
    (fun _ _ => rfl) (fun _ => online_readable ascii) type
  exact ⟨final, ran, listed.mpr (by unfold OnlineListFits; decide)⟩

/-- Thirty-three users join. -/
def audience : List Input :=
  (List.range 33).flatMap fun (index : Nat) => joining (5 + index) (crowdName index)

/-- The users of the audience have names in ASCII that are too long to be listed together. -/
theorem audience_full : (serveAll (failingAt []) 0 freshServer audience).any (fun machine =>
    (machine.state.connectionAt 5).isSome &&
      (machine.state.users.users.all fun user => user.username.toCString.bytes.all (· < 128)) &&
      decide (packetDataMax ≤ (lines false (onlineNames machine.state.users.users)).length)) =
        true := by
  decide +kernel

/-- Thirty-three users with long names are not listed. -/
theorem onlineListed_audience : ¬ ∀ [Sha256] (outcomes : Nat → Outcome) (machine : ServerMachine)
    (fd : Int) (packet : Packet),
    ServerReachable outcomes machine → SendsSucceed outcomes machine →
      (machine.state.connectionAt fd).isSome → packet.type = MessageType.msgOnlineList.code →
      (∀ name, machine.state.online name = true → name.Readable) →
      ∃ final, (processPacket fd packet).Runs (serverSemantics outcomes) machine () final ∧
        ∃ answer : Packet, answer.type = MessageType.msgOnlineList.code ∧
          deliveries machine final = [(fd, answer)] ∧ OnlineShown answer machine.state := by
  intro claim
  obtain ⟨machine, served, holds⟩ := (Option.any_eq_true _ _).mp audience_full
  simp only [Bool.and_eq_true, decide_eq_true_eq] at holds
  obtain ⟨⟨connected, ascii⟩, long⟩ := holds
  have reached : ServerReachable (failingAt []) machine :=
    serveAll_reachable (.start freshServer_started) served
  obtain ⟨final, ran, answer, list, sent, _⟩ := claim (failingAt []) machine 5 onlineListRequest
    reached (fun _ _ => rfl) connected (by decide) (fun _ => online_readable ascii)
  obtain ⟨_, ⟨fits, _⟩ | ⟨_, error⟩⟩ := handleOnlineList_settles (fun _ _ => rfl) ran
  · exact absurd fits (Nat.not_lt.mpr long)
  · exact not_repliedError sent (by rw [list]; decide) error

end

end MultiUserChat
