import MultiUserChat.Verif.GroupStore
import MultiUserChat.Web.Protocol
/-!
# Round trips of group payloads

A payload is the concatenation of its NUL-terminated fields. Adding fields succeeds exactly when
they fit into the data array, and what was added is returned by `group_payload_parse` and, as text,
by the gateway's decoder.
-/

namespace MultiUserChat

/-- The bytes of a sequence of fields. -/
def encodeFields (fields : List CString) : List UInt8 := fields.flatMap CString.terminated

@[simp]
theorem encodeFields_nil : encodeFields [] = [] := rfl

@[simp]
theorem encodeFields_cons (field : CString) (fields : List CString) :
    encodeFields (field :: fields) = field.terminated ++ encodeFields fields := rfl

/-- The fields are known from their bytes. -/
theorem encodeFields_injective : Function.Injective encodeFields := by
  intro left
  induction left with
  | nil =>
    intro right same
    cases right with
    | nil => rfl
    | cons field fields => simp [CString.terminated] at same
  | cons field fields ih =>
    intro right same
    cases right with
    | nil => simp [CString.terminated] at same
    | cons other others =>
      simp only [encodeFields_cons, CString.terminated, List.append_assoc, List.singleton_append]
        at same
      -- Both texts end at the first NUL.
      have first := congrArg (List.takeWhile (· ≠ 0)) same
      rw [CString.takeWhile_append_nul field.nulFree, CString.takeWhile_append_nul other.nulFree]
        at first
      obtain rfl := CString.ext first
      rw [List.append_cancel_left_eq, List.cons.injEq] at same
      rw [ih same.2]

/-- A field that fits is appended. -/
theorem groupPayloadAdd_fits {payload : GroupPayload} {field : CString}
    (fits : payload.data.length + field.length + 1 ≤ packetDataMax) :
    ∃ extended, groupPayloadAdd payload field = (.ok, extended) ∧
      extended.data = payload.data ++ field.terminated := by
  rw [groupPayloadAdd, dif_pos fits]
  exact ⟨_, rfl, rfl⟩

/-- Fields that fit are appended in order. -/
theorem groupPayloadAddAll_fits {payload : GroupPayload} {fields : List CString}
    (fits : payload.data.length + (encodeFields fields).length ≤ packetDataMax) :
    ∃ extended, groupPayloadAddAll payload fields = (.ok, extended) ∧
      extended.data = payload.data ++ encodeFields fields := by
  induction fields generalizing payload with
  | nil => exact ⟨payload, rfl, (List.append_nil _).symm⟩
  | cons field fields ih =>
    rw [encodeFields_cons, List.length_append, CString.terminated_length] at fits
    have first : payload.data.length + field.length + 1 ≤ packetDataMax := by omega
    obtain ⟨next, added, data⟩ := groupPayloadAdd_fits first
    have later : next.data.length + (encodeFields fields).length ≤ packetDataMax := by
      rw [data, List.length_append, CString.terminated_length]
      omega
    obtain ⟨extended, all, whole⟩ := ih later
    refine ⟨extended, ?_, ?_⟩
    · rw [groupPayloadAddAll, added]
      exact all
    · rw [whole, data, encodeFields_cons, List.append_assoc]

/-- Fields that do not fit are refused. -/
theorem groupPayloadAddAll_full {payload : GroupPayload} {fields : List CString}
    (full : packetDataMax < payload.data.length + (encodeFields fields).length) :
    (groupPayloadAddAll payload fields).1 = .errPayload := by
  induction fields generalizing payload with
  | nil =>
    have bound := payload.length_le
    rw [encodeFields_nil, List.length_nil] at full
    omega
  | cons field fields ih =>
    rw [groupPayloadAddAll]
    by_cases fits : payload.data.length + field.length + 1 ≤ packetDataMax
    · obtain ⟨next, added, data⟩ := groupPayloadAdd_fits fits
      rw [added]
      refine ih ?_
      rw [encodeFields_cons, List.length_append, CString.terminated_length] at full
      rw [data, List.length_append, CString.terminated_length]
      omega
    · rw [groupPayloadAdd, dif_neg fits]

/-- Fields that fit into an empty payload are its data. -/
theorem groupPayloadAddAll_init {fields : List CString}
    (fits : (encodeFields fields).length ≤ packetDataMax) :
    ∃ payload, groupPayloadAddAll groupPayloadInit fields = (.ok, payload) ∧
      payload.data = encodeFields fields :=
  groupPayloadAddAll_fits ((Nat.zero_add _).symm ▸ fits)

/-- Fields that do not fit into an empty payload are refused. -/
theorem groupPayloadAddAll_init_full {fields : List CString}
    (full : packetDataMax < (encodeFields fields).length) :
    (groupPayloadAddAll groupPayloadInit fields).1 = .errPayload :=
  groupPayloadAddAll_full ((Nat.zero_add _).symm ▸ full)

/-! ## Reading the fields back -/

/-- Reading the bytes of a text collects them. -/
theorem groupPayloadParseLoop_field {text : List UInt8} (nulFree : 0 ∉ text) (rest field : List UInt8)
    (fields : List CString) :
    groupPayloadParseLoop (text ++ rest) field fields =
      groupPayloadParseLoop rest (field ++ text) fields := by
  induction text generalizing field with
  | nil => rw [List.nil_append, List.append_nil]
  | cons byte text ih =>
    rw [List.mem_cons, not_or] at nulFree
    rw [List.cons_append, groupPayloadParseLoop, if_pos fun zero => nulFree.1 zero.symm,
      ih nulFree.2, List.append_assoc]
    rfl

/-- Reading encoded fields collects them. -/
theorem groupPayloadParseLoop_fields {added : List CString} (fields : List CString)
    (few : fields.length + added.length ≤ groupPayloadMaxFields)
    (short : ∀ field ∈ added, field.length < packetDataMax) :
    groupPayloadParseLoop (encodeFields added) [] fields = .ok (fields ++ added) := by
  induction added generalizing fields with
  | nil => rw [encodeFields_nil, groupPayloadParseLoop, List.append_nil]
  | cons field added ih =>
    obtain ⟨first, later⟩ := List.forall_mem_cons.mp short
    rw [List.length_cons] at few
    rw [encodeFields_cons, CString.terminated, List.append_assoc,
      groupPayloadParseLoop_field field.nulFree, List.nil_append, List.singleton_append,
      groupPayloadParseLoop, if_neg (by simp), if_neg (by omega),
      if_neg (show ¬ field.bytes.length ≥ packetDataMax from Nat.not_le.mpr first),
      CString.ofBytes_bytes, ih _ (by simpa [Nat.add_assoc, Nat.add_comm 1] using few) later,
      List.append_assoc]
    rfl

/-- Encoded fields end in a NUL. -/
theorem encodeFields_getLast? {fields : List CString} (nonempty : fields ≠ []) :
    (encodeFields fields).getLast? = some 0 := by
  induction fields with
  | nil => contradiction
  | cons field fields ih =>
    cases fields with
    | nil => simp [CString.terminated]
    | cons next fields =>
      have last := ih (by simp)
      rw [encodeFields_cons, List.getLast?_append, last]
      rfl

/-- Each field is shorter than the whole. -/
theorem length_lt_encodeFields {fields : List CString} {field : CString} (member : field ∈ fields) :
    field.length < (encodeFields fields).length := by
  obtain ⟨before, after, rfl⟩ := List.append_of_mem member
  simp only [encodeFields, List.flatMap_append, List.flatMap_cons, List.length_append,
    CString.terminated_length]
  omega

/-- `group_payload_parse` returns the fields that were encoded. -/
theorem groupPayloadParse_encodeFields {fields : List CString} (nonempty : fields ≠ [])
    (few : fields.length ≤ groupPayloadMaxFields)
    (fits : (encodeFields fields).length ≤ packetDataMax) :
    groupPayloadParse (encodeFields fields) = .ok fields := by
  have last := encodeFields_getLast? nonempty
  have some_ : (encodeFields fields).length ≠ 0 := by
    intro zero
    rw [List.length_eq_zero_iff] at zero
    rw [zero] at last
    contradiction
  have legal : ¬ ((encodeFields fields).length > packetDataMax ∨
      (encodeFields fields).getLast? ≠ some 0) := by
    rw [last]
    simpa using fits
  rw [groupPayloadParse, if_neg some_, if_neg legal,
    groupPayloadParseLoop_fields [] (by simpa using few), List.nil_append]
  exact fun field member => lt_of_lt_of_le (length_lt_encodeFields member) fits

/-- Without the last terminator, encoded fields are separated by NULs. -/
theorem encodeFields_dropLast {fields : List CString} (nonempty : fields ≠ []) :
    (encodeFields fields).dropLast = [(0 : UInt8)].intercalate (fields.map CString.bytes) := by
  induction fields with
  | nil => contradiction
  | cons field fields ih =>
    cases fields with
    | nil => simp [CString.terminated, List.intercalate]
    | cons next fields =>
      have later := ih (by simp)
      have some_ : encodeFields (next :: fields) ≠ [] := by simp [CString.terminated]
      rw [encodeFields_cons, List.dropLast_append_of_ne_nil some_, later, List.map_cons,
        List.map_cons, List.map_cons, List.intercalate_cons_cons, CString.terminated]

/-- The gateway reads encoded fields as their texts. -/
theorem decodeGroupFields_encodeFields {fields : List CString} (nonempty : fields ≠ []) :
    Web.decodeGroupFields (encodeFields fields) =
      some (fields.map fun field => Utf8.decode field.bytes) := by
  have last := encodeFields_getLast? nonempty
  have some_ : (encodeFields fields).length ≠ 0 := by
    intro zero
    rw [List.length_eq_zero_iff] at zero
    rw [zero] at last
    contradiction
  have texts : ∀ text ∈ fields.map CString.bytes, 0 ∉ text := by
    intro text member
    obtain ⟨field, _, rfl⟩ := List.mem_map.mp member
    exact field.nulFree
  rw [Web.decodeGroupFields, if_neg some_, last, if_neg (by simp), encodeFields_dropLast nonempty,
    Utf8.decode_splitOn (by simpa using nonempty) texts, List.map_map]
  rfl

/-! ## The payloads of group messages and events -/

/-- The fields of a message payload. -/
def messageFields (snapshot : GroupSnapshot) (text : CString) : List CString :=
  [snapshot.id.toCString, snapshot.name.toCString, text]

/-- A message payload that fits has the group's id and name and the text. -/
theorem groupPayloadBuildMessage_fits {snapshot : GroupSnapshot} {text : CString}
    (nonempty : text.length ≠ 0)
    (fits : (encodeFields (messageFields snapshot text)).length ≤ packetDataMax) :
    ∃ payload, groupPayloadBuildMessage snapshot text = (.ok, payload) ∧
      payload.data = encodeFields (messageFields snapshot text) := by
  rw [groupPayloadBuildMessage, if_neg nonempty]
  exact groupPayloadAddAll_init fits

/-- A message payload that does not fit is refused. -/
theorem groupPayloadBuildMessage_full {snapshot : GroupSnapshot} {text : CString}
    (nonempty : text.length ≠ 0)
    (full : packetDataMax < (encodeFields (messageFields snapshot text)).length) :
    (groupPayloadBuildMessage snapshot text).1 = .errPayload := by
  rw [groupPayloadBuildMessage, if_neg nonempty]
  exact groupPayloadAddAll_init_full full

/-- The gateway decodes a message payload to the group's id and name and the text. -/
theorem decodeGroupMessagePayload_encodeFields (id name text : CString) :
    Web.decodeGroupMessagePayload (encodeFields [id, name, text]) =
      some (Utf8.decode id.bytes, Utf8.decode name.bytes, Utf8.decode text.bytes) := by
  rw [Web.decodeGroupMessagePayload, decodeGroupFields_encodeFields (by simp)]
  rfl

/-- The fields of an event payload. -/
def eventFields (event : CString) (snapshot : GroupSnapshot) : List CString :=
  event :: recordFields snapshot

/-- An event payload is built by adding its fields. -/
theorem groupPayloadBuildEvent_eq (event : CString) (snapshot : GroupSnapshot) :
    groupPayloadBuildEvent event snapshot =
      groupPayloadAddAll groupPayloadInit (eventFields event snapshot) := by
  rw [groupPayloadBuildEvent, eventFields, groupPayloadAddAll]
  rfl

/-- An event payload that fits has the event and the fields of the group. -/
theorem groupPayloadBuildEvent_fits {event : CString} {snapshot : GroupSnapshot}
    (fits : (encodeFields (eventFields event snapshot)).length ≤ packetDataMax) :
    ∃ payload, groupPayloadBuildEvent event snapshot = (.ok, payload) ∧
      payload.data = encodeFields (eventFields event snapshot) := by
  rw [groupPayloadBuildEvent_eq]
  exact groupPayloadAddAll_init fits

/-- An event payload that does not fit is refused. -/
theorem groupPayloadBuildEvent_full {event : CString} {snapshot : GroupSnapshot}
    (full : packetDataMax < (encodeFields (eventFields event snapshot)).length) :
    (groupPayloadBuildEvent event snapshot).1 = .errPayload := by
  rw [groupPayloadBuildEvent_eq]
  exact groupPayloadAddAll_init_full full

/-- A payload that was built has the fields of the event. -/
theorem groupPayloadBuildEvent_ok {event : CString} {snapshot : GroupSnapshot}
    {payload : GroupPayload} (built : groupPayloadBuildEvent event snapshot = (.ok, payload)) :
    payload.data = encodeFields (eventFields event snapshot) := by
  by_cases fits : (encodeFields (eventFields event snapshot)).length ≤ packetDataMax
  · obtain ⟨payload', same, data⟩ := groupPayloadBuildEvent_fits fits
    rw [built] at same
    cases same
    exact data
  · have refused := groupPayloadBuildEvent_full (Nat.lt_of_not_le fits)
    rw [built] at refused
    contradiction

/-- An event has few enough fields to be read back. -/
theorem eventFields_length_le {event : CString} {snapshot : GroupSnapshot}
    (bound : snapshot.memberCount ≤ groupMaxMembers) :
    (eventFields event snapshot).length ≤ groupPayloadMaxFields := by
  have count := GroupSnapshot.memberNames_length bound
  simp only [eventFields, recordFields, List.length_cons, List.length_append, List.length_nil,
    count]
  exact le_trans (Nat.succ_le_succ (Nat.add_le_add_left bound 4)) (by decide)

end MultiUserChat
