import MultiUserChat.Verif.GatewayActions
import MultiUserChat.Verif.Payload
/-!
# The group payload format

The C writer and the gateway's writer produce the same bytes for the same fields and refuse the same
lists; the two readers return what was written. What the C reader accepts is exactly what the writer
can produce with at most 128 fields, so reading and writing again gives back the bytes.
-/

namespace MultiUserChat

open Web

/-! ## What is written -/

/-- The gateway's bytes of a field are those of the field as C reads it. -/
theorem encode_terminated {field : Text} (nulFree : 0 ∉ field) :
    Utf8.encode (field ++ [0]) = (wireName field).terminated := by
  have bytes : (wireName field).bytes = Utf8.encode field :=
    CString.takeWhile_nulFree fun zero => nulFree (Utf8.zero_mem_encode.mp zero)
  rw [Utf8.encode_append, CString.terminated, bytes]
  rfl

/-- A field is accepted as it is, when it has no NUL and is not empty or may be so. -/
theorem assertGroupField_ok {value field : Text} {fieldName : String} {allowEmpty : Bool} :
    assertGroupField value fieldName allowEmpty = .ok field ↔
      (allowEmpty = true ∨ value ≠ []) ∧ 0 ∉ value ∧ field = value := by
  have empty : ¬((!allowEmpty) = true ∧ value.length = 0) ↔ allowEmpty = true ∨ value ≠ [] := by
    rw [List.length_eq_zero_iff]
    cases allowEmpty <;> simp
  unfold assertGroupField
  constructor
  · intro accepted
    split at accepted
    · contradiction
    rename_i given
    split at accepted
    · contradiction
    rename_i nulFree
    exact ⟨empty.mp given, nulFree, (Except.ok.inj accepted).symm⟩
  · rintro ⟨given, nulFree, rfl⟩
    rw [if_neg (empty.mpr given), if_neg nulFree]

/-- The gateway's writer appends the fields as long as they fit. -/
theorem encodeGroupFieldsFrom_eq {total : Nat} {fields : List Text}
    (nulFree : ∀ field ∈ fields, 0 ∉ field) (room : total ≤ packetDataMax) :
    (∃ message, encodeGroupFieldsFrom total fields = .error message) ∧
        packetDataMax < total + (encodeFields (fields.map wireName)).length ∨
      encodeGroupFieldsFrom total fields = .ok (encodeFields (fields.map wireName)) ∧
        total + (encodeFields (fields.map wireName)).length ≤ packetDataMax := by
  induction fields generalizing total with
  | nil => exact .inr ⟨rfl, room⟩
  | cons field fields ih =>
    obtain ⟨first, rest⟩ := List.forall_mem_cons.mp nulFree
    have accepted : assertGroupField field "群字段" true = .ok field :=
      assertGroupField_ok.mpr ⟨.inl rfl, first, rfl⟩
    rw [List.map_cons, encodeFields_cons, List.length_append, ← encode_terminated first]
    generalize written : Utf8.encode (field ++ [0]) = bytes
    by_cases fits : total + bytes.length ≤ packetDataMax
    · have step : encodeGroupFieldsFrom total (field :: fields) =
          (encodeGroupFieldsFrom (total + bytes.length) fields).map (bytes ++ ·) := by
        rw [encodeGroupFieldsFrom, accepted]
        simp only [bind, Except.bind, written, if_neg (Nat.not_lt.mpr fits)]
        cases encodeGroupFieldsFrom (total + bytes.length) fields <;> rfl
      rw [step]
      rcases ih rest fits with ⟨⟨message, refused⟩, long⟩ | ⟨encoded, short⟩
      · exact .inl ⟨⟨message, by rw [refused]; rfl⟩, by omega⟩
      · exact .inr ⟨by rw [encoded]; rfl, by omega⟩
    · refine .inl ⟨?_, by omega⟩
      rw [encodeGroupFieldsFrom, accepted]
      simp only [bind, Except.bind, written, if_pos (Nat.not_le.mp fits)]
      exact ⟨_, rfl⟩

/-- The gateway writes the bytes the C writer produces, or refuses what it refuses. -/
theorem encodeGroupFields_eq {fields : List Text} (nulFree : ∀ field ∈ fields, 0 ∉ field) :
    (∃ message, encodeGroupFields fields = .error message) ∧
        packetDataMax < (encodeFields (fields.map wireName)).length ∨
      encodeGroupFields fields = .ok (encodeFields (fields.map wireName)) ∧
        (encodeFields (fields.map wireName)).length ≤ packetDataMax := by
  have cases_ := encodeGroupFieldsFrom_eq nulFree (Nat.zero_le packetDataMax)
  rwa [Nat.zero_add] at cases_

/-- What the gateway writes is the encoding of the fields, and fits. -/
theorem encodeGroupFields_ok {fields : List Text} (nulFree : ∀ field ∈ fields, 0 ∉ field)
    {bytes : List UInt8} (encoded : encodeGroupFields fields = .ok bytes) :
    encodeFields (fields.map wireName) = bytes ∧
      (encodeFields (fields.map wireName)).length ≤ packetDataMax := by
  rcases encodeGroupFields_eq nulFree with ⟨⟨message, refused⟩, _⟩ | ⟨written, short⟩
  · rw [refused] at encoded
    contradiction
  · rw [written] at encoded
    exact ⟨Except.ok.inj encoded, short⟩

/-- Each field takes its bytes and a NUL. -/
theorem encodeFields_length {fields : List Text} (nulFree : ∀ field ∈ fields, 0 ∉ field) :
    (encodeFields (fields.map wireName)).length =
      (fields.map fun field => (Utf8.encode field).length + 1).sum := by
  induction fields with
  | nil => rfl
  | cons field fields ih =>
    obtain ⟨first, rest⟩ := List.forall_mem_cons.mp nulFree
    rw [List.map_cons, encodeFields_cons, List.length_append, ih rest, ← encode_terminated first,
      Utf8.encode_append, List.length_append]
    rfl

/-- A refused field leaves the payload as it was. -/
theorem groupPayloadAdd_refused {payload : GroupPayload} {field : CString}
    (refused : (groupPayloadAdd payload field).1 ≠ .ok) :
    (groupPayloadAdd payload field).2 = payload := by
  unfold groupPayloadAdd at refused ⊢
  split
  · rename_i fits
    rw [dif_pos fits] at refused
    exact absurd rfl refused
  · rfl

/-! ## What is read -/

/-- A text that is empty or ends in a NUL is the encoding of as many fields as it has NULs. -/
theorem exists_fields (data : List UInt8) (closed : data = [] ∨ data.getLast? = some 0) :
    ∃ fields, encodeFields fields = data ∧ fields.length = data.count 0 := by
  induction size : data.length using Nat.strong_induction_on generalizing data with
  | _ size ih =>
    rcases closed with rfl | last
    · exact ⟨[], rfl, rfl⟩
    · obtain ⟨field, rest, rfl, nulFree⟩ := List.eq_append_cons_of_mem (List.mem_of_getLast? last)
      have closed : rest = [] ∨ rest.getLast? = some 0 := by
        cases rest with
        | nil => exact .inl rfl
        | cons byte rest => exact .inr (by simpa using last)
      rw [List.length_append, List.length_cons] at size
      obtain ⟨fields, encoded, count⟩ := ih rest.length (by omega) rest closed rfl
      refine ⟨⟨field, nulFree⟩ :: fields, ?_, ?_⟩
      · rw [encodeFields_cons, encoded, CString.terminated, List.append_assoc]
        rfl
      · rw [List.length_cons, count, List.count_append, List.count_cons_self,
          List.count_eq_zero.mpr nulFree, Nat.zero_add]

/-- Reading more fields than there are slots fails. -/
theorem groupPayloadParseLoop_many {added : List CString} (fields : List CString)
    (few : fields.length ≤ groupPayloadMaxFields)
    (many : groupPayloadMaxFields < fields.length + added.length) :
    groupPayloadParseLoop (encodeFields added) [] fields = .error .errPayload := by
  induction added generalizing fields with
  | nil => exact absurd many (Nat.not_lt.mpr few)
  | cons field added ih =>
    rw [List.length_cons] at many
    rw [encodeFields_cons, CString.terminated, List.append_assoc,
      groupPayloadParseLoop_field field.nulFree, List.nil_append, List.singleton_append,
      groupPayloadParseLoop, if_neg (by simp)]
    split
    · rfl
    rename_i room
    split
    · rfl
    · rw [CString.ofBytes_bytes]
      have longer : (fields ++ [field]).length = fields.length + 1 := List.length_append
      exact ih _ (by omega) (by omega)

/-- Encoded fields hold one NUL each. -/
theorem encodeFields_count (fields : List CString) :
    (encodeFields fields).count 0 = fields.length := by
  induction fields with
  | nil => rfl
  | cons field fields ih =>
    rw [encodeFields_cons, CString.terminated, List.append_assoc, List.count_append,
      List.count_eq_zero.mpr field.nulFree, List.singleton_append, List.count_cons_self, ih,
      List.length_cons, Nat.zero_add]

/-- The C reader returns the encoded fields unless they are too long or too many. -/
theorem groupPayloadParse_eq (fields : List CString) :
    groupPayloadParse (encodeFields fields) =
      if (encodeFields fields).length ≤ packetDataMax ∧ fields.length ≤ groupPayloadMaxFields then
        .ok fields
      else .error .errPayload := by
  cases empty : fields with
  | nil => rfl
  | cons field rest =>
    rw [← empty]
    have nonempty : fields ≠ [] := by simp [empty]
    by_cases fits : (encodeFields fields).length ≤ packetDataMax
    · by_cases few : fields.length ≤ groupPayloadMaxFields
      · rw [if_pos ⟨fits, few⟩, groupPayloadParse_encodeFields nonempty few fits]
      · have last := encodeFields_getLast? nonempty
        rw [if_neg fun legal => few legal.2, groupPayloadParse, if_neg (by
          rw [List.length_eq_zero_iff]
          intro none_
          rw [none_] at last
          contradiction), if_neg (by simpa [last] using fits)]
        exact groupPayloadParseLoop_many [] (Nat.zero_le _) (by simpa using few)
    · rw [if_neg fun legal => fits legal.1, groupPayloadParse, if_neg (by
        intro none_
        rw [none_] at fits
        exact fits (Nat.zero_le _)), if_pos (.inl (Nat.not_le.mp fits))]

/-- What the C reader accepts is an encoding that is neither too long nor of too many fields. -/
theorem groupPayloadParse_ok_iff (data : List UInt8) (fields : List CString) :
    groupPayloadParse data = .ok fields ↔
      encodeFields fields = data ∧ data.length ≤ packetDataMax ∧
        fields.length ≤ groupPayloadMaxFields := by
  constructor
  · intro read
    have closed : data = [] ∨ data.getLast? = some 0 := by
      unfold groupPayloadParse at read
      split at read
      · rename_i empty
        exact .inl (List.length_eq_zero_iff.mp empty)
      split at read
      · contradiction
      · rename_i legal
        exact .inr (not_not.mp (not_or.mp legal).2)
    obtain ⟨written, rfl, _⟩ := exists_fields data closed
    rw [groupPayloadParse_eq] at read
    split at read
    · rename_i legal
      cases read
      exact ⟨rfl, legal⟩
    · contradiction
  · rintro ⟨rfl, legal⟩
    rw [groupPayloadParse_eq, if_pos legal]

/-! ## Both directions -/

/-- The C writer succeeds exactly when the encoded fields fit, and then they are its bytes. -/
theorem groupPayloadAddAll_ok (fields : List CString) :
    ((groupPayloadAddAll groupPayloadInit fields).1 = .ok ↔
        (encodeFields fields).length ≤ packetDataMax) ∧
      ((groupPayloadAddAll groupPayloadInit fields).1 = .ok →
        (groupPayloadAddAll groupPayloadInit fields).2.data = encodeFields fields) := by
  by_cases fits : (encodeFields fields).length ≤ packetDataMax
  · obtain ⟨payload, added, data⟩ := groupPayloadAddAll_init fits
    rw [added]
    exact ⟨iff_of_true rfl fits, fun _ => data⟩
  · have refused := groupPayloadAddAll_init_full (Nat.not_le.mp fits)
    rw [refused]
    exact ⟨iff_of_false (by simp) fits, fun accepted => by simp at accepted⟩

/-- The gateway's reader returns the texts that were written. -/
theorem decodeGroupFields_wire {fields : List Text} (nulFree : ∀ field ∈ fields, 0 ∉ field)
    (valid : ∀ field ∈ fields, ∀ point ∈ field, Utf8.Scalar point) :
    decodeGroupFields (encodeFields (fields.map wireName)) = some fields := by
  cases empty : fields with
  | nil => rfl
  | cons field rest =>
    rw [← empty, decodeGroupFields_encodeFields (by simp [empty]), List.map_map]
    refine congrArg some ((List.map_congr_left fun field member => ?_).trans (List.map_id fields))
    have bytes : (wireName field).bytes = Utf8.encode field :=
      CString.takeWhile_nulFree fun zero => nulFree field member (Utf8.zero_mem_encode.mp zero)
    rw [Function.comp_apply, bytes, Utf8.decode_encode_of_scalar (valid field member), id]

/-- The two writers agree on success and bytes, and succeed exactly when each field with a NUL fits; a
refused field leaves the payload as it was. The C reader returns up to 128 fields that were
written and the gateway's reader all of them. The C reader accepts exactly the empty text and
texts of at most 1024 bytes that end in a NUL and have at most 128 of them; writing what it
returns gives back the text. -/
theorem groupPayload_format :
    (∀ fields : List Text, (∀ field ∈ fields, 0 ∉ field) →
      let added := groupPayloadAddAll groupPayloadInit (fields.map wireName)
      (added.1 = .ok ↔ ∃ bytes, encodeGroupFields fields = .ok bytes) ∧
      (added.1 = .ok ↔
        (fields.map fun field => (Utf8.encode field).length + 1).sum ≤ packetDataMax) ∧
      (∀ bytes, encodeGroupFields fields = .ok bytes → added.2.data = bytes) ∧
      ((∀ field ∈ fields, ∀ point ∈ field, Utf8.Scalar point) →
        ∀ bytes, encodeGroupFields fields = .ok bytes → decodeGroupFields bytes = some fields)) ∧
    (∀ payload field, (groupPayloadAdd payload field).1 ≠ .ok →
      (groupPayloadAdd payload field).2 = payload) ∧
    (∀ (fields : List CString) (payload : GroupPayload),
      groupPayloadAddAll groupPayloadInit fields = (.ok, payload) →
        fields.length ≤ groupPayloadMaxFields → groupPayloadParse payload.data = .ok fields) ∧
    (∀ data : List UInt8, (∃ fields, groupPayloadParse data = .ok fields) ↔
      data = [] ∨ data.length ≤ packetDataMax ∧ data.getLast? = some 0 ∧
        data.count 0 ≤ groupPayloadMaxFields) ∧
    ∀ (data : List UInt8) (fields : List CString), groupPayloadParse data = .ok fields →
      ∃ payload, groupPayloadAddAll groupPayloadInit fields = (.ok, payload) ∧
        payload.data = data := by
  refine ⟨fun fields nulFree => ?_, fun payload field => groupPayloadAdd_refused,
    fun fields payload added few => ?_, fun data => ?_, fun data fields read => ?_⟩
  · obtain ⟨succeeds, data⟩ := groupPayloadAddAll_ok (fields.map wireName)
    refine ⟨succeeds.trans ?_, succeeds.trans ?_, fun bytes encoded => ?_, fun valid bytes encoded => ?_⟩
    · rcases encodeGroupFields_eq nulFree with ⟨⟨message, refused⟩, long⟩ | ⟨encoded, short⟩
      · exact iff_of_false (Nat.not_le.mpr long) (by simp [refused])
      · exact iff_of_true short ⟨_, encoded⟩
    · rw [encodeFields_length nulFree]
    · obtain ⟨same, short⟩ := encodeGroupFields_ok nulFree encoded
      rw [data (succeeds.mpr short), same]
    · rw [← (encodeGroupFields_ok nulFree encoded).1]
      exact decodeGroupFields_wire nulFree valid
  · obtain ⟨succeeds, data⟩ := groupPayloadAddAll_ok fields
    rw [added] at succeeds data
    rw [groupPayloadParse_ok_iff, data rfl]
    exact ⟨rfl, succeeds.mp rfl, few⟩
  · simp only [groupPayloadParse_ok_iff]
    constructor
    · rintro ⟨fields, rfl, fits, few⟩
      rw [encodeFields_count]
      by_cases empty : fields = []
      · exact .inl (by rw [empty]; rfl)
      · exact .inr ⟨fits, encodeFields_getLast? empty, few⟩
    · intro legal
      have closed : data = [] ∨ data.getLast? = some 0 := legal.imp id fun rest => rest.2.1
      obtain ⟨fields, rfl, count⟩ := exists_fields data closed
      refine ⟨fields, rfl, ?_⟩
      rcases legal with empty | ⟨fits, _, few⟩
      · rw [count, empty]
        decide
      · exact ⟨fits, count ▸ few⟩
  · obtain ⟨rfl, fits, _⟩ := (groupPayloadParse_ok_iff data fields).mp read
    exact groupPayloadAddAll_init fits

end MultiUserChat
