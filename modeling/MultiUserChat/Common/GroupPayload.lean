import MultiUserChat.Common.Protocol
/-!
# Group payloads

The payload half of `common/group.c`: NUL-terminated fields packed into the data of one packet, and
the snapshot of a group that records and events are built from. A `GroupPayload` holds the bytes up
to its length, which never exceeds the array.
-/

namespace MultiUserChat

/-- `GroupResult` -/
inductive GroupResult
  | ok | errInvalid | errFull | errNotFound | errNotMember | errPayload
deriving DecidableEq, Repr

/-- `group_result_message` -/
def groupResultMessage : GroupResult → CString
  | .ok => CString.ofString "成功"
  | .errInvalid => CString.ofString "群聊输入不合法"
  | .errFull => CString.ofString "群聊数量或成员数量已达上限"
  | .errNotFound => CString.ofString "群聊不存在"
  | .errNotMember => CString.ofString "当前用户不在该群聊中"
  | .errPayload => CString.ofString "群聊协议数据不合法"

/-- `GROUP_EVENT_CREATED` -/
def groupEventCreated : CString := CString.ofString "created"

/-- `GROUP_EVENT_MEMBER_LEFT` -/
def groupEventMemberLeft : CString := CString.ofString "member_left"

/-- `GroupPayload` -/
structure GroupPayload where
  /-- The bytes of `data` up to the length. -/
  data : List UInt8
  /-- They are within the array. -/
  length_le : data.length ≤ packetDataMax
deriving DecidableEq

/-- `GroupSnapshot` -/
structure GroupSnapshot where
  /-- Group identifier. -/
  id : FixedString groupIdMaxLen
  /-- Group name. -/
  name : FixedString groupNameMaxLen
  /-- User that created the group. -/
  creator : FixedString usernameMaxLen
  /-- Member slots. -/
  members : List.Vector (FixedString usernameMaxLen) groupMaxMembers
  /-- Number of slots in use. -/
  memberCount : Nat
deriving DecidableEq

/-- The names in the slots that are in use. -/
def GroupSnapshot.memberNames (snapshot : GroupSnapshot) : List CString :=
  (snapshot.members.toList.take snapshot.memberCount).map FixedString.toCString

/-- `group_payload_init` -/
def groupPayloadInit : GroupPayload := ⟨[], by decide⟩

/-- `group_payload_add` -/
def groupPayloadAdd (payload : GroupPayload) (field : CString) : GroupResult × GroupPayload :=
  if fits : payload.data.length + field.length + 1 ≤ packetDataMax then
    (.ok, ⟨payload.data ++ field.terminated, by
      rw [List.length_append, CString.terminated_length]
      omega⟩)
  else (.errPayload, payload)

/-- A sequence of `group_payload_add` calls that stops at the first refusal. -/
def groupPayloadAddAll (payload : GroupPayload) : List CString → GroupResult × GroupPayload
  | [] => (.ok, payload)
  | field :: rest =>
    match groupPayloadAdd payload field with
    | (.ok, extended) => groupPayloadAddAll extended rest
    | (_, refused) => (.errPayload, refused)

/-- The loop of `group_payload_parse` over the bytes that are left, with the bytes of the field
being read and the fields before it. -/
def groupPayloadParseLoop : List UInt8 → List UInt8 → List CString → Except GroupResult (List CString)
  | [], _, fields => .ok fields
  | byte :: rest, field, fields =>
    if byte ≠ 0 then groupPayloadParseLoop rest (field ++ [byte]) fields
    else if fields.length ≥ groupPayloadMaxFields then .error .errPayload
    else if field.length ≥ packetDataMax then .error .errPayload
    else groupPayloadParseLoop rest [] (fields ++ [CString.ofBytes field])

/-- `group_payload_parse` -/
def groupPayloadParse (data : List UInt8) : Except GroupResult (List CString) :=
  if data.length = 0 then .ok []
  else if data.length > packetDataMax ∨ data.getLast? ≠ some 0 then .error .errPayload
  else groupPayloadParseLoop data [] []

/-- The fields `group_payload_build_record` adds, in order. -/
def recordFields (snapshot : GroupSnapshot) : List CString :=
  [snapshot.id.toCString, snapshot.name.toCString, snapshot.creator.toCString,
    decimal 0 snapshot.memberCount] ++ snapshot.memberNames

/-- `group_payload_build_record` -/
def groupPayloadBuildRecord (payload : GroupPayload) (snapshot : GroupSnapshot) :
    GroupResult × GroupPayload :=
  groupPayloadAddAll payload (recordFields snapshot)

/-- `group_payload_build_event` -/
def groupPayloadBuildEvent (event : CString) (snapshot : GroupSnapshot) :
    GroupResult × GroupPayload :=
  match groupPayloadAdd groupPayloadInit event with
  | (.ok, payload) => groupPayloadBuildRecord payload snapshot
  | (_, payload) => (.errPayload, payload)

/-- `group_payload_build_message` -/
def groupPayloadBuildMessage (snapshot : GroupSnapshot) (text : CString) :
    GroupResult × GroupPayload :=
  if text.length = 0 then (.errInvalid, groupPayloadInit)
  else
    groupPayloadAddAll groupPayloadInit [snapshot.id.toCString, snapshot.name.toCString, text]

end MultiUserChat
