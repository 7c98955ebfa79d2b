import MultiUserChat.Library.Base64
import MultiUserChat.Library.CString
import MultiUserChat.Library.JsonText
import MultiUserChat.Web.Page
/-!
# The browser's messages

`handleMessage` of `web/server.js` from the bytes that arrive on: the text is read as JSON, the action
is picked by its name, and the fields are converted with `String(value || '')`, `Number(value)` and
`Buffer.from(text, 'base64')`. A conversion throws an error for an object that hides its own
conversion to a string. What remains of a message is an `Action`, which `Gateway.handleMessage` takes.

The ports of the web servers in the answer to `check` are left out, and so is the UDP socket, with
which nothing else is shared. What the runtime makes of a host that is no string is a parameter: the
message of the error that `net.createConnection` throws for it, if it is known to throw one
(`Settings.refusal`); when it is not, there is no state after the message.
-/

namespace MultiUserChat.Web

/-! ## Numbers as texts -/

/-- The decimal digits of a natural number. -/
def digitsText (value : Nat) : Text := (decimalDigits value).map UInt8.toNat

namespace Number

/-- The decimal of some digits that is closest to a positive number among those that a double reads as
the number: its digits and the position of the point behind their front. Next to a power of two it may
be on the other side of the number than the closest decimal of all, so both sides are tried. -/
def decimalOf (value : ℚ) (digits : Nat) : Option (Nat × ℤ) :=
  let position := Int.log 10 value + 1
  let place := (10 : ℚ) ^ (position - digits)
  let below := ⌊value / place⌋.toNat
  let nearest := (nearestEven (value / place)).toNat
  let other := if nearest = below then below + 1 else below
  let read (decimal : Nat) : Bool := round (decimal * place) = .finite value
  ([nearest, other].find? read).map fun decimal =>
    if decimal = 10 ^ digits then (10 ^ (digits - 1), position + 1) else (decimal, position)

/-- The shortest decimal that a double reads as a positive number, from some number of digits on; with
seventeen there is one. -/
def shortest (value : ℚ) : Nat → Nat → Nat × Nat × ℤ
  | 0, digits => (digits, 0, 0)
  | turns + 1, digits =>
    match decimalOf value digits with
    | some (decimal, position) => (digits, decimal, position)
    | none => shortest value turns (digits + 1)

/-- A positive number as a text. -/
def positiveText (value : ℚ) : Text :=
  let (digits, decimal, position) := shortest value 17 1
  let shown := digitsText decimal
  if digits ≤ position ∧ position ≤ 21 then
    shown ++ List.replicate (position - digits).toNat 0x30
  else if 0 < position ∧ position ≤ 21 then
    shown.take position.toNat ++ 0x2e :: shown.drop position.toNat
  else if -6 < position ∧ position ≤ 0 then
    literal "0." ++ List.replicate (-position).toNat 0x30 ++ shown
  else
    let exponent := position - 1
    let mantissa := if digits = 1 then shown else shown.take 1 ++ 0x2e :: shown.drop 1
    let sign := if exponent < 0 then 0x2d else 0x2b
    mantissa ++ 0x65 :: sign :: digitsText exponent.natAbs

/-- `String(number)` -/
def text : Number → Text
  | nan => literal "NaN"
  | infinity negative => if negative then literal "-Infinity" else literal "Infinity"
  | finite value =>
    if value = 0 then literal "0"
    else if value < 0 then 0x2d :: positiveText (-value)
    else positiveText value

/-- The number is not zero and not `NaN`. -/
def truthy (number : Number) : Bool := decide (number ≠ nan ∧ number ≠ finite 0)

end Number

/-! ## Values as texts and numbers -/

/-- The message of the error that is thrown for an object without a primitive value. -/
def noPrimitive : Text := literal "Cannot convert object to primitive value"

/-- `Boolean(value)` -/
def truthy : Json → Bool
  | .null => false
  | .bool value => value
  | .number written => (Number.ofText written).truthy
  | .string text => decide (text ≠ [])
  | .array _ => true
  | .object _ => true

mutual

/-- `String(value)` -/
def stringOf : Json → Except Text Text
  | .null => .ok (literal "null")
  | .bool value => .ok (if value then literal "true" else literal "false")
  | .number written => .ok (Number.ofText written).text
  | .string text => .ok text
  | .array items => do return [0x2c].intercalate (← elementTexts items)
  | .object members =>
    -- An own property of this name is no function, and what is inherited returns no primitive value.
    if members.any fun member => member.1 = literal "toString" then .error noPrimitive
    else .ok (literal "[object Object]")

/-- The elements of an array as `join` writes them. -/
def elementTexts : List Json → Except Text (List Text)
  | [] => .ok []
  | .null :: items => do return [] :: (← elementTexts items)
  | item :: items => do
    let first ← stringOf item
    return first :: (← elementTexts items)

end

/-- `Number(value)`, for a property that may be absent. -/
def numberOf : Option Json → Except Text Number
  | none => .ok .nan
  | some .null => .ok (.finite 0)
  | some (.bool value) => .ok (.finite (if value then 1 else 0))
  | some (.number written) => .ok (Number.ofText written)
  | some (.string text) => .ok (Number.ofText text)
  | some value => do return Number.ofText (← stringOf value)

/-- `parsePort` of a number. -/
def parsePort (port : Number) (fallback : Nat) : Nat :=
  match port.natural with
  | some port => if port = 0 ∨ port > 65535 then fallback else port
  | none => fallback

/-! ## Messages -/

/-- The settings that are read from the environment. -/
structure Settings where
  /-- `DEFAULT_CHAT_HOST` -/
  chatHost : Text := literal "127.0.0.1"
  /-- `DEFAULT_CHAT_PORT` -/
  chatPort : Nat := 9000
  /-- The message of the error that `net.createConnection` throws for a host that is no string. -/
  refusal : Json → Option Text := fun _ => none

/-- `String(value || '')` -/
def orEmpty (value : Option Json) : Except Text Text :=
  match value with
  | some value => if truthy value then stringOf value else .ok []
  | none => .ok []

/-- `String(msg[name] || '')` -/
def field (name : String) (msg : Json) : Except Text Text := orEmpty (msg.get (literal name))

/-- What `ensureTcp` is to connect to. -/
inductive Target
  /-- `nextConfig` with a host that is a string. -/
  | config (config : Config)
  /-- A host for which `net.createConnection` throws an error. -/
  | refused (message : Text)

/-- `nextConfig` of `ensureTcp`. -/
def targetOf (settings : Settings) (msg : Json) : Except Text (Option Target) := do
  let port ← numberOf (msg.get (literal "port"))
  let port := parsePort port settings.chatPort
  match msg.get (literal "host") with
  | none => return some (.config ⟨settings.chatHost, port⟩)
  | some (.string host) =>
    return some (.config ⟨if host = [] then settings.chatHost else host, port⟩)
  | some host =>
    return if truthy host then (settings.refusal host).map .refused
      else some (.config ⟨settings.chatHost, port⟩)

/-- The fields of `send_private`. -/
def privateOf (msg : Json) : Except Text Action := do
  return .sendPrivate (← field "receiver" msg) (← field "text" msg)

/-- The field of `send_group`. -/
def broadcastOf (msg : Json) : Except Text Action := do
  return .sendGroup (← field "text" msg)

/-- The fields of `create_group`. -/
def createGroupOf (msg : Json) : Except Text Action := do
  let name ← field "name" msg
  let members ←
    match msg.get (literal "members") with
    | some (.array items) => items.mapM fun item => orEmpty (some item)
    | _ => pure []
  return .createGroup name members

/-- The fields of `send_group_message`. -/
def groupMessageOf (msg : Json) : Except Text Action := do
  return .sendGroupMessage (← field "groupId" msg) (← field "text" msg)

/-- The fields of `send_file_begin`. -/
def fileBeginOf (msg : Json) : Except Text Action := do
  let receiver ← field "receiver" msg
  let filename ← field "filename" msg
  return .sendFileBegin receiver (basename filename) (← numberOf (msg.get (literal "filesize")))

/-- The fields of `send_file_chunk`. -/
def fileChunkOf (msg : Json) : Except Text Action := do
  let receiver ← field "receiver" msg
  return .sendFileChunk receiver (lenientDecode ((← field "dataBase64" msg).flatMap Utf16.units))

/-- The field of `send_file_end`. -/
def fileEndOf (msg : Json) : Except Text Action := do
  return .sendFileEnd (← field "receiver" msg)

namespace Gateway

/-- Tell the browser something. -/
def tell (gateway : Gateway) (notice : Notice) : Gateway :=
  { gateway with session := gateway.session.send notice }

/-- A handler that calls `requireLogin` before it converts the fields. -/
def request (gateway : Gateway) (action : Except Text Action) : Gateway :=
  match action with
  | .ok action => gateway.handleMessage action
  | .error message =>
    { gateway with session := gateway.session.requireLogin (·.sendError message) }

/-- `ensureTcp` with a host that is no string, up to where it waits: it is not the one of the current
connection, which is closed, and no name of this computer, so the error is thrown. The configuration of
the call is not looked at again. -/
def ensureRefused (gateway : Gateway) (purpose : Purpose) (message : Text) : Gateway where
  session := gateway.session.closeTcp false
  calls := gateway.calls ++ [⟨purpose, ⟨[], 0⟩, .threw message⟩]

/-- The action `connect_tcp`. -/
def connectTcp (settings : Settings) (gateway : Gateway) (msg : Json) : Option Gateway :=
  match targetOf settings msg with
  | .ok target => target.map fun
    | .config config => gateway.handleMessage (.connectTcp config)
    | .refused message => gateway.ensureRefused .connect message
  | .error message => some (gateway.tell (.error none none message))

/-- The actions `register` and `login`; the port is converted behind the validation. -/
def authenticate (settings : Settings) (gateway : Gateway) (action : AuthAction) (msg : Json) :
    Option Gateway :=
  match field "username" msg, field "password" msg with
  | .ok username, .ok password =>
    match validateAuth (trim username) password with
    | some validationError =>
      some (gateway.tell (.authResult action false validationError (trim username)))
    | none =>
      match targetOf settings msg with
      | .ok target => target.map fun
        | .config config => gateway.handleMessage (.auth action username password config)
        | .refused message => gateway.ensureRefused (.auth action (trim username) password) message
      | .error message =>
        let session := threw gateway.session (.auth action (trim username) password) message
        some { gateway with session }
  | .error message, _ => some (gateway.tell (.error none none message))
  | _, .error message => some (gateway.tell (.error none none message))

/-- The default branch of the switch of `handleMessage`. -/
def unknownAction (gateway : Gateway) (action : Option Json) : Gateway :=
  match action.elim (.ok (literal "undefined")) stringOf with
  | .ok name => gateway.tell (.error none none (literal "未知 action: " ++ name))
  | .error message => gateway.tell (.error none none message)

/-- The switch of `handleMessage`. -/
def dispatch (settings : Settings) (gateway : Gateway) (action : Text) (msg : Json) :
    Option Gateway :=
  if action = literal "check" then
    some (gateway.tell (.status "gateway_ready" none none (literal "Web 网关正常")))
  else if action = literal "connect_tcp" then gateway.connectTcp settings msg
  else if action = literal "disconnect_tcp" then some (gateway.handleMessage .disconnectTcp)
  else if action = literal "register" then gateway.authenticate settings .register msg
  else if action = literal "login" then gateway.authenticate settings .login msg
  else if action = literal "logout" then some (gateway.handleMessage .logout)
  else if action = literal "online_list" then some (gateway.handleMessage .onlineList)
  else if action = literal "send_private" then some (gateway.request (privateOf msg))
  else if action = literal "send_group" then some (gateway.request (broadcastOf msg))
  else if action = literal "group_list" then some (gateway.handleMessage .groupList)
  else if action = literal "create_group" then some (gateway.request (createGroupOf msg))
  else if action = literal "send_group_message" then some (gateway.request (groupMessageOf msg))
  else if action = literal "send_file_begin" then some (gateway.request (fileBeginOf msg))
  else if action = literal "send_file_chunk" then some (gateway.request (fileChunkOf msg))
  else if action = literal "send_file_end" then some (gateway.request (fileEndOf msg))
  else if action = literal "listen_udp" then
    match numberOf (msg.get (literal "port")) with
    | .ok _ => some gateway
    | .error message => some (gateway.tell (.error none none message))
  else some (gateway.unknownAction (some (.string action)))

/-- `handleMessage` of the bytes of a message. -/
def handleRaw (settings : Settings) (gateway : Gateway) (raw : List UInt8) : Option Gateway :=
  match Json.parse (Utf8.decode raw) with
  | none => some (gateway.tell (.error none none (literal "收到无法解析的 JSON 消息")))
  | some .null =>
    some (gateway.tell (.error none none
      (literal "Cannot read properties of null (reading 'action')")))
  | some msg =>
    match msg.get (literal "action") with
    | some (.string action) => gateway.dispatch settings action msg
    | action => some (gateway.unknownAction action)

end Gateway

end MultiUserChat.Web
