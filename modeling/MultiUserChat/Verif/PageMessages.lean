import MultiUserChat.Library.JsonSound
import MultiUserChat.Verif.Addressable
import MultiUserChat.Verif.Numerals
import MultiUserChat.Verif.PageRequests
/-!
# What the page sends is what the gateway does

A request of the page is written as JSON, encoded as UTF-8, decoded, read as JSON and converted field
by field. A string is kept by all of this, a port or a size is read from its digits as itself, and the
bytes of a file come back from their base64 text; so the gateway does what the request says.
-/

namespace MultiUserChat.Web

/-! ## Requests as actions -/

/-- The size that a request announces. -/
def PageRequest.size : PageRequest → Nat
  | sendFileBegin _ _ filesize => filesize
  | _ => 0

/-- The texts of a request are strings, and its size is a number that a double holds. -/
structure PageRequest.Writable (request : PageRequest) : Prop where
  /-- The texts. -/
  texts : ∀ text ∈ request.texts, Utf16.Paired text
  /-- The size. -/
  size : request.size < 2 ^ 53

/-- What a request asks the gateway's session for; the port for the broadcasts is no concern of the
session. -/
def PageRequest.action : PageRequest → Option Action
  | auth action username password =>
    some (.auth action (trim username) password ⟨pageChatHost, pageTcpPort⟩)
  | logout => some .logout
  | onlineList => some .onlineList
  | groupList => some .groupList
  | listenUdp => none
  | createGroup name members => some (.createGroup name members)
  | sendPrivate receiver text => some (.sendPrivate receiver text)
  | sendGroupMessage groupId text => some (.sendGroupMessage groupId text)
  | sendFileBegin receiver filename filesize =>
    some (.sendFileBegin receiver (basename filename) (.finite filesize))
  | sendFileChunk receiver bytes => some (.sendFileChunk receiver bytes)
  | sendFileEnd receiver => some (.sendFileEnd receiver)

/-! ## Written messages -/

/-- A trimmed string is a string. -/
theorem paired_trim {text : Text} (paired : Utf16.Paired text) : Utf16.Paired (trim text) := by
  have apart := List.IsChain.infix paired.apart (trim_inside text)
  exact ⟨apart, fun point inside => paired.bounded point ((trim_inside text).subset inside)⟩

/-- The digits of a number that is not zero do not begin with a zero. -/
theorem digitsText_head {value : Nat} (positive : value ≠ 0) : (digitsText value).head? ≠ some 0x30 := by
  have some : Nat.digits 10 value ≠ [] := Nat.digits_ne_nil_iff_ne_zero.mpr positive
  have last : (Nat.digits 10 value).getLast some ≠ 0 := Nat.getLast_digit_ne_zero 10 positive
  have small : (Nat.digits 10 value).getLast some < 10 :=
    Nat.digits_lt_base (by decide) (List.getLast_mem some)
  have front : (digitsText value).head? =
      Option.some (UInt8.ofNat (48 + (Nat.digits 10 value).getLast some)).toNat := by
    rw [digitsText, decimalDigits, if_neg positive, List.head?_map, List.head?_map, List.head?_reverse,
      List.getLast?_eq_some_getLast some]
    rfl
  rw [front, UInt8.toNat_ofNat']
  intro zero
  have same := Option.some.inj zero
  omega

/-- The digits of a natural number are a number of JSON. -/
theorem writtenNumber_digits (value : Nat) : Json.WrittenNumber (digitsText value) := by
  by_cases zero : value = 0
  · subst zero
    rfl
  have range := digitsText_range value
  have all : ∀ point ∈ digitsText value, Json.isDigit point = true := fun point inside =>
    decide_eq_true (range point inside)
  have minus : Json.readMinus (digitsText value) = ([], digitsText value) := by
    cases shape : digitsText value with
    | nil => rfl
    | cons point text =>
      have here := range point (by rw [shape]; exact List.mem_cons_self)
      exact if_neg (by omega)
  have whole : Json.readWhole (digitsText value) = some (digitsText value, []) := by
    rw [Json.readWhole, if_neg (digitsText_head zero), Json.readDigits,
      List.takeWhile_eq_self_iff.mpr all, List.dropWhile_eq_nil_iff.mpr all,
      if_neg (digitsText_ne_nil value)]
  have nothing : Json.readFraction [] = some ([], []) := rfl
  have nothing' : Json.readExponent [] = some ([], []) := rfl
  simp [Json.WrittenNumber, Json.readNumber, minus, whole, nothing, nothing']

/-! ## Fields -/

/-- `String(value || '')` is the text of a string. -/
theorem orEmpty_string (text : Text) : orEmpty (some (.string text)) = .ok text := by
  by_cases empty : text = []
  · subst empty
    rfl
  · simp [orEmpty, truthy, stringOf, empty]

/-- The elements of an array of strings are converted to themselves. -/
theorem mapM_orEmpty (texts : List Text) :
    (texts.map Json.string).mapM (fun item => orEmpty (some item)) = Except.ok texts := by
  induction texts with
  | nil => rfl
  | cons text texts ih =>
    rw [List.map_cons, List.mapM_cons, orEmpty_string, ih]
    rfl

/-- A field that is a string. -/
theorem field_string {name : String} {msg : Json} {text : Text}
    (found : msg.get (literal name) = some (.string text)) : field name msg = .ok text := by
  rw [field, found, orEmpty_string]

/-- `parsePort` of the digits of a port. -/
theorem parsePort_digits {port : Nat} (positive : 0 < port) (small : port ≤ 65535) (fallback : Nat) :
    parsePort (Number.ofText (digitsText port)) fallback = port := by
  rw [ofText_digitsText (by omega)]
  have natural : (Number.finite port).natural = some port := by simp [Number.natural]
  rw [parsePort, natural]
  exact if_neg (by omega)

/-! ## The gateway -/

/-- A message whose action is a string is dispatched. -/
theorem handleRaw_json {settings : Settings} {gateway : Gateway} {msg : Json} {action : Text}
    (sound : msg.Sound) (named : msg.get (literal "action") = some (.string action)) :
    gateway.handleRaw settings (Utf8.encode msg.stringify) = gateway.dispatch settings action msg := by
  rw [Gateway.handleRaw, Json.parse_received sound]
  cases msg with
  | object members => simp only [named]
  | null => cases named
  | bool value => cases named
  | number written => cases named
  | string text => cases named
  | array items => cases named

/-! ## Soundness -/

/-- A member that is a string. -/
theorem sound_stringMember {name : String} {value : Text} {members : List (List Nat × Json)}
    (named : ∀ point ∈ literal name, point < 0xd800) (paired : Utf16.Paired value)
    (later : Json.SoundMembers members) : Json.SoundMembers (stringMember name value :: members) :=
  ⟨Utf16.Paired.of_plain named, paired, later⟩

/-- A member that is a natural number. -/
theorem sound_numberMember {name : String} (value : Nat) {members : List (List Nat × Json)}
    (named : ∀ point ∈ literal name, point < 0xd800) (later : Json.SoundMembers members) :
    Json.SoundMembers (numberMember name value :: members) :=
  ⟨Utf16.Paired.of_plain named, writtenNumber_digits value, later⟩

/-- An array of strings. -/
theorem sound_strings {texts : List Text} (paired : ∀ text ∈ texts, Utf16.Paired text) :
    Json.SoundItems (texts.map .string) := by
  induction texts with
  | nil => trivial
  | cons text texts ih =>
    obtain ⟨here, later⟩ := List.forall_mem_cons.mp paired
    exact ⟨here, ih later⟩

/-- Base64 is a string. -/
theorem paired_base64 (bytes : List UInt8) : Utf16.Paired (base64Encode bytes) :=
  Utf16.Paired.of_plain fun point inside => (base64Encode_ascii bytes point inside).trans (by decide)

/-- The object of a request is sound. -/
theorem PageRequest.Writable.sound {request : PageRequest} (writable : request.Writable) :
    request.json.Sound := by
  have texts := writable.texts
  have here {name : String} (named : ∀ point ∈ literal name, point < 0xd800)
      {members : List (List Nat × Json)} (later : Json.SoundMembers members) :
      Json.SoundMembers (stringMember "action" (literal name) :: members) :=
    sound_stringMember (by decide) (Utf16.Paired.of_plain named) later
  cases request with
  | auth action username password =>
    have username_ : Utf16.Paired username := texts username (by simp [PageRequest.texts])
    have password_ : Utf16.Paired password := texts password (by simp [PageRequest.texts])
    have payload : Json.SoundMembers (authPayload username password) :=
      sound_stringMember (by decide) (Utf16.Paired.of_plain (by decide))
        (sound_numberMember _ (by decide) (sound_numberMember _ (by decide)
          (sound_stringMember (by decide) (paired_trim username_)
            (sound_stringMember (by decide) password_ trivial))))
    cases action with
    | register => exact here (by decide) payload
    | login => exact here (by decide) payload
  | logout => exact here (by decide) trivial
  | onlineList => exact here (by decide) trivial
  | groupList => exact here (by decide) trivial
  | listenUdp => exact here (by decide) (sound_numberMember _ (by decide) trivial)
  | createGroup name members =>
    obtain ⟨name_, members_⟩ := List.forall_mem_cons.mp texts
    exact here (by decide) (sound_stringMember (by decide) name_
      ⟨Utf16.Paired.of_plain (by decide), sound_strings members_, trivial⟩)
  | sendPrivate receiver text =>
    exact here (by decide) (sound_stringMember (by decide) (texts receiver (by simp [PageRequest.texts]))
      (sound_stringMember (by decide) (texts text (by simp [PageRequest.texts])) trivial))
  | sendGroupMessage groupId text =>
    exact here (by decide) (sound_stringMember (by decide) (texts groupId (by simp [PageRequest.texts]))
      (sound_stringMember (by decide) (texts text (by simp [PageRequest.texts])) trivial))
  | sendFileBegin receiver filename filesize =>
    exact here (by decide) (sound_stringMember (by decide) (texts receiver (by simp [PageRequest.texts]))
      (sound_stringMember (by decide) (texts filename (by simp [PageRequest.texts]))
        (sound_numberMember _ (by decide) trivial)))
  | sendFileChunk receiver bytes =>
    exact here (by decide) (sound_stringMember (by decide) (texts receiver (by simp [PageRequest.texts]))
      (sound_stringMember (by decide) (paired_base64 bytes) trivial))
  | sendFileEnd receiver =>
    exact here (by decide) (sound_stringMember (by decide) (texts receiver (by simp [PageRequest.texts]))
      trivial)

/-! ## What arrives -/

/-- The host and port of the login form. -/
theorem targetOf_payload (settings : Settings) (action : Text) (username password : Text) :
    targetOf settings (.object (stringMember "action" action :: authPayload username password)) =
      .ok (some (.config ⟨pageChatHost, pageTcpPort⟩)) := by
  have port : numberOf ((Json.object (stringMember "action" action ::
      authPayload username password)).get (literal "port")) =
        .ok (Number.ofText (digitsText pageTcpPort)) := rfl
  have host : (Json.object (stringMember "action" action ::
      authPayload username password)).get (literal "host") = some (.string pageChatHost) := rfl
  have other : pageChatHost ≠ [] := by decide
  rw [targetOf, port, host]
  simp only [bind, Except.bind]
  rw [parsePort_digits (by decide) (by decide), if_neg other]
  rfl

/-- The fields of a private message. -/
theorem privateOf_json (receiver text : Text) :
    privateOf (PageRequest.sendPrivate receiver text).json = .ok (.sendPrivate receiver text) := by
  rw [privateOf, @field_string _ _ receiver rfl, @field_string _ _ text rfl]
  rfl

/-- The fields of a new group. -/
theorem createGroupOf_json (name : Text) (members : List Text) :
    createGroupOf (PageRequest.createGroup name members).json = .ok (.createGroup name members) := by
  have items : (PageRequest.createGroup name members).json.get (literal "members") =
      some (.array (members.map .string)) := rfl
  rw [createGroupOf, @field_string _ _ name rfl, items]
  dsimp only
  rw [mapM_orEmpty]
  rfl

/-- The fields of a message to a group. -/
theorem groupMessageOf_json (groupId text : Text) :
    groupMessageOf (PageRequest.sendGroupMessage groupId text).json =
      .ok (.sendGroupMessage groupId text) := by
  rw [groupMessageOf, @field_string _ _ groupId rfl, @field_string _ _ text rfl]
  rfl

/-- The fields of the beginning of a file. -/
theorem fileBeginOf_json (receiver filename : Text) {filesize : Nat} (small : filesize < 2 ^ 53) :
    fileBeginOf (PageRequest.sendFileBegin receiver filename filesize).json =
      .ok (.sendFileBegin receiver (basename filename) (.finite filesize)) := by
  have size : (PageRequest.sendFileBegin receiver filename filesize).json.get (literal "filesize") =
      some (.number (digitsText filesize)) := rfl
  rw [fileBeginOf, @field_string _ _ receiver rfl, @field_string _ _ filename rfl, size, numberOf,
    ofText_digitsText small]
  rfl

/-- The fields of a chunk of a file. -/
theorem fileChunkOf_json (receiver : Text) (bytes : List UInt8) :
    fileChunkOf (PageRequest.sendFileChunk receiver bytes).json =
      .ok (.sendFileChunk receiver bytes) := by
  have units : (base64Encode bytes).flatMap Utf16.units = base64Encode bytes := by
    refine (List.flatMap_congr fun point inside => ?_).trans (List.flatMap_singleton' _)
    have small := base64Encode_ascii bytes point inside
    exact if_pos (by omega)
  rw [fileChunkOf, @field_string _ _ receiver rfl, @field_string _ _ (base64Encode bytes) rfl]
  simp only [bind, Except.bind]
  rw [units, lenientDecode_encode]
  rfl

/-- The field of the end of a file. -/
theorem fileEndOf_json (receiver : Text) :
    fileEndOf (PageRequest.sendFileEnd receiver).json = .ok (.sendFileEnd receiver) := by
  rw [fileEndOf, @field_string _ _ receiver rfl]
  rfl

/-- The login form, after the validation of the gateway. -/
theorem authenticate_payload (settings : Settings) (gateway : Gateway) (action : AuthAction)
    (username password : Text) :
    gateway.authenticate settings action (PageRequest.auth action username password).json =
      some (gateway.handleMessage (.auth action (trim username) password
        ⟨pageChatHost, pageTcpPort⟩)) := by
  rw [Gateway.authenticate, PageRequest.json, @field_string _ _ (trim username) rfl,
    @field_string _ _ password rfl]
  dsimp only
  rw [targetOf_payload]
  cases valid : validateAuth (trim (trim username)) password with
  | none => rfl
  | some error =>
    rw [Gateway.handleMessage, Gateway.handleRegisterOrLogin]
    dsimp only
    rw [valid]
    rfl

/-- The gateway does what a request says. -/
theorem handleRaw_request (settings : Settings) (gateway : Gateway) {request : PageRequest}
    (writable : request.Writable) :
    gateway.handleRaw settings (Utf8.encode request.json.stringify) =
      some (request.action.elim gateway gateway.handleMessage) := by
  have sound := writable.sound
  have same (fields : Except Text Action) {action : Action} (read : fields = .ok action) :
      some (gateway.request fields) = some (gateway.handleMessage action) := by
    rw [read]
    rfl
  cases request with
  | auth action username password =>
    have done := authenticate_payload settings gateway action username password
    cases action with
    | register => exact (handleRaw_json sound rfl).trans done
    | login => exact (handleRaw_json sound rfl).trans done
  | logout => exact handleRaw_json sound rfl
  | onlineList => exact handleRaw_json sound rfl
  | groupList => exact handleRaw_json sound rfl
  | listenUdp => exact handleRaw_json sound rfl
  | createGroup name members =>
    exact (handleRaw_json sound rfl).trans (same _ (createGroupOf_json name members))
  | sendPrivate receiver text =>
    exact (handleRaw_json sound rfl).trans (same _ (privateOf_json receiver text))
  | sendGroupMessage groupId text =>
    exact (handleRaw_json sound rfl).trans (same _ (groupMessageOf_json groupId text))
  | sendFileBegin receiver filename filesize =>
    exact (handleRaw_json sound rfl).trans (same _ (fileBeginOf_json receiver filename writable.size))
  | sendFileChunk receiver bytes =>
    exact (handleRaw_json sound rfl).trans (same _ (fileChunkOf_json receiver bytes))
  | sendFileEnd receiver =>
    exact (handleRaw_json sound rfl).trans (same _ (fileEndOf_json receiver))

/-! ## Strings -/

/-- Strings stay strings. -/
theorem kept_paired : Kept Utf16.Paired where
  empty := Utf16.Paired.of_plain (by simp)
  trimmed _ paired := paired_trim paired
  legacy := Utf16.Paired.of_plain (by decide)

/-- What is in a batch of strings can be written. -/
theorem Batch.writable {form : Bool} {requests : List PageRequest}
    (batch : Batch Utf16.Paired form requests) : ∀ request ∈ requests, request.Writable := by
  intro request inside
  cases batch with
  | one proper texts =>
    obtain rfl := List.mem_singleton.mp inside
    refine ⟨texts, ?_⟩
    cases request with
    | sendFileBegin receiver filename filesize => cases proper
    | _ => exact Nat.two_pow_pos 53
  | file named small target name =>
    have limit : fileTransferMaxBytes < 2 ^ 53 := by decide
    rcases List.mem_cons.mp inside with rfl | inside
    · exact ⟨by simp [PageRequest.texts, target, name], small.trans_lt limit⟩
    rcases List.mem_append.mp inside with inside | inside
    · obtain ⟨chunk, _, rfl⟩ := List.mem_map.mp inside
      exact ⟨by simp [PageRequest.texts, target], Nat.two_pow_pos 53⟩
    · obtain rfl := List.mem_singleton.mp inside
      exact ⟨by simp [PageRequest.texts, target], Nat.two_pow_pos 53⟩

/-- What goes over a socket can be written. -/
theorem Batched.writable {form : Bool} {requests : List PageRequest}
    (batched : Batched Utf16.Paired form requests) {request : PageRequest}
    (inside : request ∈ requests) : request.Writable := by
  obtain ⟨batches, rfl, each⟩ := batched
  obtain ⟨batch, member, inside⟩ := List.mem_flatten.mp inside
  exact (each batch member).writable request inside

/-- The gateway does what some requests say, one after the other. -/
theorem foldlM_handleRaw (settings : Settings) {requests : List PageRequest}
    (writable : ∀ request ∈ requests, request.Writable) (gateway : Gateway) :
    requests.foldlM (fun gateway request =>
        gateway.handleRaw settings (Utf8.encode request.json.stringify)) gateway =
      some ((requests.filterMap PageRequest.action).foldl Gateway.handleMessage gateway) := by
  induction requests generalizing gateway with
  | nil => rfl
  | cons request requests ih =>
    obtain ⟨here, later⟩ := List.forall_mem_cons.mp writable
    rw [List.foldlM_cons, handleRaw_request settings gateway here, Option.bind_eq_bind,
      Option.bind_some, ih later]
    cases asked : request.action with
    | none => rw [List.filterMap_cons_none asked, Option.elim_none]
    | some action => rw [List.filterMap_cons_some asked, Option.elim_some, List.foldl_cons]

/-- The contacts in a sound value are strings. -/
theorem contactsOf_paired {value : Option Json} (sound : ∀ json ∈ value, json.Sound) :
    ∀ name ∈ contactsOf value, Utf16.Paired name := by
  intro name inside
  unfold contactsOf at inside
  split at inside
  · rename_i items
    have sound : Json.SoundItems items := sound (.array items) rfl
    obtain ⟨item, listed, named⟩ := List.mem_filterMap.mp (List.mem_of_mem_take inside)
    unfold contactOf at named
    split at named
    · split at named
      · contradiction
      · cases named
        exact Json.soundItems_mem sound listed
    · contradiction
  · have plain : ∀ name ∈ [literal "user1", literal "user2", literal "user3"],
        ∀ point ∈ name, point < 0xd800 := by decide
    exact Utf16.Paired.of_plain (plain name inside)

/-- The contacts that are loaded from a stored string are strings. -/
theorem loadKnownContacts_paired {stored : Option Text} (string : ∀ text ∈ stored, Utf16.Paired text) :
    ∀ name ∈ loadKnownContacts stored, Utf16.Paired name := by
  have default : Utf16.Paired (literal "[]") := Utf16.Paired.of_plain (by decide)
  have given : Utf16.Paired (if stored.getD [] = [] then literal "[]" else stored.getD []) := by
    split
    · exact default
    · rename_i some_
      cases stored with
      | none => contradiction
      | some text => exact string text rfl
  apply contactsOf_paired
  intro json read
  exact Json.parse_sound given.bounded read

/-! ## Runs -/

section

variable [Browser]

/-- A page of a browser whose strings are strings: what is stored, what the user writes and what the
gateway tells. The document has the element for the message of the login form or not. -/
def StringPage (form : Bool) (page : Page) : Prop :=
  Reachable
    (fun page => ∃ stored authMessage, page = Page.load stored authMessage ∧
      authMessage.isSome = form ∧ ∀ text ∈ stored, Utf16.Paired text)
    (fun page event page' => page.step event = some page' ∧
      ∀ text ∈ event.given, Utf16.Paired text) page

/-- What goes over its sockets is in order. -/
theorem StringPage.orderly {form : Bool} {page : Page} (reached : StringPage form page) :
    page.Orderly Utf16.Paired form := by
  refine Reachable.invariant (Page.Orderly Utf16.Paired form) ?_ ?_ reached
  · rintro _ ⟨stored, authMessage, rfl, rfl, string⟩
    exact Page.load_orderly kept_paired (loadKnownContacts_paired string) authMessage
  · rintro _ _ _ _ orderly ⟨taken, given⟩
    exact orderly.step kept_paired given taken

/-- Whatever happens to a page, what goes over each of its sockets is a sequence of requests in order
and of whole files, and a gateway that reads the messages does what the requests say, one after the
other. -/
theorem stringPage_understood {form : Bool} {page : Page} (reached : StringPage form page)
    (socket : Nat) (settings : Settings) (gateway : Gateway) :
    Batched Utf16.Paired form (page.sockets socket).stream ∧
      (page.sockets socket).sent.foldlM (fun gateway request =>
          gateway.handleRaw settings (Utf8.encode request.json.stringify)) gateway =
        some (((page.sockets socket).sent.filterMap PageRequest.action).foldl Gateway.handleMessage
          gateway) := by
  have batched := reached.orderly.batched socket
  refine ⟨batched, foldlM_handleRaw settings (fun request inside => ?_) gateway⟩
  exact batched.writable (List.mem_append_left _ inside)

end

/-! ## A run -/

/-- Texts in front of the surrogates. -/
def plainTexts (texts : List Text) : Bool :=
  texts.all fun text => text.all fun point => decide (point < 0xd800)

/-- Plain texts are strings. -/
theorem paired_of_plainTexts {texts : List Text} (plain : plainTexts texts = true) :
    ∀ text ∈ texts, Utf16.Paired text := fun text inside =>
  Utf16.Paired.of_plain fun point member =>
    of_decide_eq_true (List.all_eq_true.mp (List.all_eq_true.mp plain text inside) point member)

/-- One step with plain texts. -/
def Page.plainStep [Browser] (page : Page) (event : PageEvent) : Option Page :=
  if plainTexts event.given then page.step event else none

/-- Steps with plain texts are a run. -/
theorem plainStep_reachable [Browser] {stored : Text} (string : Utf16.Paired stored)
    {authMessage : Option (Text × String)} {events : List PageEvent} {page : Page}
    (ran : events.foldlM Page.plainStep (Page.load (some stored) authMessage) = some page) :
    StringPage authMessage.isSome page := by
  have begun : Reachable (fun page => ∃ stored authMessage', page = Page.load stored authMessage' ∧
        authMessage'.isSome = authMessage.isSome ∧ ∀ text ∈ stored, Utf16.Paired text)
      (fun page event page' => page.plainStep event = some page') (Page.load (some stored) authMessage) :=
    .start ⟨some stored, authMessage, rfl, rfl, fun text same => Option.some.inj same ▸ string⟩
  refine (begun.of_foldlM ran).widen fun page event page' taken => ?_
  obtain ⟨plain, taken⟩ := Option.ite_none_right_eq_some.mp taken
  exact ⟨taken, paired_of_plainTexts plain⟩

/-- An answer of the user in the new group. -/
def groupAnswer : List PageEvent := groupChat ++ [.typeMessage (literal " hello "), .submit]

/-- The gateway sends it to the group. -/
theorem stringPage_understood_groupAnswer : ∃ page, @StringPage asciiBrowser false page ∧
    (page.sockets 0).sent.getLast? = some (.sendGroupMessage (literal "g000001") (literal "hello")) ∧
      ∀ settings gateway, Batched Utf16.Paired false (page.sockets 0).stream ∧
        (page.sockets 0).sent.foldlM (fun gateway request =>
            Gateway.handleRaw settings gateway (Utf8.encode request.json.stringify)) gateway =
          some (((page.sockets 0).sent.filterMap PageRequest.action).foldl Gateway.handleMessage
            gateway) := by
  have ran : ∃ page, groupAnswer.foldlM (@Page.plainStep asciiBrowser)
      (@Page.load asciiBrowser (some []) none) = some page ∧ (page.sockets 0).sent.getLast? =
        some (.sendGroupMessage (literal "g000001") (literal "hello")) := ⟨_, rfl, rfl⟩
  obtain ⟨page, ran, last⟩ := ran
  have reached := @plainStep_reachable asciiBrowser _ (Utf16.Paired.of_plain (by simp)) _ _ _ ran
  exact ⟨page, reached, last, fun settings gateway =>
    @stringPage_understood asciiBrowser false page reached 0 settings gateway⟩

end MultiUserChat.Web
