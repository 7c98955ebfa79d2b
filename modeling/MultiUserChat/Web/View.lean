import MultiUserChat.Web.Message
/-!
# What the page shows

The functions of `web/public/main.js` that turn the state of the page into what it shows: the texts,
the rows of the message feed and the buttons of the roster. Where the source writes markup as a text,
the text is kept. What the language leaves to the browser is in `Browser`: letter case, the order of
strings in Chinese and the addresses of the objects that the page creates.
-/

namespace MultiUserChat.Web

/-- What the browser provides. -/
class Browser where
  /-- `text.toLowerCase()` -/
  toLowerCase : Text → Text
  /-- `text.toUpperCase()` -/
  toUpperCase : Text → Text
  /-- `first.localeCompare(second, 'zh-CN') <= 0` -/
  localeLe : Text → Text → Bool
  /-- Two strings can be compared. -/
  localeLe_total : ∀ first second, localeLe first second || localeLe second first
  /-- The comparisons are consistent. -/
  localeLe_trans : ∀ first second third,
    localeLe first second → localeLe second third → localeLe first third
  /-- `URL.createObjectURL(object)`, by the number of the object. -/
  objectUrl : Nat → Text

/-! ## Texts -/

/-- Texts are compared as they are; the lists of names below are searched by it. -/
theorem text_lawful : LawfulBEq Text := inferInstance

attribute [local instance] text_lawful

/-- `escapeText` -/
def escapeText (text : Text) : Text :=
  text.flatMap fun point =>
    if point = 0x26 then literal "&amp;"
    else if point = 0x3c then literal "&lt;"
    else if point = 0x3e then literal "&gt;"
    else if point = 0x22 then literal "&quot;"
    else [point]

/-- `(tenths / 10).toFixed(1)` -/
def tenthsText (tenths : Nat) : Text := digitsText (tenths / 10) ++ 0x2e :: digitsText (tenths % 10)

/-- `formatBytes`; a half is rounded up. -/
def formatBytes (bytes : Nat) : Text :=
  if bytes < 1024 then digitsText bytes ++ literal " B"
  else if bytes < 1024 * 1024 then tenthsText ((bytes * 10 + 512) / 1024) ++ literal " KB"
  else tenthsText ((bytes * 10 + 512 * 1024) / (1024 * 1024)) ++ literal " MB"

/-- A letter, a digit, an underscore or a hyphen. -/
def wordPoint (point : Nat) : Bool :=
  decide (0x30 ≤ point ∧ point ≤ 0x39 ∨ 0x41 ≤ point ∧ point ≤ 0x5a ∨ 0x61 ≤ point ∧ point ≤ 0x7a ∨
    point = 0x5f ∨ point = 0x2d)

/-- The upper case of an ASCII character. -/
def asciiUpper (point : Nat) : Nat := if 0x61 ≤ point ∧ point ≤ 0x7a then point - 0x20 else point

/-- `initials` -/
def initials (name : Text) : Text :=
  let text := trim (if name = [] then literal "?" else name)
  if text = [] then literal "?"
  else if text.all wordPoint then (text.take 2).map asciiUpper
  else text.take 2

/-! ## Conversations -/

/-- The mode of a conversation. -/
inductive Mode
  | none | friend | group
deriving DecidableEq

/-- The mode as it stands in a key. -/
def Mode.name : Mode → String
  | none => "none"
  | friend => "friend"
  | group => "group"

/-- A conversation that can be selected. -/
structure Conversation where
  /-- `mode` -/
  mode : Mode
  /-- Name of the friend, or id of the group. -/
  id : Text
  /-- The name that is shown. -/
  name : Text
  /-- `online` -/
  online : Bool
deriving DecidableEq

/-- `emptyConversation` -/
def emptyConversation : Conversation := ⟨.none, [], literal "请选择会话", false⟩

/-- `conversationKey` -/
def conversationKey (conversation : Conversation) : Text :=
  literal conversation.mode.name ++ 0x3a :: conversation.id

/-- The direction of a message. -/
inductive Direction
  | system | incoming | outgoing
deriving DecidableEq

/-- What a message holds. -/
inductive Content
  /-- A text. -/
  | text (text : Text)
  /-- A file, with its address if it can be fetched. -/
  | file (filename : Text) (size : Nat) (url : Option Text)
deriving DecidableEq

/-- A message of a conversation; one without a sender has the empty one. -/
structure ChatMessage where
  /-- `time` -/
  time : Text
  /-- `direction` -/
  direction : Direction
  /-- `sender` -/
  sender : Text
  /-- `kind` and what belongs to it. -/
  content : Content
deriving DecidableEq

/-- A row of the message feed. -/
inductive Row
  /-- The date. -/
  | divider (text : Text)
  /-- There is no message. -/
  | hint
  /-- Markup inside of a system row. -/
  | system (html : Text)
  /-- A bubble with a text, between the initials and the line above it. -/
  | text (direction : Direction) (avatar line text : Text)
  /-- A bubble with markup. -/
  | file (direction : Direction) (avatar line html : Text)
deriving DecidableEq

/-- The markup of a system message. -/
def systemHtml (text : Text) : Text :=
  literal "<div class=\"system-bubble\">" ++ escapeText text ++ literal "</div>"

/-- The markup of the name and the size of a file in a bubble, with `urlPart`. -/
def fileHtml (filename : Text) (size : Nat) (url : Option Text) : Text :=
  let urlPart :=
    match url with
    | some url =>
      literal "<a href=\"" ++ url ++ literal "\" download=\"" ++ escapeText filename ++
        literal "\">下载</a>"
    | none => literal "<span>✓</span>"
  literal "\n        <span class=\"file-icon\">PDF</span>\n        <span>\n          <span class=\"file-name\">"
    ++ escapeText filename ++ literal "</span>\n          <span class=\"file-size\">"
    ++ formatBytes size ++ literal "</span>\n        </span>\n        " ++ urlPart ++
    literal "\n      "

/-- The text of a message; a system message has one. -/
def ChatMessage.shownText (message : ChatMessage) : Text :=
  match message.content with
  | .text text => text
  | .file _ _ _ => []

/-- The row of a message, in the loop of `renderMessages`. -/
def rowOf (currentUsername selectedName : Text) (message : ChatMessage) : Row :=
  match message.direction with
  | .system => .system (systemHtml message.shownText)
  | direction =>
    let outgoing := direction = .outgoing
    let avatar := initials (if outgoing then currentUsername else message.sender)
    let sender := if message.sender = [] then selectedName else message.sender
    let line := if outgoing then message.time else sender ++ literal "  " ++ message.time
    match message.content with
    | .text text => .text direction avatar line text
    | .file filename size url => .file direction avatar line (fileHtml filename size url)

/-- `renderMessages`: the rows for the messages of the selected conversation. -/
def feedOf (today currentUsername selectedName : Text) (messages : List ChatMessage) : List Row :=
  .divider today ::
    (if messages = [] then [.hint] else messages.map (rowOf currentUsername selectedName))

/-! ## The roster -/

/-- The tab that is selected. -/
inductive Tab
  | friends | groups
deriving DecidableEq

/-- A button of the roster. -/
structure RosterItem where
  /-- `mode` -/
  mode : Mode
  /-- `id` -/
  id : Text
  /-- `name` -/
  name : Text
  /-- `subtitle` -/
  subtitle : Text
  /-- `icon` -/
  icon : Text
  /-- `online` -/
  online : Bool
  /-- The number in `accent`. -/
  accent : Nat
deriving DecidableEq

section

variable [Browser]

/-- The text contains the query, in letters of either case; an empty query is in every text. -/
def matchesQuery (query name : Text) : Bool :=
  decide (query = [] ∨ query <:+: Browser.toLowerCase name)

/-- The query of the search field. -/
def queryOf (search : Text) : Text := Browser.toLowerCase (trim search)

/-- The items of the groups, in `rosterItems`. -/
def groupItems (query : Text) (groups : List Group) : List RosterItem :=
  (groups.filter fun group => matchesQuery query group.name).mapIdx fun index group =>
    { mode := .group
      id := group.id
      name := group.name
      subtitle := digitsText (group.members.getD []).length ++ literal " 人在线"
      icon := initials group.name
      online := true
      accent := index % 6 + 1 }

/-- The order of the friends: who is online comes first. -/
def friendLe (onlineUsers : List Text) (first second : Text) : Bool :=
  let before := if first ∈ onlineUsers then 0 else 1
  let after := if second ∈ onlineUsers then 0 else 1
  decide (before < after) || (decide (before = after) && Browser.localeLe first second)

/-- The names of the friends tab, in `rosterItems`. -/
def friendNames (currentUsername : Text) (onlineUsers knownContacts : List Text) : List Text :=
  let names := ((onlineUsers ++ knownContacts).eraseDups.filter fun name =>
    name ≠ [] ∧ name ≠ currentUsername).mergeSort (friendLe onlineUsers)
  if currentUsername ≠ [] ∧ names = [] then [currentUsername] else names

/-- The items of the friends, in `rosterItems`. -/
def friendItems (query currentUsername : Text) (onlineUsers knownContacts : List Text) :
    List RosterItem :=
  ((friendNames currentUsername onlineUsers knownContacts).filter (matchesQuery query)).mapIdx
    fun index name =>
      { mode := .friend
        id := name
        name := if name = currentUsername then name ++ literal "（我）" else name
        subtitle := if name ∈ onlineUsers then literal "在线" else literal "离线"
        icon := initials name
        online := decide (name ∈ onlineUsers)
        accent := index % 6 + 1 }

end

end MultiUserChat.Web
