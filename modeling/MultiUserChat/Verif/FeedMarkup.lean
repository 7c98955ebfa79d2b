import MultiUserChat.Library.Markup
import MultiUserChat.Verif.Conversations
import MultiUserChat.Verif.Numerals
/-!
# The markup of the page

The page writes its system messages and the files of a conversation as markup, with texts of other
users in it. Read back, the markup has the tags that the page means and no others, and the texts are
its characters and the names of the downloads; so no text of a user becomes a tag, an attribute or a
reference. The addresses of the objects of the page stand in it as they are: that they are plain is
documented behaviour of the browser.
-/

namespace MultiUserChat.Web

open Markup (Token Position Tokenizes Spelling Plain readMarkup newlines kept)

/-! ## What the page means -/

/-- The characters of a text. -/
def characters (text : Text) : List Token := text.map .character

/-- The start of an element that has a class. -/
def classTag (name style : String) : Token :=
  .startTag (literal name) [(literal "class", literal style)]

/-- A system message. -/
def systemTokens (text : Text) : List Token :=
  classTag "div" "system-bubble" :: characters (newlines text) ++ [.endTag (literal "div")]

/-- The last part of a file: the link to its content, or a mark. -/
def linkTokens (filename : Text) (url : Option Text) : List Token :=
  match url with
  | some url =>
    .startTag (literal "a")
        [(literal "href", url), (literal "download", (newlines filename).map kept)] ::
      characters (literal "下载") ++ [.endTag (literal "a")]
  | none => .startTag (literal "span") [] :: characters (literal "✓") ++ [.endTag (literal "span")]

/-- A file. -/
def fileTokens (filename : Text) (size : Nat) (url : Option Text) : List Token :=
  characters (literal "\n        ") ++ classTag "span" "file-icon" :: characters (literal "PDF") ++
    .endTag (literal "span") :: characters (literal "\n        ") ++
    .startTag (literal "span") [] :: characters (literal "\n          ") ++
    classTag "span" "file-name" :: characters (newlines filename) ++
    .endTag (literal "span") :: characters (literal "\n          ") ++
    classTag "span" "file-size" :: characters (formatBytes size) ++
    .endTag (literal "span") :: characters (literal "\n        ") ++
    .endTag (literal "span") :: characters (literal "\n        ") ++
    linkTokens filename url ++ characters (literal "\n      ")

/-- The file that is going to be sent. -/
def previewTokens (file : SelectedFile) : List Token :=
  classTag "span" "file-name" :: characters (newlines file.name) ++
    .endTag (literal "span") :: classTag "span" "file-size" ::
      characters (formatBytes file.content.length) ++ [.endTag (literal "span")]

/-! ## Pieces -/

/-- `escapeText` spells the characters of a text. -/
theorem escapeText_spelling : Spelling fun point =>
    if point = 0x26 then literal "&amp;"
    else if point = 0x3c then literal "&lt;"
    else if point = 0x3e then literal "&gt;"
    else if point = 0x22 then literal "&quot;"
    else [point] where
  read position point := by
    split
    · subst point
      cases position <;> rfl
    · rename_i reference
      split
      · subst point
        cases position <;> rfl
      · rename_i tag
        split
        · subst point
          cases position <;> rfl
        · split
          · subst point
            cases position <;> rfl
          · rename_i quote
            cases position with
            | data => simp [Markup.run, Markup.step, reference, tag]
            | value => simp [Markup.run, Markup.step, reference, quote]
  line point end_ := by
    rcases end_ with rfl | rfl
    · rfl
    · rfl
  other point back feed := by
    split
    · decide
    · split
      · decide
      · split
        · decide
        · split
          · decide
          · simp [back, feed]

/-- A text of a user. -/
theorem escapeText_tokenizes (position : Position) (text : Text) :
    Tokenizes (.inside position) (escapeText text)
      (.inside (position.take (newlines text)).1) (position.take (newlines text)).2 :=
  .spelt escapeText_spelling position text

/-- The digits of a number are plain. -/
theorem digitsText_plain (value : Nat) : Plain (digitsText value) := by
  intro point inside
  have range := digitsText_range value point inside
  omega

/-- A size is plain. -/
theorem formatBytes_plain (bytes : Nat) : Plain (formatBytes bytes) := by
  have tenths (tenths : Nat) : Plain (tenthsText tenths) := by
    intro point inside
    rcases List.mem_append.mp inside with whole | part
    · exact digitsText_plain _ point whole
    · rcases List.mem_cons.mp part with rfl | part
      · decide
      · exact digitsText_plain _ point part
  have follows {number unit : Text} (plain : Plain number) (unit_ : Plain unit) :
      Plain (number ++ unit) := fun point inside =>
    (List.mem_append.mp inside).elim (plain point) (unit_ point)
  unfold formatBytes
  split
  · exact follows (digitsText_plain _) (by decide)
  · split
    · exact follows (tenths _) (by decide)
    · exact follows (tenths _) (by decide)

/-! ## The markup -/

/-- Anything may stand behind a piece that ends with another character than a carriage return. -/
theorem apart_of_last (text : Text) {piece : Text} (later : Text)
    (last : piece ≠ [] ∧ piece.getLast? ≠ some 0x0d) :
    (text ++ piece).getLast? = some 0x0d → later.head? ≠ some 0x0a := by
  intro back
  obtain ⟨point, end_⟩ := Option.ne_none_iff_exists'.mp (mt List.getLast?_eq_none_iff.mp last.1)
  rw [List.getLast?_append, end_, Option.some_or, ← end_] at back
  exact absurd back last.2

/-- A system message is read as its text. -/
theorem systemHtml_tokens (text : Text) :
    readMarkup (systemHtml text) = some (systemTokens text) := by
  have opened : Tokenizes (.inside .data) (literal "<div class=\"system-bubble\">") (.inside .data)
      [classTag "div" "system-bubble"] := by decide +kernel
  have closed : Tokenizes (.inside .data) (literal "</div>") (.inside .data)
      [.endTag (literal "div")] := by decide +kernel
  have started := opened.append (escapeText_tokenizes .data text)
    (apart_of_last [] _ (by decide +kernel))
  exact (started.append closed fun _ => by decide +kernel).all

/-- The last part of the markup of a file. -/
def linkHtml (filename : Text) (url : Option Text) : Text :=
  match url with
  | some url =>
    literal "<a href=\"" ++ url ++ literal "\" download=\"" ++ escapeText filename ++
      literal "\">下载</a>"
  | none => literal "<span>✓</span>"

/-- The last part of a file ends with a tag. -/
theorem linkHtml_last (filename : Text) (url : Option Text) :
    ∃ text piece, linkHtml filename url = text ++ piece ∧ piece ≠ [] ∧
      piece.getLast? ≠ some 0x0d := by
  cases url with
  | none => exact ⟨[], literal "<span>✓</span>", rfl, by decide +kernel⟩
  | some url => exact ⟨_, literal "\">下载</a>", rfl, by decide +kernel⟩

/-- The last part of a file is read as a link or a mark. -/
theorem linkHtml_tokenizes (filename : Text) {url : Option Text}
    (plain : ∀ address ∈ url, Plain address) :
    Tokenizes (.inside .data) (linkHtml filename url) (.inside .data) (linkTokens filename url) := by
  cases url with
  | none =>
    exact (by decide +kernel : Tokenizes (.inside .data) (literal "<span>✓</span>") (.inside .data)
      (.startTag (literal "span") [] :: characters (literal "✓") ++ [.endTag (literal "span")]))
  | some url =>
    have plain := plain url rfl
    have opened : Tokenizes (.inside .data) (literal "<a href=\"")
        (.inside (.value (literal "a") [] (literal "href") [])) [] := by decide +kernel
    have address : Tokenizes (.inside (.value (literal "a") [] (literal "href") [])) url
        (.inside (.value (literal "a") [] (literal "href") url)) [] := by
      simpa [Position.take, plain.kept] using
        Tokenizes.plain plain (.value (literal "a") [] (literal "href") [])
    have between : Tokenizes (.inside (.value (literal "a") [] (literal "href") url))
        (literal "\" download=\"")
        (.inside (.value (literal "a") [(literal "href", url)] (literal "download") [])) [] := by rfl
    have name := escapeText_tokenizes
      (.value (literal "a") [(literal "href", url)] (literal "download") []) filename
    have closed : Tokenizes (.inside (.value (literal "a") [(literal "href", url)] (literal "download")
          ((newlines filename).map kept)))
        (literal "\">下载</a>") (.inside .data) (linkTokens filename (some url)) := by rfl
    have linked := opened.append address (apart_of_last [] _ (by decide +kernel))
    have described := (linked.append between fun _ => by decide +kernel).append name
      (apart_of_last _ _ (by decide +kernel))
    exact described.append closed fun _ => by decide +kernel

/-- A file is read as its name, its size, and a link or a mark. -/
theorem fileHtml_tokens (filename : Text) (size : Nat) {url : Option Text}
    (plain : ∀ address ∈ url, Plain address) :
    readMarkup (fileHtml filename size url) = some (fileTokens filename size url) := by
  have opened : Tokenizes (.inside .data) (literal
        "\n        <span class=\"file-icon\">PDF</span>\n        <span>\n          <span class=\"file-name\">")
      (.inside .data)
      (characters (literal "\n        ") ++ classTag "span" "file-icon" :: characters (literal "PDF") ++
        .endTag (literal "span") :: characters (literal "\n        ") ++
        .startTag (literal "span") [] :: characters (literal "\n          ") ++
        [classTag "span" "file-name"]) := by decide +kernel
  have between : Tokenizes (.inside .data)
      (literal "</span>\n          <span class=\"file-size\">") (.inside .data)
      (.endTag (literal "span") :: characters (literal "\n          ") ++
        [classTag "span" "file-size"]) := by decide +kernel
  have closed : Tokenizes (.inside .data) (literal "</span>\n        </span>\n        ") (.inside .data)
      (.endTag (literal "span") :: characters (literal "\n        ") ++
        .endTag (literal "span") :: characters (literal "\n        ")) := by decide +kernel
  have last : Tokenizes (.inside .data) (literal "\n      ") (.inside .data)
      (characters (literal "\n      ")) := by decide +kernel
  have named := opened.append (escapeText_tokenizes .data filename)
    (apart_of_last [] _ (by decide +kernel))
  have sized := (named.append between fun _ => by decide +kernel).append
    (Tokenizes.plain (formatBytes_plain size) .data) (apart_of_last _ _ (by decide +kernel))
  have linked := (sized.append closed fun _ => by decide +kernel).append
    (linkHtml_tokenizes filename plain) (apart_of_last _ _ (by decide +kernel))
  obtain ⟨text, piece, split, ends⟩ := linkHtml_last filename url
  have whole := linked.append last (by
    rw [split, ← List.append_assoc]
    exact apart_of_last _ _ ends)
  refine whole.all.trans (congrArg some ?_)
  unfold fileTokens
  simp only [Position.take, characters, List.append_assoc, List.cons_append, List.nil_append]

/-- The file that is going to be sent is read as its name and its size. -/
theorem updateFilePreview_tokens [Browser] (page : Page) :
    (page.updateFilePreview.preview.map fun preview => readMarkup preview.2) =
      page.selectedFile.map fun file => some (previewTokens file) := by
  have opened : Tokenizes (.inside .data) (literal "<span class=\"file-name\">") (.inside .data)
      [classTag "span" "file-name"] := by decide +kernel
  have between : Tokenizes (.inside .data) (literal "</span><span class=\"file-size\">")
      (.inside .data) [.endTag (literal "span"), classTag "span" "file-size"] := by decide +kernel
  have closed : Tokenizes (.inside .data) (literal "</span>") (.inside .data)
      [.endTag (literal "span")] := by decide +kernel
  unfold Page.updateFilePreview
  rw [Option.map_map]
  refine congrFun (congrArg Option.map (funext fun file => ?_)) _
  have named := opened.append (escapeText_tokenizes .data file.name)
    (apart_of_last [] _ (by decide +kernel))
  have sized := (named.append between fun _ => by decide +kernel).append
    (Tokenizes.plain (formatBytes_plain file.content.length) .data)
    (apart_of_last _ _ (by decide +kernel))
  refine (sized.append closed fun _ => by decide +kernel).all.trans (congrArg some ?_)
  unfold previewTokens
  simp only [Position.take, characters, List.append_assoc, List.cons_append, List.nil_append]

/-! ## The feed -/

/-- The hint of a conversation without messages. -/
def hintText : Text := literal "选择好友或群组后即可开始聊天"

/-- The markup of a row. -/
def Row.html : Row → Option Text
  | .hint => some (literal "<div class=\"system-bubble\">选择好友或群组后即可开始聊天</div>")
  | .system html => some html
  | .file _ _ _ html => some html
  | _ => none

/-- The hint is read as it is meant. -/
theorem hint_html : Row.hint.html.map readMarkup = some (some (systemTokens hintText)) := by
  decide +kernel

/-- What the markup of a message means; a text is shown without any. -/
def ChatMessage.tokens (message : ChatMessage) : Option (List Token) :=
  match message.direction, message.content with
  | .system, _ => some (systemTokens message.shownText)
  | _, .file filename size url => some (fileTokens filename size url)
  | _, .text _ => none

/-- What the markup in the feed of some messages means. -/
def feedTokens (messages : List ChatMessage) : List (List Token) :=
  if messages = [] then [systemTokens hintText] else messages.filterMap ChatMessage.tokens

section

variable [Browser]

/-- The address of a file is the one of an object of the page, of which there are so many. -/
def ChatMessage.Addressed (objects : Nat) (message : ChatMessage) : Prop :=
  ∀ filename size url, message.content = .file filename size (some url) →
    ∃ number < objects, url = Browser.objectUrl number

/-- The address stays the one of an object when there are more. -/
theorem ChatMessage.Addressed.more {objects objects' : Nat} {message : ChatMessage}
    (addressed : message.Addressed objects) (more : objects ≤ objects') :
    message.Addressed objects' := by
  intro filename size url content
  obtain ⟨number, below, same⟩ := addressed filename size url content
  exact ⟨number, below.trans_le more, same⟩

/-- The row of a message is read as it is meant. -/
theorem rowOf_html (plain : ∀ number, Plain (Browser.objectUrl number))
    (currentUsername selectedName : Text) {objects : Nat} {message : ChatMessage}
    (addressed : message.Addressed objects) :
    (rowOf currentUsername selectedName message).html.map readMarkup = message.tokens.map some := by
  obtain ⟨time, direction, sender, content⟩ := message
  have file (filename : Text) (size : Nat) (url : Option Text)
      (here : content = .file filename size url) :
      readMarkup (fileHtml filename size url) = some (fileTokens filename size url) := by
    refine fileHtml_tokens filename size fun address given => ?_
    obtain ⟨number, _, same⟩ := addressed filename size address (here.trans (by rw [given]))
    exact same ▸ plain number
  cases direction with
  | system => exact congrArg some (systemHtml_tokens _)
  | incoming =>
    cases content with
    | text text => rfl
    | file filename size url => exact congrArg some (file filename size url rfl)
  | outgoing =>
    cases content with
    | text text => rfl
    | file filename size url => exact congrArg some (file filename size url rfl)

/-- The rows of some messages are read as the messages are meant, one after another. -/
theorem feedOf_html (plain : ∀ number, Plain (Browser.objectUrl number))
    (today currentUsername selectedName : Text) {objects : Nat} {messages : List ChatMessage}
    (addressed : ∀ message ∈ messages, message.Addressed objects) :
    ((feedOf today currentUsername selectedName messages).filterMap Row.html).map readMarkup =
      (feedTokens messages).map some := by
  unfold feedOf feedTokens
  split
  · have hint := hint_html
    obtain ⟨html, shown, read⟩ := Option.map_eq_some_iff.mp hint
    rw [List.filterMap_cons_none rfl, List.filterMap_cons_some shown, List.filterMap_nil,
      List.map_singleton, read]
    rfl
  · rw [List.filterMap_cons_none rfl, List.filterMap_map, List.map_filterMap, List.map_filterMap]
    refine List.filterMap_congr fun message inside => ?_
    exact rowOf_html plain currentUsername selectedName (addressed message inside)

/-- What an event lists is addressed. -/
theorem Page.entry_addressed (page : Page) (event : PageEvent) :
    ∀ entry ∈ page.entry event, entry.message.Addressed (page.objectsAfter event).length := by
  intro entry listed filename size url content
  cases event with
  | message socket notice =>
    cases notice with
    | fileReceived sender name data =>
      cases listed
      cases content
      refine ⟨_, ?_, rfl⟩
      rw [Page.objectsAfter, List.length_append]
      exact Nat.lt_succ_self _
    | groupList groups =>
      have listed : page.heard (.groupList groups) = some entry := listed
      unfold Page.heard at listed
      dsimp only at listed
      split at listed
      · cases listed
        contradiction
      · contradiction
    | chatMessage =>
      cases listed
      contradiction
    | groupChatMessage =>
      cases listed
      contradiction
    | _ => contradiction
  | fileRead upload =>
    obtain ⟨pending, _, rfl⟩ := Option.map_eq_some_iff.mp listed
    cases content
  | submit =>
    obtain ⟨message, _, rfl⟩ := Option.map_eq_some_iff.mp listed
    contradiction
  | _ => contradiction

/-- The files of all conversations are addressed. -/
structure Page.Addressed (page : Page) : Prop where
  /-- The next requests go behind the others. -/
  linked : page.correspondence.Linked
  /-- The conversations. -/
  conversations : ∀ key, ∀ message ∈ page.conversations key,
    message.Addressed page.objects.length

/-- The files of all conversations stay addressed. -/
theorem Page.Addressed.step {page page' : Page} (addressed : page.Addressed) {event : PageEvent}
    (taken : page.step event = some page') : page'.Addressed := by
  have asked := Page.step_correspondence addressed.linked taken
  refine ⟨asked.linked, fun key message inside => ?_⟩
  have conversations := congrFun asked.conversations key
  change page'.conversations key = (page.noted event).conversations key at conversations
  have objects : page'.objects = page.objectsAfter event :=
    asked.objects.trans (page.noted_objects event)
  have old (key : Text) (inside : message ∈ page.conversations key) :
      message.Addressed page'.objects.length := by
    rw [objects]
    exact (addressed.conversations key message inside).more (page.objectsAfter_length event)
  rw [conversations] at inside
  unfold Page.noted at inside
  split at inside
  · exact absurd inside List.not_mem_nil
  · cases listed : page.entry event with
    | none =>
      rw [listed] at inside
      exact old key inside
    | some entry =>
      rw [listed] at inside
      change message ∈ Function.update page.conversations entry.key
        (page.conversations entry.key ++ [entry.message]) key at inside
      by_cases same : key = entry.key
      · rw [same, Function.update_self] at inside
        rcases List.mem_append.mp inside with before | new
        · exact old _ before
        · rw [List.mem_singleton.mp new, objects]
          exact page.entry_addressed event entry listed
      · rw [Function.update_of_ne same] at inside
        exact old key inside

/-- Whatever happens, and whatever texts the messages have: the markup in the feed is read as the tags
that the page means for the messages of the selected conversation, message by message, with their texts
as characters between the tags or as the name of a download, or for the hint that there are none; and a
link leads to an object of the page. -/
theorem feed_contained (plain : ∀ number, Plain (Browser.objectUrl number)) {page : Page}
    (reached : PageReachable page) (visible : page.chatHidden = false) :
    (page.feed.filterMap Row.html).map readMarkup =
        (feedTokens (page.getConversationMessages page.selectedConversation)).map some ∧
      ∀ message ∈ page.getConversationMessages page.selectedConversation,
        message.Addressed page.objects.length := by
  have addressed : page.Addressed := by
    refine Reachable.invariant Page.Addressed ?_ (fun _ _ _ _ addressed => addressed.step) reached
    rintro _ ⟨stored, authMessage, rfl⟩
    have kept := Diary.Begun.kept ⟨stored, authMessage, rfl⟩
    exact ⟨kept.linked, fun _ _ inside => absurd inside List.not_mem_nil⟩
  have here := addressed.conversations (conversationKey page.selectedConversation)
  obtain ⟨today, name, feed⟩ := ((pageReachable_inSync reached).shown visible).feed
  rw [feed]
  exact ⟨feedOf_html plain today page.currentUsername name here, here⟩

end

/-! ## A run -/

/-- A login, and a file of a friend whose name looks like markup. -/
def fileChat : List PageEvent :=
  [.opened 0, .message 0 (.authResult .login true [] (literal "u")),
    .message 0 (.onlineList [literal "u", literal "v"]),
    .message 0 (.fileReceived (literal "v") (literal "<b>&\".pdf") [0x41]), .pick 0]

/-- The page after them shows the file. -/
theorem fileChat_returns : ((fileChat.foldlM (@Page.step asciiBrowser)
    (@Page.load asciiBrowser none none)).map fun page => (page.chatHidden,
      feedTokens (page.getConversationMessages page.selectedConversation))) =
    some (false, [fileTokens (literal "<b>&\".pdf") 1 (some (literal "blob:0"))]) := by
  decide +kernel

/-- The name of the file is no markup. -/
theorem feed_contained_fileChat : ∃ page, @PageReachable asciiBrowser page ∧
    page.chatHidden = false ∧ (page.feed.filterMap Row.html).map readMarkup =
      [some (fileTokens (literal "<b>&\".pdf") 1 (some (literal "blob:0")))] := by
  obtain ⟨page, ran, same⟩ := Option.map_eq_some_iff.mp fileChat_returns
  obtain ⟨visible, listed⟩ := Prod.mk.inj same
  have reached : @PageReachable asciiBrowser page :=
    Reachable.of_foldlM (.start ⟨none, none, rfl⟩) ran
  have plain (number : Nat) : Plain (@Browser.objectUrl asciiBrowser number) := by
    intro point inside
    rcases List.mem_append.mp inside with scheme | digits
    · exact (by decide : Plain (literal "blob:")) point scheme
    · exact digitsText_plain number point digits
  have read := (@feed_contained asciiBrowser plain page reached visible).1
  rw [listed] at read
  exact ⟨page, reached, visible, read⟩

end MultiUserChat.Web
