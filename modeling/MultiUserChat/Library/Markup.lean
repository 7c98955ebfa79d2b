import Mathlib.Data.List.Basic
/-!
# Markup

The tokens of a text of markup: characters, and tags with their attributes. The machine `step` goes
through the text as the tokenizer of HTML does from the data state, as long as the text keeps to a
part of the language: the names of tags and attributes consist of small letters, values stand between
double quotes, and the references to characters are the four by which the characters of markup
themselves are written. It gives up at everything else. `readMarkup` also replaces the ends of lines
first. `Tokenizes` goes through a text piece by piece: a text whose characters are spelt one by one
(`Spelling`) becomes these characters wherever it stands, and changes nothing else
(`Tokenizes.spelt`).
-/

namespace MultiUserChat.Markup

/-! ## Tokens -/

/-- The attributes of a tag, as they are written. -/
abbrev Attributes := List (List Nat × List Nat)

/-- A token. -/
inductive Token
  /-- A character of the text. -/
  | character (point : Nat)
  /-- A start tag. -/
  | startTag (name : List Nat) (attributes : Attributes)
  /-- An end tag. -/
  | endTag (name : List Nat)
deriving DecidableEq

/-- The character that a reference stands for. -/
def named : List Nat → Option Nat
  | [0x61, 0x6d, 0x70] => some 0x26
  | [0x6c, 0x74] => some 0x3c
  | [0x67, 0x74] => some 0x3e
  | [0x71, 0x75, 0x6f, 0x74] => some 0x22
  | _ => none

/-- A small letter. -/
def Letter (point : Nat) : Prop := 0x61 ≤ point ∧ point ≤ 0x7a

instance (point : Nat) : Decidable (Letter point) :=
  inferInstanceAs (Decidable (0x61 ≤ point ∧ point ≤ 0x7a))

/-! ## The machine -/

/-- Where characters are taken. -/
inductive Position
  /-- Between the tags. -/
  | data
  /-- In the value of an attribute. -/
  | value (name : List Nat) (attributes : Attributes) (key value : List Nat)
deriving DecidableEq

/-- A state of the tokenizer. -/
inductive State
  /-- Where characters are taken. -/
  | inside (position : Position)
  /-- After the sign of a reference. -/
  | reference (position : Position) (name : List Nat)
  /-- After the sign of a tag. -/
  | tagOpen
  /-- In the name of a start tag. -/
  | tagName (name : List Nat)
  /-- In the name of an end tag, or in front of it. -/
  | endTagName (name : List Nat)
  /-- In the name of an attribute, or in front of it. -/
  | attributeName (name : List Nat) (attributes : Attributes) (key : List Nat)
  /-- In front of the value of an attribute. -/
  | beforeValue (name : List Nat) (attributes : Attributes) (key : List Nat)
  /-- After the value of an attribute. -/
  | afterValue (name : List Nat) (attributes : Attributes)
deriving DecidableEq

/-- A value keeps no null character. -/
def kept (point : Nat) : Nat := if point = 0 then 0xfffd else point

/-- Some characters are taken. -/
def Position.take : Position → List Nat → Position × List Token
  | data, text => (data, text.map .character)
  | value name attributes key taken, text =>
    (value name attributes key (taken ++ text.map kept), [])

/-- One character is read; nothing is known of the text when it does not keep to the part. -/
def step : State → Nat → Option (State × List Token)
  | .inside position, point =>
    if point = 0x26 then some (.reference position [], [])
    else
      match position with
      | .data =>
        if point = 0x3c then some (.tagOpen, [])
        else some (.inside (position.take [point]).1, (position.take [point]).2)
      | .value name attributes key taken =>
        if point = 0x22 then some (.afterValue name (attributes ++ [(key, taken)]), [])
        else some (.inside (position.take [point]).1, (position.take [point]).2)
  | .reference position name, point =>
    if point = 0x3b then
      (named name).map fun shown => (.inside (position.take [shown]).1, (position.take [shown]).2)
    else if Letter point then some (.reference position (name ++ [point]), [])
    else none
  | .tagOpen, point =>
    if point = 0x2f then some (.endTagName [], [])
    else if Letter point then some (.tagName [point], [])
    else none
  | .tagName name, point =>
    if point = 0x3e then some (.inside .data, [.startTag name []])
    else if point = 0x20 then some (.attributeName name [] [], [])
    else if Letter point then some (.tagName (name ++ [point]), [])
    else none
  | .endTagName name, point =>
    if point = 0x3e ∧ name ≠ [] then some (.inside .data, [.endTag name])
    else if Letter point then some (.endTagName (name ++ [point]), [])
    else none
  | .attributeName name attributes key, point =>
    -- A second attribute of one name would be dropped.
    if point = 0x3d ∧ key ≠ [] ∧ ∀ other ∈ attributes, other.1 ≠ key then
      some (.beforeValue name attributes key, [])
    else if Letter point then some (.attributeName name attributes (key ++ [point]), [])
    else none
  | .beforeValue name attributes key, point =>
    if point = 0x22 then some (.inside (.value name attributes key []), []) else none
  | .afterValue name attributes, point =>
    if point = 0x3e then some (.inside .data, [.startTag name attributes])
    else if point = 0x20 then some (.attributeName name attributes [], [])
    else none

/-- Some characters are read one after another. -/
def run : State → List Nat → Option (State × List Token)
  | state, [] => some (state, [])
  | state, point :: text => do
    let (state, tokens) ← step state point
    let (state, more) ← run state text
    return (state, tokens ++ more)

/-- The ends of lines are replaced by line feeds. -/
def newlines : List Nat → List Nat
  | 0x0d :: 0x0a :: text => 0x0a :: newlines text
  | 0x0d :: text => 0x0a :: newlines text
  | point :: text => point :: newlines text
  | [] => []

/-- The tokens of some markup. -/
def readMarkup (text : List Nat) : Option (List Token) :=
  match run (.inside .data) (newlines text) with
  | some (.inside .data, tokens) => some tokens
  | _ => none

/-! ## Runs -/

/-- A text is read after another. -/
theorem run_append {state between final : State} {text later : List Nat} {tokens more : List Token}
    (first : run state text = some (between, tokens)) (second : run between later = some (final, more)) :
    run state (text ++ later) = some (final, tokens ++ more) := by
  induction text generalizing state tokens with
  | nil =>
    cases first
    exact second
  | cons point text ih =>
    obtain ⟨⟨next, taken⟩, stepped, rest⟩ := Option.bind_eq_some_iff.mp first
    obtain ⟨⟨last, others⟩, ran, same⟩ := Option.bind_eq_some_iff.mp rest
    cases same
    have later := ih ran
    simp only [List.cons_append, run, stepped, later, Option.bind_eq_bind, Option.bind_some,
      Option.pure_def, List.append_assoc]

/-- Nothing is taken. -/
theorem Position.take_nil (position : Position) : position.take [] = (position, []) := by
  cases position with
  | data => rfl
  | value name attributes key taken => simp [Position.take]

/-- Characters are taken one after another. -/
theorem Position.take_cons (position : Position) (point : Nat) (text : List Nat) :
    position.take (point :: text) = (((position.take [point]).1.take text).1,
      (position.take [point]).2 ++ ((position.take [point]).1.take text).2) := by
  cases position with
  | data => rfl
  | value name attributes key taken => simp [Position.take]

/-! ## The ends of lines -/

/-- A character other than a carriage return stays. -/
theorem newlines_cons {point : Nat} (other : point ≠ 0x0d) (text : List Nat) :
    newlines (point :: text) = point :: newlines text :=
  newlines.eq_3 point text (fun _ same _ => other same) other

/-- A text without carriage returns stays, in front of any other. -/
theorem newlines_plain {text : List Nat} (plain : 0x0d ∉ text) (later : List Nat) :
    newlines (text ++ later) = text ++ newlines later := by
  induction text with
  | nil => rfl
  | cons point text ih =>
    have here : point ≠ 0x0d := fun same => plain (same ▸ List.mem_cons_self)
    rw [List.cons_append, newlines_cons here, ih fun inside => plain (List.mem_cons_of_mem _ inside)]
    rfl

/-- No end of a line goes over two texts unless it begins and ends with its two characters. -/
theorem newlines_append {text later : List Nat}
    (apart : text.getLast? = some 0x0d → later.head? ≠ some 0x0a) :
    newlines (text ++ later) = newlines text ++ newlines later := by
  fun_induction newlines text with
  | case1 text ih =>
    have rest : text.getLast? = some 0x0d → later.head? ≠ some 0x0a := by
      cases text with
      | nil => exact fun none => nomatch none
      | cons first text => simpa using apart
    simpa [newlines] using ih rest
  | case2 text single ih =>
    cases text with
    | nil =>
      cases later with
      | nil => rfl
      | cons first later =>
        have first : first ≠ 0x0a := by simpa using apart rfl
        simp [newlines, first]
    | cons first text =>
      have first : first ≠ 0x0a := fun same => single text (same ▸ rfl)
      have rest := ih (by simpa using apart)
      rw [List.cons_append] at rest
      simpa [newlines, first] using rest
  | case3 first text single other ih =>
    have rest : text.getLast? = some 0x0d → later.head? ≠ some 0x0a := by
      cases text with
      | nil => exact fun none => nomatch none
      | cons second text => simpa using apart
    rw [List.cons_append, newlines_cons other, ih rest]
    rfl
  | case4 => rfl

/-! ## Spelling -/

/-- Every character is written such that it is read as itself, between the tags and in a value; so are
the ends of lines. -/
structure Spelling (spell : Nat → List Nat) : Prop where
  /-- A character is read as itself. -/
  read : ∀ position point, run (.inside position) (spell point) =
    some (.inside (position.take [point]).1, (position.take [point]).2)
  /-- The characters of an end of a line are not spelt in another way. -/
  line : ∀ point, point = 0x0d ∨ point = 0x0a → spell point = [point]
  /-- No other character is spelt with them. -/
  other : ∀ point, point ≠ 0x0d → point ≠ 0x0a →
    spell point ≠ [] ∧ ∀ written ∈ spell point, written ≠ 0x0d ∧ written ≠ 0x0a

/-- A text that is spelt is read as the text. -/
theorem Spelling.run {spell : Nat → List Nat} (spelling : Spelling spell) (position : Position)
    (text : List Nat) : Markup.run (.inside position) (text.flatMap spell) =
      some (.inside (position.take text).1, (position.take text).2) := by
  induction text generalizing position with
  | nil =>
    rw [Position.take_nil]
    rfl
  | cons point text ih =>
    rw [List.flatMap_cons, Position.take_cons]
    exact run_append (spelling.read position point) (ih _)

/-- The spelling of a text that does not begin with a line feed does not, either. -/
theorem Spelling.head {spell : Nat → List Nat} (spelling : Spelling spell) {text : List Nat}
    (other : text.head? ≠ some 0x0a) : (text.flatMap spell).head? ≠ some 0x0a := by
  cases text with
  | nil => exact other
  | cons point text =>
    have feed : point ≠ 0x0a := by simpa using other
    rw [List.flatMap_cons]
    by_cases back : point = 0x0d
    · rw [spelling.line point (.inl back), back]
      simp
    · obtain ⟨some, written⟩ := spelling.other point back feed
      obtain ⟨first, rest, same⟩ := List.exists_cons_of_ne_nil some
      have first := (written first (same ▸ List.mem_cons_self)).2
      simpa [same] using first

/-- The ends of lines of a spelt text are those of the text. -/
theorem Spelling.newlines {spell : Nat → List Nat} (spelling : Spelling spell) (text : List Nat) :
    newlines (text.flatMap spell) = (newlines text).flatMap spell := by
  have feed := spelling.line 0x0a (.inr rfl)
  have back := spelling.line 0x0d (.inl rfl)
  fun_induction Markup.newlines text with
  | case1 text ih =>
    rw [List.flatMap_cons, List.flatMap_cons, List.flatMap_cons, back, feed, ← ih]
    rfl
  | case2 text single ih =>
    have other : text.head? ≠ some 0x0a := fun same => by
      obtain ⟨rest, same⟩ := List.head?_eq_some_iff.mp same
      exact single rest same
    rw [List.flatMap_cons, List.flatMap_cons, back, feed, ← ih,
      newlines_append fun _ => spelling.head other]
    rfl
  | case3 point text single other ih =>
    rw [List.flatMap_cons, List.flatMap_cons, ← ih]
    refine newlines_plain (fun inside => ?_) _
    by_cases same : point = 0x0a
    · rw [spelling.line point (.inr same), List.mem_singleton] at inside
      exact other inside.symm
    · exact ((spelling.other point other same).2 _ inside).1 rfl
  | case4 => rfl

/-- A text without the characters of markup, and without those that are replaced. -/
def Plain (text : List Nat) : Prop :=
  ∀ point ∈ text, point ≠ 0x26 ∧ point ≠ 0x3c ∧ point ≠ 0x22 ∧ point ≠ 0x0d ∧ point ≠ 0

instance (text : List Nat) : Decidable (Plain text) :=
  inferInstanceAs (Decidable
    (∀ point ∈ text, point ≠ 0x26 ∧ point ≠ 0x3c ∧ point ≠ 0x22 ∧ point ≠ 0x0d ∧ point ≠ 0))

/-- A plain text is read as it is. -/
theorem Plain.run {text : List Nat} (plain : Plain text) (position : Position) :
    Markup.run (.inside position) text =
      some (.inside (position.take text).1, (position.take text).2) := by
  induction text generalizing position with
  | nil =>
    rw [Position.take_nil]
    rfl
  | cons point text ih =>
    obtain ⟨reference, tag, quote, _⟩ := plain point List.mem_cons_self
    have here : step (.inside position) point =
        some (.inside (position.take [point]).1, (position.take [point]).2) := by
      cases position with
      | data => simp [step, reference, tag]
      | value name attributes key taken => simp [step, reference, quote]
    have later := ih (fun other inside => plain other (List.mem_cons_of_mem _ inside))
      (position.take [point]).1
    rw [Position.take_cons]
    simp only [Markup.run, here, later, Option.bind_eq_bind, Option.bind_some, Option.pure_def]

/-- A plain text has no end of a line to replace. -/
theorem Plain.newlines {text : List Nat} (plain : Plain text) : newlines text = text := by
  have same := newlines_plain (fun inside => (plain _ inside).2.2.2.1 rfl) ([] : List Nat)
  rwa [List.append_nil, Markup.newlines, List.append_nil] at same

/-- A value keeps it. -/
theorem Plain.kept {text : List Nat} (plain : Plain text) : text.map kept = text := by
  refine (List.map_congr_left fun point inside => ?_).trans text.map_id
  exact if_neg (plain point inside).2.2.2.2

/-! ## Piece by piece -/

/-- A piece of markup takes the tokenizer from one state to another. -/
def Tokenizes (state : State) (text : List Nat) (final : State) (tokens : List Token) : Prop :=
  run state (newlines text) = some (final, tokens)

instance (state : State) (text : List Nat) (final : State) (tokens : List Token) :
    Decidable (Tokenizes state text final tokens) :=
  inferInstanceAs (Decidable (run state (newlines text) = some (final, tokens)))

/-- One piece after another. -/
theorem Tokenizes.append {state between final : State} {text later : List Nat}
    {tokens more : List Token} (first : Tokenizes state text between tokens) (second : Tokenizes between later final more)
    (apart : text.getLast? = some 0x0d → later.head? ≠ some 0x0a) :
    Tokenizes state (text ++ later) final (tokens ++ more) := by
  unfold Tokenizes
  rw [newlines_append apart]
  exact run_append first second

/-- A text that is spelt. -/
theorem Tokenizes.spelt {spell : Nat → List Nat} (spelling : Spelling spell) (position : Position)
    (text : List Nat) : Tokenizes (.inside position) (text.flatMap spell)
      (.inside (position.take (newlines text)).1) (position.take (newlines text)).2 := by
  unfold Tokenizes
  rw [spelling.newlines]
  exact spelling.run position _

/-- A plain text. -/
theorem Tokenizes.plain {text : List Nat} (plain : Plain text) (position : Position) :
    Tokenizes (.inside position) text (.inside (position.take text).1) (position.take text).2 := by
  unfold Tokenizes
  rw [plain.newlines]
  exact plain.run position

/-- All of the pieces. -/
theorem Tokenizes.all {text : List Nat} {tokens : List Token}
    (reads : Tokenizes (.inside .data) text (.inside .data) tokens) :
    readMarkup text = some tokens := by
  unfold readMarkup
  rw [show run (.inside .data) (newlines text) = some (.inside .data, tokens) from reads]

end MultiUserChat.Markup
