import Mathlib.Data.List.TakeWhile
import MultiUserChat.Library.Json
import MultiUserChat.Library.Utf8Encode
/-!
# Reading what was written

A value is sound when its strings are strings and its numbers are written as numbers. The reader takes
the text of a sound value back to the value, whatever stands behind it (`readValue_stringify`), by
induction on the value; the turns that it needs are at most the characters that it reads.
-/

namespace MultiUserChat.Json

/-! ## Strings -/

/-- A digit is read as its value. -/
theorem hexDigitValue_hexDigit {value : Nat} (small : value < 16) :
    hexDigitValue (hexDigit value) = some value := by
  revert value
  decide

/-- Four digits are read as the unit that they were written for. -/
theorem hexUnit_digits {unit : Nat} (small : unit < 0x10000) :
    hexUnit (hexDigit (unit / 0x1000 % 16)) (hexDigit (unit / 0x100 % 16))
      (hexDigit (unit / 0x10 % 16)) (hexDigit (unit % 16)) = some unit := by
  have whole : unit / 0x1000 % 16 * 0x1000 + unit / 0x100 % 16 * 0x100 + unit / 0x10 % 16 * 0x10 +
      unit % 16 = unit := by omega
  unfold hexUnit
  rw [hexDigitValue_hexDigit (Nat.mod_lt _ (by decide)), hexDigitValue_hexDigit (Nat.mod_lt _ (by decide)),
    hexDigitValue_hexDigit (Nat.mod_lt _ (by decide)), hexDigitValue_hexDigit (Nat.mod_lt _ (by decide))]
  exact congrArg some whole

/-- A letter behind a backslash is read as the character that it was written for. -/
theorem unescapeLetter_escapeLetter {point letter : Nat} (written : escapeLetter point = some letter) :
    letter ≠ 0x75 ∧ unescapeLetter letter = some point ∧ Utf16.units point = [point] := by
  unfold escapeLetter at written
  repeat' split at written
  all_goals first
    | contradiction
    | cases written; subst_vars; decide

/-- A code point that was written is read as its units. -/
theorem readString_quotePoint {point : Nat} (bound : point < 0x110000) (rest : List Nat) :
    readString (quotePoint point ++ rest) =
      (readString rest).map fun read => (Utf16.units point ++ read.1, read.2) := by
  unfold quotePoint
  cases written : escapeLetter point with
  | some letter =>
    obtain ⟨other, back, single⟩ := unescapeLetter_escapeLetter written
    have start : backslash ≠ quote := by decide
    simp only [List.cons_append, List.nil_append]
    rw [readString.eq_def]
    simp only [if_neg start, ↓reduceIte, if_neg other, back, single]
    cases readString rest with
    | none => rfl
    | some read => rfl
  | none =>
    by_cases special : point < 0x20 ∨ Utf16.High point ∨ Utf16.Low point
    · have small : point < 0x10000 := by
        rcases special with control | high | low
        · omega
        · have := high.2
          omega
        · have := low.2
          omega
      have single : Utf16.units point = [point] := if_pos small
      have start : backslash ≠ quote := by decide
      simp only [if_pos special, unicodeEscape, List.cons_append, List.nil_append]
      rw [readString.eq_def]
      simp only [if_neg start, ↓reduceIte, hexUnit_digits small, single]
      cases readString rest with
      | none => rfl
      | some read => rfl
    · have plain : point ≠ quote ∧ point ≠ backslash := by
        constructor
        · rintro rfl
          exact absurd written (by decide)
        · rintro rfl
          exact absurd written (by decide)
      have visible : ¬ point < 0x20 := fun control => special (.inl control)
      simp only [if_neg special]
      rw [List.singleton_append, readString.eq_def]
      simp only [if_neg plain.1, if_neg plain.2, if_neg visible]
      cases readString rest with
      | none => rfl
      | some read => rfl

/-- A string that was written is read as its units, up to the quotation mark. -/
theorem readString_quoted {text : List Nat} (bounded : ∀ point ∈ text, point < 0x110000)
    (rest : List Nat) :
    readString (text.flatMap quotePoint ++ quote :: rest) = some (text.flatMap Utf16.units, rest) := by
  induction text with
  | nil =>
    rw [List.flatMap_nil, List.nil_append, readString.eq_def]
    rfl
  | cons point text ih =>
    have later := ih fun other inside => bounded other (List.mem_cons_of_mem _ inside)
    rw [List.flatMap_cons, List.append_assoc,
      readString_quotePoint (bounded point List.mem_cons_self), later]
    rfl

/-! ## Numbers -/

/-- A character that a number may go on with. -/
def goesOn (point : Nat) : Bool := isDigit point || point ∈ [0x2e, 0x65, 0x45]

/-- What stands behind a number. -/
def Ends (rest : List Nat) : Prop := ∀ point ∈ rest.head?, goesOn point = false

/-- A number, as it may be written. -/
def WrittenNumber (written : List Nat) : Prop := readNumber written = some (written, [])

/-- Nothing that is read up to a character depends on what stands behind it. -/
theorem takeWhile_append_stop {α : Type} {test : α → Bool} (text : List α) {rest : List α}
    (stops : ∀ point ∈ rest.head?, test point = false) :
    (text ++ rest).takeWhile test = text.takeWhile test ∧
      (text ++ rest).dropWhile test = text.dropWhile test ++ rest := by
  induction text with
  | nil =>
    cases rest with
    | nil => exact ⟨rfl, rfl⟩
    | cons point rest =>
      have stop := stops point (by simp)
      simp [stop]
  | cons point text ih =>
    by_cases passes : test point = true
    · simp [passes, ih.1, ih.2]
    · simp [passes]

/-- Digits in front of a text. -/
theorem readDigits_append {text digits later : List Nat} (read : readDigits text = some (digits, later))
    {rest : List Nat} (ends : Ends rest) :
    readDigits (text ++ rest) = some (digits, later ++ rest) := by
  have stops : ∀ point ∈ rest.head?, isDigit point = false := by
    intro point first
    have stop := ends point first
    simp only [goesOn, Bool.or_eq_false_iff] at stop
    exact stop.1
  obtain ⟨taken, dropped⟩ := takeWhile_append_stop text stops
  unfold readDigits at read ⊢
  rw [taken, dropped]
  split at read
  · contradiction
  rename_i some_
  cases read
  rw [if_neg some_]

/-- The digits in front of the point. -/
theorem readWhole_append {text whole later : List Nat} (read : readWhole text = some (whole, later))
    {rest : List Nat} (ends : Ends rest) :
    readWhole (text ++ rest) = some (whole, later ++ rest) := by
  unfold readWhole at read ⊢
  cases text with
  | nil => simp [readDigits] at read
  | cons point text =>
    rw [List.cons_append]
    simp only [List.head?_cons, List.tail_cons, Option.some.injEq] at read ⊢
    by_cases zero : point = 0x30
    · rw [if_pos zero] at read ⊢
      cases read
      rfl
    · rw [if_neg zero] at read ⊢
      exact readDigits_append read ends

/-- A point and the digits behind it. -/
theorem readFraction_append {text fraction later : List Nat}
    (read : readFraction text = some (fraction, later)) {rest : List Nat} (ends : Ends rest) :
    readFraction (text ++ rest) = some (fraction, later ++ rest) := by
  unfold readFraction at read ⊢
  cases text with
  | nil =>
    cases read
    have other : rest.head? ≠ some 0x2e := by
      intro point
      have stop := ends 0x2e point
      contradiction
    rw [List.nil_append, if_neg other]
  | cons point text =>
    rw [List.cons_append]
    simp only [List.head?_cons, List.tail_cons, Option.some.injEq] at read ⊢
    by_cases dot : point = 0x2e
    · rw [if_pos dot] at read ⊢
      obtain ⟨digits, found, same⟩ := Option.map_eq_some_iff.mp read
      cases same
      rw [readDigits_append found ends]
      rfl
    · rw [if_neg dot] at read ⊢
      cases read
      rfl

/-- An exponent. -/
theorem readExponent_append {text exponent later : List Nat}
    (read : readExponent text = some (exponent, later)) {rest : List Nat} (ends : Ends rest) :
    readExponent (text ++ rest) = some (exponent, later ++ rest) := by
  cases text with
  | nil =>
    cases read
    cases rest with
    | nil => rfl
    | cons point rest =>
      have stop := ends point (by simp)
      have other : ¬ (point = 0x65 ∨ point = 0x45) := by
        rintro (rfl | rfl) <;> contradiction
      rw [List.nil_append, readExponent, if_neg other]
  | cons mark text =>
    rw [List.cons_append]
    rw [readExponent] at read ⊢
    by_cases marks : mark = 0x65 ∨ mark = 0x45
    · rw [if_pos marks] at read ⊢
      obtain ⟨digits, found, same⟩ := Option.map_eq_some_iff.mp read
      cases same
      have sign : (readSign (text ++ rest)).1 = (readSign text).1 ∧
          (readSign (text ++ rest)).2 = (readSign text).2 ++ rest := by
        cases text with
        | nil => simp [readSign, readDigits] at found
        | cons sign text =>
          rw [List.cons_append, readSign, readSign]
          split
          · exact ⟨rfl, rfl⟩
          · exact ⟨rfl, rfl⟩
      rw [sign.1, sign.2, readDigits_append found ends]
      rfl
    · rw [if_neg marks] at read ⊢
      cases read
      rfl

/-- A number in front of a text. -/
theorem readNumber_append {text written later : List Nat}
    (read : readNumber text = some (written, later)) {rest : List Nat} (ends : Ends rest) :
    readNumber (text ++ rest) = some (written, later ++ rest) := by
  unfold readNumber at read ⊢
  simp only [Option.bind_eq_bind, Option.bind_eq_some_iff] at read
  obtain ⟨whole, readWhole_, fraction, readFraction_, exponent, readExponent_, same⟩ := read
  have minus : (readMinus (text ++ rest)).1 = (readMinus text).1 ∧
      (readMinus (text ++ rest)).2 = (readMinus text).2 ++ rest := by
    cases text with
    | nil => simp [readMinus, readWhole, readDigits] at readWhole_
    | cons sign text =>
      rw [List.cons_append, readMinus, readMinus]
      split
      · exact ⟨rfl, rfl⟩
      · exact ⟨rfl, rfl⟩
  rw [minus.1, minus.2, readWhole_append readWhole_ ends]
  simp only [Option.bind_eq_bind, Option.bind_some]
  rw [readFraction_append readFraction_ ends]
  simp only [Option.bind_some]
  rw [readExponent_append readExponent_ ends]
  cases same
  rfl

/-- A character of a number. -/
def numeric (point : Nat) : Bool := goesOn point || point ∈ [0x2b, 0x2d]

/-- No other character belongs to a number. -/
theorem numeric_ne {point other : Nat} (inside : numeric point = true)
    (outside : numeric other = false) : point ≠ other := by
  rintro rfl
  rw [outside] at inside
  contradiction

/-- The digits that are read. -/
theorem readDigits_numeric {text digits later : List Nat}
    (read : readDigits text = some (digits, later)) : ∀ point ∈ digits, isDigit point = true := by
  unfold readDigits at read
  split at read
  · contradiction
  · cases read
    exact fun point inside => List.mem_takeWhile_imp inside

/-- A digit belongs to a number. -/
theorem numeric_of_digit {point : Nat} (digit : isDigit point = true) : numeric point = true := by
  simp [numeric, goesOn, digit]

/-- Every character of a number that is read. -/
theorem readNumber_numeric {text written later : List Nat}
    (read : readNumber text = some (written, later)) : ∀ point ∈ written, numeric point = true := by
  unfold readNumber at read
  simp only [Option.bind_eq_bind, Option.bind_eq_some_iff] at read
  obtain ⟨whole, readWhole_, fraction, readFraction_, exponent, readExponent_, same⟩ := read
  cases same
  intro point inside
  simp only [List.mem_append] at inside
  rcases inside with ((minus | inside) | inside) | inside
  · cases text with
    | nil => contradiction
    | cons sign text =>
      rw [readMinus] at minus
      split at minus
      · rename_i dash
        rw [List.mem_singleton.mp minus, dash]
        rfl
      · contradiction
  · unfold readWhole at readWhole_
    split at readWhole_
    · cases readWhole_
      rw [List.mem_singleton.mp inside]
      rfl
    · exact numeric_of_digit (readDigits_numeric readWhole_ point inside)
  · unfold readFraction at readFraction_
    split at readFraction_
    · obtain ⟨digits, found, same⟩ := Option.map_eq_some_iff.mp readFraction_
      cases same
      rcases List.mem_cons.mp inside with rfl | inside
      · rfl
      · exact numeric_of_digit (readDigits_numeric found point inside)
    · cases readFraction_
      contradiction
  · cases behind : fraction.2 with
    | nil =>
      rw [behind] at readExponent_
      cases readExponent_
      contradiction
    | cons mark rest =>
      rw [behind] at readExponent_
      rw [readExponent] at readExponent_
      split at readExponent_
      · rename_i marks
        obtain ⟨digits, found, same⟩ := Option.map_eq_some_iff.mp readExponent_
        cases same
        rcases List.mem_cons.mp inside with rfl | inside
        · rcases marks with rfl | rfl <;> rfl
        rcases List.mem_append.mp inside with sign | inside
        · cases rest with
          | nil => contradiction
          | cons sign_ rest =>
            rw [readSign] at sign
            split at sign
            · rename_i signs
              rw [List.mem_singleton.mp sign]
              rcases signs with rfl | rfl <;> rfl
            · contradiction
        · exact numeric_of_digit (readDigits_numeric found point inside)
      · cases readExponent_
        contradiction

/-! ## Values -/

mutual

/-- Strings are strings and numbers are numbers. -/
def Sound : Json → Prop
  | null => True
  | bool _ => True
  | number written => WrittenNumber written
  | string text => Utf16.Paired text
  | array items => SoundItems items
  | object members => SoundMembers members

/-- Each item is sound. -/
def SoundItems : List Json → Prop
  | [] => True
  | item :: items => Sound item ∧ SoundItems items

/-- Each name is a string and each value is sound. -/
def SoundMembers : List (List Nat × Json) → Prop
  | [] => True
  | (name, value) :: members => Utf16.Paired name ∧ Sound value ∧ SoundMembers members

end

/-- The items behind the first one. -/
theorem stringifyMoreItems_cons (item : Json) (items : List Json) :
    stringifyMoreItems (item :: items) = 0x2c :: stringifyItems (item :: items) := rfl

/-- The members behind the first one. -/
theorem stringifyMoreMembers_cons (member : List Nat × Json) (members : List (List Nat × Json)) :
    stringifyMoreMembers (member :: members) = 0x2c :: stringifyMembers (member :: members) := rfl

/-- A number begins with one of its characters. -/
theorem WrittenNumber.head {written : List Nat} (number : WrittenNumber written) :
    ∃ point rest, written = point :: rest ∧ numeric point = true := by
  cases written with
  | nil => contradiction
  | cons point rest => exact ⟨point, rest, rfl, readNumber_numeric number point List.mem_cons_self⟩

/-- The first character of a value is no white space and closes nothing. -/
theorem stringify_head {value : Json} (sound : value.Sound) : ∃ point rest,
    value.stringify = point :: rest ∧ blank point = false ∧ point ≠ 0x5d ∧ point ≠ 0x7d := by
  cases value with
  | null => exact ⟨_, _, rfl, by decide⟩
  | bool value => cases value <;> exact ⟨_, _, rfl, by decide⟩
  | number written =>
    obtain ⟨point, rest, begins, numeric_⟩ := WrittenNumber.head sound
    have visible : blank point = false := by
      have tab := numeric_ne numeric_ (by decide : numeric 0x9 = false)
      have line := numeric_ne numeric_ (by decide : numeric 0xa = false)
      have return_ := numeric_ne numeric_ (by decide : numeric 0xd = false)
      have space := numeric_ne numeric_ (by decide : numeric 0x20 = false)
      simp [blank, tab, line, return_, space]
    exact ⟨point, rest, begins, visible, numeric_ne numeric_ (by decide),
      numeric_ne numeric_ (by decide)⟩
  | string text => exact ⟨_, _, rfl, by decide⟩
  | array items => exact ⟨_, _, rfl, by decide⟩
  | object members => exact ⟨_, _, rfl, by decide⟩

/-- No white space stands in front of a value. -/
theorem stringify_starts {value : Json} (sound : value.Sound) (rest : List Nat) :
    (value.stringify ++ rest).dropWhile blank = value.stringify ++ rest := by
  obtain ⟨point, later, begins, visible, _⟩ := stringify_head sound
  rw [begins, List.cons_append, List.dropWhile_cons_of_neg (by simp [visible])]

/-- What stands behind an item ends a number. -/
theorem ends_moreItems (items : List Json) (rest : List Nat) :
    Ends (stringifyMoreItems items ++ rest) := by
  intro point first
  cases items with
  | nil => cases first; rfl
  | cons item items => cases first; rfl

/-- What stands behind a member ends a number. -/
theorem ends_moreMembers (members : List (List Nat × Json)) (rest : List Nat) :
    Ends (stringifyMoreMembers members ++ rest) := by
  intro point first
  cases members with
  | nil => cases first; rfl
  | cons member members => cases first; rfl

/-- A word is no number. -/
theorem readPlain_number {written : List Nat} (sound : WrittenNumber written) {rest : List Nat}
    (ends : Ends rest) : readPlain (written ++ rest) = some (number written, rest) := by
  obtain ⟨point, later, begins, numeric_⟩ := sound.head
  have noN := (numeric_ne numeric_ (by decide : numeric 0x6e = false)).symm
  have noT := (numeric_ne numeric_ (by decide : numeric 0x74 = false)).symm
  have noF := (numeric_ne numeric_ (by decide : numeric 0x66 = false)).symm
  have read := readNumber_append sound ends
  have noWord : nullWord.isPrefixOf (written ++ rest) = false ∧
      trueWord.isPrefixOf (written ++ rest) = false ∧
      falseWord.isPrefixOf (written ++ rest) = false := by
    rw [begins]
    simp [nullWord, trueWord, falseWord, List.isPrefixOf, noN, noT, noF]
  rw [readPlain, noWord.1, noWord.2.1, noWord.2.2, read]
  rfl

/-- A name that was written is read, with the colon behind it. -/
theorem readName_quoted {name : List Nat} (paired : Utf16.Paired name) (rest : List Nat) :
    readName (quoted name ++ 0x3a :: rest) = some (name, rest) := by
  have start : (quoted name ++ 0x3a :: rest).dropWhile blank =
      quote :: (name.flatMap quotePoint ++ quote :: 0x3a :: rest) := by
    simp [quoted, blank, quote]
  rw [readName, start]
  simp only [↓reduceIte, readString_quoted paired.bounded, Option.bind_eq_bind, Option.bind_some]
  have colon : (0x3a :: rest).dropWhile blank = 0x3a :: rest := by simp [blank]
  rw [colon]
  simp [Utf16.points_units paired]

mutual

/-- The text of a sound value is read as the value, up to where it ends. -/
theorem readValue_stringify : ∀ (value : Json), value.Sound → ∀ (turns : Nat) (rest : List Nat),
    value.stringify.length ≤ turns → Ends rest →
      readValue turns (value.stringify ++ rest) = some (value, rest)
  | value, sound, 0, rest, enough, _ => by
    obtain ⟨point, later, begins, _⟩ := stringify_head sound
    rw [begins] at enough
    contradiction
  | null, _, turns + 1, rest, _, _ => by
    simp [stringify, nullWord, readValue, blank, readPlain, quote]
  | bool true, _, turns + 1, rest, _, _ => by
    simp [stringify, nullWord, trueWord, readValue, blank, readPlain, quote]
  | bool false, _, turns + 1, rest, _, _ => by
    simp [stringify, nullWord, trueWord, falseWord, readValue, blank, readPlain, quote]
  | number written, sound, turns + 1, rest, _, ends => by
    obtain ⟨point, later, begins, numeric_⟩ := WrittenNumber.head sound
    have visible := stringify_starts sound rest
    have noString := numeric_ne numeric_ (by decide : numeric quote = false)
    have noArray := numeric_ne numeric_ (by decide : numeric 0x5b = false)
    have noObject := numeric_ne numeric_ (by decide : numeric 0x7b = false)
    have read := readPlain_number sound ends
    rw [readValue, visible, stringify]
    rw [begins, List.cons_append] at read ⊢
    simp only [if_neg noString, if_neg noArray, if_neg noObject]
    exact read
  | string text, sound, turns + 1, rest, _, _ => by
    have paired : Utf16.Paired text := sound
    rw [readValue, stringify_starts sound]
    simp only [stringify, quoted, List.cons_append, List.append_assoc, List.nil_append,
      ↓reduceIte, readString_quoted paired.bounded, Option.map_some, Utf16.points_units paired]
  | array [], _, turns + 1, rest, _, _ => by
    simp [stringify, stringifyItems, readValue, blank, quote]
  | array (item :: items), sound, turns + 1, rest, enough, _ => by
    have more : (stringifyItems (item :: items)).length ≤ turns := Nat.le_of_succ_le_succ enough
    have read := readItems_stringify (item :: items) sound (by simp) turns rest more
    have first : ((stringifyItems (item :: items) ++ rest).dropWhile blank).head? ≠ some 0x5d := by
      have starts := stringify_starts sound.1 (stringifyMoreItems items ++ rest)
      obtain ⟨point, later, begins, _, other, _⟩ := stringify_head sound.1
      rw [stringifyItems, List.append_assoc, starts, begins]
      simpa using other
    have bracket : (0x5b : Nat) ≠ quote := by decide
    rw [readValue, stringify_starts sound]
    simp only [stringify, List.cons_append, if_neg bracket, ↓reduceIte, if_neg first, read,
      Option.map_some]
  | object [], _, turns + 1, rest, _, _ => by
    simp [stringify, stringifyMembers, readValue, blank, quote]
  | object (member :: members), sound, turns + 1, rest, enough, _ => by
    have more : (stringifyMembers (member :: members)).length ≤ turns :=
      Nat.le_of_succ_le_succ enough
    have read := readMembers_stringify (member :: members) sound (by simp) turns rest more
    have first : ((stringifyMembers (member :: members) ++ rest).dropWhile blank).head? ≠
        some 0x7d := by
      simp [stringifyMembers, quoted, blank, quote]
    have brace : (0x7b : Nat) ≠ quote := by decide
    have other : (0x7b : Nat) ≠ 0x5b := by decide
    rw [readValue, stringify_starts sound]
    simp only [stringify, List.cons_append, if_neg brace, if_neg other, ↓reduceIte, if_neg first, read,
      Option.map_some]

/-- The items of an array. -/
theorem readItems_stringify : ∀ (items : List Json), SoundItems items → items ≠ [] →
    ∀ (turns : Nat) (rest : List Nat), (stringifyItems items).length ≤ turns →
      readItems turns (stringifyItems items ++ rest) = some (items, rest)
  | [], _, nonempty, _, _, _ => absurd rfl nonempty
  | item :: items, sound, _, 0, rest, enough => by
    obtain ⟨point, later, begins, _⟩ := stringify_head sound.1
    rw [stringifyItems, begins] at enough
    contradiction
  | item :: items, sound, _, turns + 1, rest, enough => by
    rw [stringifyItems, List.length_append] at enough
    have some_ : 0 < (stringifyMoreItems items).length := by
      cases items <;> exact Nat.succ_pos _
    have read := readValue_stringify item sound.1 turns (stringifyMoreItems items ++ rest) (by omega)
      (ends_moreItems items rest)
    rw [readItems, stringifyItems, List.append_assoc, read]
    cases items with
    | nil => simp [stringifyMoreItems, blank]
    | cons next items =>
      obtain ⟨point, later, begins, _⟩ := stringify_head sound.1
      rw [stringifyMoreItems_cons, begins, List.length_cons, List.length_cons] at enough
      have later := readItems_stringify (next :: items) sound.2 (by simp) turns rest (by omega)
      rw [stringifyMoreItems_cons]
      simp [blank, later]

/-- The members of an object. -/
theorem readMembers_stringify : ∀ (members : List (List Nat × Json)), SoundMembers members →
    members ≠ [] → ∀ (turns : Nat) (rest : List Nat), (stringifyMembers members).length ≤ turns →
      readMembers turns (stringifyMembers members ++ rest) = some (members, rest)
  | [], _, nonempty, _, _, _ => absurd rfl nonempty
  | (name, value) :: members, sound, _, 0, rest, enough => by
    contradiction
  | (name, value) :: members, sound, _, turns + 1, rest, enough => by
    rw [stringifyMembers, List.length_append, List.length_cons, List.length_append] at enough
    have some_ : 0 < (stringifyMoreMembers members).length := by
      cases members <;> exact Nat.succ_pos _
    have read := readValue_stringify value sound.2.1 turns (stringifyMoreMembers members ++ rest)
      (by omega) (ends_moreMembers members rest)
    have text : stringifyMembers ((name, value) :: members) ++ rest =
        quoted name ++ 0x3a :: (value.stringify ++ (stringifyMoreMembers members ++ rest)) := by
      simp [stringifyMembers]
    rw [readMembers, text, readName_quoted sound.1]
    simp only [Option.bind_eq_bind, Option.bind_some, read]
    cases members with
    | nil => simp [stringifyMoreMembers, blank]
    | cons next members =>
      rw [stringifyMoreMembers_cons, List.length_cons] at enough
      have later := readMembers_stringify (next :: members) sound.2.2 (by simp) turns rest (by omega)
      rw [stringifyMoreMembers_cons]
      simp [blank, later]

end

/-- The text of a sound value denotes the value. -/
theorem parse_stringify {value : Json} (sound : value.Sound) : parse value.stringify = some value := by
  have read := readValue_stringify value sound (value.stringify.length + 1) [] (Nat.le_succ _)
    (fun _ first => by contradiction)
  rw [List.append_nil] at read
  rw [parse, read]
  rfl

/-! ## Sending a text -/

/-- An ASCII character can be sent. -/
theorem scalar_of_ascii {point : Nat} (small : point < 0x80) : Utf8.Scalar point :=
  .inl (Nat.lt_trans small (by decide))

/-- A code point inside of a string is written with characters that can be sent. -/
theorem quotePoint_scalar {point : Nat} (bound : point < 0x110000) :
    ∀ written ∈ quotePoint point, Utf8.Scalar written := by
  have digit : ∀ value, value < 16 → hexDigit value < 0x80 := by decide
  unfold quotePoint
  split
  · rename_i letter found
    have small : letter < 0x80 := by
      unfold escapeLetter at found
      repeat' split at found
      all_goals first
        | contradiction
        | cases found; decide
    intro written inside
    simp only [List.mem_cons, List.not_mem_nil, or_false] at inside
    rcases inside with rfl | rfl
    · exact scalar_of_ascii (by decide)
    · exact scalar_of_ascii small
  · split
    · intro written inside
      simp only [unicodeEscape, List.mem_cons, List.not_mem_nil, or_false] at inside
      rcases inside with rfl | rfl | rfl | rfl | rfl | rfl
      · exact scalar_of_ascii (by decide)
      · exact scalar_of_ascii (by decide)
      all_goals exact scalar_of_ascii (digit _ (Nat.mod_lt _ (by decide)))
    · rename_i plain
      intro written inside
      rw [List.mem_singleton.mp inside]
      simp only [not_or, Utf16.High, Utf16.Low, not_and, Nat.not_lt] at plain
      unfold Utf8.Scalar
      omega

/-- A string is written with characters that can be sent. -/
theorem quoted_scalar {text : List Nat} (bounded : ∀ point ∈ text, point < 0x110000) :
    ∀ written ∈ quoted text, Utf8.Scalar written := by
  intro written inside
  rcases List.mem_cons.mp inside with rfl | inside
  · exact scalar_of_ascii (by decide)
  rcases List.mem_append.mp inside with inside | inside
  · obtain ⟨point, there, inside⟩ := List.mem_flatMap.mp inside
    exact quotePoint_scalar (bounded point there) written inside
  · rw [List.mem_singleton.mp inside]
    exact scalar_of_ascii (by decide)

mutual

/-- A value is written with characters that can be sent. -/
theorem stringify_scalar : ∀ (value : Json), value.Sound →
    ∀ point ∈ value.stringify, Utf8.Scalar point
  | null, _ => by decide
  | bool true, _ => by decide
  | bool false, _ => by decide
  | number written, sound => by
    have small : ∀ point, numeric point = true → point < 0x80 := by
      intro point inside
      simp only [numeric, goesOn, isDigit, Bool.or_eq_true, decide_eq_true_eq, List.mem_cons,
        List.not_mem_nil, or_false] at inside
      omega
    exact fun point inside => scalar_of_ascii (small point (readNumber_numeric sound point inside))
  | string text, sound => quoted_scalar (Utf16.Paired.bounded sound)
  | array items, sound => by
    intro point inside
    rcases List.mem_cons.mp inside with rfl | inside
    · exact scalar_of_ascii (by decide)
    · exact stringifyItems_scalar items sound point inside
  | object members, sound => by
    intro point inside
    rcases List.mem_cons.mp inside with rfl | inside
    · exact scalar_of_ascii (by decide)
    · exact stringifyMembers_scalar members sound point inside

/-- The items of an array. -/
theorem stringifyItems_scalar : ∀ (items : List Json), SoundItems items →
    ∀ point ∈ stringifyItems items, Utf8.Scalar point
  | [], _ => by decide
  | item :: items, sound => by
    have later := stringifyItems_scalar items sound.2
    intro point inside
    rcases List.mem_append.mp inside with inside | inside
    · exact stringify_scalar item sound.1 point inside
    cases items with
    | nil => exact later point inside
    | cons next items =>
      rcases List.mem_cons.mp inside with rfl | inside
      · exact scalar_of_ascii (by decide)
      · exact later point inside

/-- The members of an object. -/
theorem stringifyMembers_scalar : ∀ (members : List (List Nat × Json)), SoundMembers members →
    ∀ point ∈ stringifyMembers members, Utf8.Scalar point
  | [], _ => by decide
  | (name, value) :: members, sound => by
    have later := stringifyMembers_scalar members sound.2.2
    intro point inside
    rcases List.mem_append.mp inside with inside | inside
    · exact quoted_scalar sound.1.bounded point inside
    rcases List.mem_cons.mp inside with rfl | inside
    · exact scalar_of_ascii (by decide)
    rcases List.mem_append.mp inside with inside | inside
    · exact stringify_scalar value sound.2.1 point inside
    cases members with
    | nil => exact later point inside
    | cons next members =>
      rcases List.mem_cons.mp inside with rfl | inside
      · exact scalar_of_ascii (by decide)
      · exact later point inside

end

/-- The text of a sound value arrives as it was sent. -/
theorem parse_received {value : Json} (sound : value.Sound) :
    parse (Utf8.decode (Utf8.encode value.stringify)) = some value := by
  rw [Utf8.decode_encode_of_scalar (stringify_scalar value sound), parse_stringify sound]

end MultiUserChat.Json
