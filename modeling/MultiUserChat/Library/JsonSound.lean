import MultiUserChat.Library.JsonText
/-!
# What is accepted is well formed

A value that was read from a text is sound: its strings are strings, since they are read unit by
unit, and its numbers are written as numbers are. So a text that is accepted denotes a value that can
be written and read again.
-/

namespace MultiUserChat

namespace Utf16

/-- The first code point is the first unit, unless two units make it. -/
theorem points_head {unit : Nat} {units : List Nat} : ∀ point ∈ (points (unit :: units)).head?,
    point = unit ∨ 0x10000 ≤ point := by
  intro point first
  cases units with
  | nil => exact .inl (Option.some.inj first).symm
  | cons next units =>
    rw [points] at first
    split at first
    · have same := (Option.some.inj first).symm
      exact .inr (by omega)
    · exact .inl (Option.some.inj first).symm

/-- The reading of units is a string. -/
theorem points_paired {units : List Nat} (bounded : ∀ unit ∈ units, unit < 0x10000) :
    Paired (points units) := by
  induction units using points.induct with
  | case1 high low rest surrogates ih =>
    have later := ih fun unit inside =>
      bounded unit (List.mem_cons_of_mem _ (List.mem_cons_of_mem _ inside))
    obtain ⟨highLow, highUp⟩ := surrogates.1
    obtain ⟨lowLow, lowUp⟩ := surrogates.2
    rw [points, if_pos surrogates]
    constructor
    · apply List.isChain_cons.mpr
      refine ⟨fun next _ => ?_, later.apart⟩
      rintro ⟨⟨_, above⟩, _⟩
      omega
    · exact List.forall_mem_cons.mpr ⟨by omega, later.bounded⟩
  | case2 high low rest other ih =>
    have later := ih fun unit inside => bounded unit (List.mem_cons_of_mem _ inside)
    have here := bounded high List.mem_cons_self
    rw [points, if_neg other]
    constructor
    · apply List.isChain_cons.mpr
      refine ⟨fun next first => ?_, later.apart⟩
      rintro ⟨high_, low_⟩
      rcases points_head next first with same | above
      · exact other ⟨high_, same ▸ low_⟩
      · have under := low_.2
        omega
    · exact List.forall_mem_cons.mpr ⟨by omega, later.bounded⟩
  | case3 unit =>
    have here := bounded unit List.mem_cons_self
    exact ⟨.singleton unit, List.forall_mem_singleton.mpr (by omega)⟩
  | case4 => exact ⟨.nil, List.forall_mem_nil _⟩

end Utf16

namespace Json

/-! ## Strings -/

/-- Every element is a code point. -/
def Bounded (text : List Nat) : Prop := ∀ point ∈ text, point < 0x110000

/-- What follows in a text of code points. -/
theorem Bounded.suffix {text rest : List Nat} (bounded : Bounded text) (follows : rest <:+ text) :
    Bounded rest := fun point inside => bounded point (follows.subset inside)

/-- A digit is below sixteen. -/
theorem hexDigitValue_lt {point value : Nat} (read : hexDigitValue point = some value) :
    value < 16 := by
  unfold hexDigitValue at read
  split at read
  · cases read
    omega
  split at read
  · cases read
    omega
  split at read
  · cases read
    omega
  · contradiction

/-- Four digits denote a unit. -/
theorem hexUnit_lt {first second third fourth unit : Nat}
    (read : hexUnit first second third fourth = some unit) : unit < 0x10000 := by
  simp only [hexUnit, Option.bind_eq_bind, Option.bind_eq_some_iff] at read
  obtain ⟨a, first_, b, second_, c, third_, d, fourth_, same⟩ := read
  have a_ := hexDigitValue_lt first_
  have b_ := hexDigitValue_lt second_
  have c_ := hexDigitValue_lt third_
  have d_ := hexDigitValue_lt fourth_
  have sum := (Option.some.inj same).symm
  omega

/-- An escaped character is a unit. -/
theorem unescapeLetter_lt {letter character : Nat} (read : unescapeLetter letter = some character) :
    character < 0x10000 := by
  unfold unescapeLetter at read
  repeat' split at read
  all_goals cases read
  · decide
  · decide
  · decide
  · decide
  · decide
  · rename_i plain
    unfold quote backslash at plain
    omega

/-- The units of a code point. -/
theorem units_lt {point : Nat} (bound : point < 0x110000) : ∀ unit ∈ Utf16.units point, unit < 0x10000 := by
  intro unit inside
  unfold Utf16.units at inside
  split at inside
  · rw [List.mem_singleton.mp inside]
    assumption
  · rcases List.mem_cons.mp inside with rfl | inside
    · omega
    · rw [List.mem_singleton.mp inside]
      omega

/-- A string is read unit by unit. -/
theorem readString_sound {text units rest : List Nat} (bounded : Bounded text)
    (read : readString text = some (units, rest)) :
    (∀ unit ∈ units, unit < 0x10000) ∧ rest <:+ text := by
  induction text using readString.induct generalizing units with
  | case1 => contradiction
  | case2 text =>
    rw [readString.eq_def] at read
    dsimp only at read
    rw [if_pos rfl] at read
    cases read
    exact ⟨List.forall_mem_nil _, List.suffix_cons quote _⟩
  | case3 => contradiction
  | case4 first second third fourth text start ih =>
    -- An escape by number.
    rw [readString.eq_def] at read
    simp only [if_neg start, ↓reduceIte, Option.bind_eq_bind, Option.bind_eq_some_iff] at read
    obtain ⟨unit, digits, later, found, same⟩ := read
    cases same
    have behind : text <:+ backslash :: 117 :: first :: second :: third :: fourth :: text :=
      ⟨[backslash, 117, first, second, third, fourth], rfl⟩
    obtain ⟨units_, follows⟩ := ih (bounded.suffix behind) found
    exact ⟨List.forall_mem_cons.mpr ⟨hexUnit_lt digits, units_⟩, follows.trans behind⟩
  | case5 text short start =>
    rw [readString.eq_def] at read
    simp only [if_neg start, ↓reduceIte] at read
    contradiction
  | case6 letter text other start ih =>
    -- An escape by letter.
    rw [readString.eq_def] at read
    simp only [if_neg start, ↓reduceIte, if_neg other, Option.bind_eq_bind,
      Option.bind_eq_some_iff] at read
    obtain ⟨character, escaped, later, found, same⟩ := read
    cases same
    have behind : text <:+ backslash :: letter :: text := ⟨[backslash, letter], rfl⟩
    obtain ⟨units_, follows⟩ := ih (bounded.suffix behind) found
    exact ⟨List.forall_mem_cons.mpr ⟨unescapeLetter_lt escaped, units_⟩, follows.trans behind⟩
  | case7 letter text other other' control =>
    rw [readString.eq_def] at read
    simp only [if_neg other, if_neg other', if_pos control] at read
    contradiction
  | case8 letter text other other' plain ih =>
    rw [readString.eq_def] at read
    simp only [if_neg other, if_neg other', if_neg plain, Option.bind_eq_bind,
      Option.bind_eq_some_iff] at read
    obtain ⟨later, found, same⟩ := read
    cases same
    have behind := List.suffix_cons letter text
    obtain ⟨units_, follows⟩ := ih (bounded.suffix behind) found
    refine ⟨fun unit inside => ?_, follows.trans behind⟩
    rcases List.mem_append.mp inside with inside | inside
    · exact units_lt (bounded letter List.mem_cons_self) unit inside
    · exact units_ unit inside

/-! ## Numbers -/

/-- The digits that are read are digits, with none behind them. -/
theorem readDigits_sound {text digits later : List Nat} (read : readDigits text = some (digits, later)) :
    digits ≠ [] ∧ (∀ point ∈ digits, isDigit point = true) ∧ text = digits ++ later ∧
      ∀ point ∈ later.head?, isDigit point = false := by
  unfold readDigits at read
  split at read
  · contradiction
  rename_i some_
  cases read
  refine ⟨some_, fun point inside => List.mem_takeWhile_imp inside,
    (List.takeWhile_append_dropWhile ..).symm, fun point first => ?_⟩
  have stop := List.head?_dropWhile_not isDigit text
  rw [Option.mem_def.mp first] at stop
  exact stop

/-- Digits in front of something else are read. -/
theorem readDigits_of {digits later : List Nat} (some_ : digits ≠ [])
    (all : ∀ point ∈ digits, isDigit point = true)
    (stop : ∀ point ∈ later.head?, isDigit point = false) :
    readDigits (digits ++ later) = some (digits, later) := by
  obtain ⟨taken, dropped⟩ := takeWhile_append_stop digits stop
  rw [readDigits, taken, dropped, List.takeWhile_eq_self_iff.mpr all, List.dropWhile_eq_nil_iff.mpr all,
    if_neg some_, List.nil_append]

/-- The digits in front of the point are read again. -/
theorem readWhole_sound {text whole later : List Nat} (read : readWhole text = some (whole, later)) :
    text = whole ++ later ∧ whole ≠ [] ∧ (∀ point ∈ whole.head?, isDigit point = true) ∧
      ∀ rest : List Nat, (∀ point ∈ rest.head?, isDigit point = false) →
        readWhole (whole ++ rest) = some (whole, rest) := by
  unfold readWhole at read
  split at read
  · rename_i zero
    cases text with
    | nil => contradiction
    | cons point text =>
      cases read
      have same : point = 0x30 := Option.some.inj zero
      subst same
      exact ⟨rfl, by simp, by simp [isDigit], fun rest _ => rfl⟩
  · rename_i other
    obtain ⟨some_, all, rfl, _⟩ := readDigits_sound read
    have first : whole.head? ≠ some 0x30 := by
      rwa [List.head?_append_of_ne_nil _ some_] at other
    refine ⟨rfl, some_, fun point head => all point (List.mem_of_mem_head? head), fun rest stop => ?_⟩
    rw [readWhole, List.head?_append_of_ne_nil _ some_, if_neg first]
    exact readDigits_of some_ all stop

/-- The fraction is read again. -/
theorem readFraction_sound {text fraction later : List Nat}
    (read : readFraction text = some (fraction, later)) :
    text = fraction ++ later ∧ (∀ point ∈ fraction.head?, point = 0x2e) ∧
      ∀ rest : List Nat, (∀ point ∈ rest.head?, isDigit point = false ∧ point ≠ 0x2e) →
        readFraction (fraction ++ rest) = some (fraction, rest) := by
  unfold readFraction at read
  split at read
  · rename_i dot
    obtain ⟨digits, found, same⟩ := Option.map_eq_some_iff.mp read
    cases same
    cases text with
    | nil => contradiction
    | cons point text =>
      have same : point = 0x2e := Option.some.inj dot
      subst same
      obtain ⟨some_, all, parts, _⟩ := readDigits_sound found
      refine ⟨by rw [List.tail_cons] at parts; rw [parts]; rfl, by simp, fun rest stop => ?_⟩
      have again := readDigits_of some_ all fun point head => (stop point head).1
      rw [readFraction, List.cons_append, if_pos List.head?_cons, List.tail_cons, again]
      rfl
  · cases read
    refine ⟨rfl, by simp, fun rest stop => ?_⟩
    have other : rest.head? ≠ some 0x2e := fun dot => (stop 0x2e dot).2 rfl
    rw [readFraction, List.nil_append, if_neg other]

/-- A sign in front of digits is read again. -/
theorem readSign_sound (text : List Nat) {rest : List Nat}
    (digits : ∀ point ∈ rest.head?, isDigit point = true) :
    text = (readSign text).1 ++ (readSign text).2 ∧
      readSign ((readSign text).1 ++ rest) = ((readSign text).1, rest) := by
  have unsigned : readSign rest = ([], rest) := by
    cases rest with
    | nil => rfl
    | cons point rest =>
      have digit := of_decide_eq_true (digits point rfl)
      exact if_neg (by omega)
  cases text with
  | nil => exact ⟨rfl, unsigned⟩
  | cons sign text =>
    by_cases signs : sign = 0x2b ∨ sign = 0x2d
    · rw [readSign, if_pos signs]
      exact ⟨rfl, if_pos signs⟩
    · rw [readSign, if_neg signs]
      exact ⟨rfl, unsigned⟩

/-- A minus sign in front of digits is read again. -/
theorem readMinus_sound (text : List Nat) {rest : List Nat}
    (digits : ∀ point ∈ rest.head?, isDigit point = true) :
    text = (readMinus text).1 ++ (readMinus text).2 ∧
      readMinus ((readMinus text).1 ++ rest) = ((readMinus text).1, rest) := by
  have unsigned : readMinus rest = ([], rest) := by
    cases rest with
    | nil => rfl
    | cons point rest =>
      have digit := of_decide_eq_true (digits point rfl)
      exact if_neg (by omega)
  cases text with
  | nil => exact ⟨rfl, unsigned⟩
  | cons sign text =>
    by_cases signs : sign = 0x2d
    · rw [readMinus, if_pos signs]
      exact ⟨rfl, if_pos signs⟩
    · rw [readMinus, if_neg signs]
      exact ⟨rfl, unsigned⟩

/-- The exponent is read again. -/
theorem readExponent_sound {text exponent later : List Nat}
    (read : readExponent text = some (exponent, later)) :
    text = exponent ++ later ∧ (∀ point ∈ exponent.head?, point = 0x65 ∨ point = 0x45) ∧
      readExponent exponent = some (exponent, []) := by
  cases text with
  | nil =>
    cases read
    exact ⟨rfl, by simp, rfl⟩
  | cons mark text =>
    rw [readExponent] at read
    split at read
    · rename_i marks
      obtain ⟨digits, found, same⟩ := Option.map_eq_some_iff.mp read
      cases same
      obtain ⟨some_, all, parts, _⟩ := readDigits_sound found
      have again : readDigits digits.1 = some (digits.1, []) := by
        have alone := @readDigits_of digits.1 [] some_ all (by simp)
        rwa [List.append_nil] at alone
      have sign := @readSign_sound text digits.1 fun point head =>
        all point (List.mem_of_mem_head? head)
      refine ⟨?_, by simpa using marks, ?_⟩
      · rw [List.cons_append, List.append_assoc, ← parts, ← sign.1]
      · rw [readExponent, if_pos marks, sign.2, again]
        rfl
    · cases read
      exact ⟨rfl, by simp, rfl⟩

/-- A number is read again. -/
theorem readNumber_sound {text written later : List Nat}
    (read : readNumber text = some (written, later)) :
    WrittenNumber written ∧ text = written ++ later := by
  unfold readNumber at read
  simp only [Option.bind_eq_bind, Option.bind_eq_some_iff] at read
  obtain ⟨whole, readWhole_, fraction, readFraction_, exponent, readExponent_, same⟩ := read
  cases same
  obtain ⟨whole_, someWhole, digit, wholeAgain⟩ := readWhole_sound readWhole_
  obtain ⟨fraction_, dot, fractionAgain⟩ := readFraction_sound readFraction_
  obtain ⟨exponent_, mark, exponentAgain⟩ := readExponent_sound readExponent_
  -- What stands behind the whole part is no digit, and behind the fraction no point either.
  have behindFraction : ∀ point ∈ exponent.1.head?, isDigit point = false ∧ point ≠ 0x2e := by
    intro point head
    rcases mark point head with rfl | rfl
    · decide
    · decide
  have behindWhole : ∀ point ∈ (fraction.1 ++ exponent.1).head?, isDigit point = false := by
    intro point head
    cases shape : fraction.1 with
    | nil =>
      rw [shape, List.nil_append] at head
      exact (behindFraction point head).1
    | cons first rest =>
      rw [shape] at head dot
      have same : first = point := Option.some.inj head
      rw [← same, dot first rfl]
      decide
  have first : ∀ point ∈ (whole.1 ++ (fraction.1 ++ exponent.1)).head?, isDigit point = true := by
    rw [List.head?_append_of_ne_nil _ someWhole]
    exact digit
  obtain ⟨minus_, minusAgain⟩ := readMinus_sound text first
  constructor
  · unfold WrittenNumber readNumber
    simp only [List.append_assoc, minusAgain, wholeAgain _ behindWhole,
      fractionAgain _ behindFraction, exponentAgain, Option.bind_eq_bind, Option.bind_some]
    rfl
  · calc text = (readMinus text).1 ++ (readMinus text).2 := minus_
      _ = _ := by rw [whole_, fraction_, exponent_]; simp

/-! ## Values -/

/-- White space is skipped. -/
theorem skipped (text : List Nat) : text.dropWhile blank <:+ text := List.dropWhile_suffix _

/-- A word or a number. -/
theorem readPlain_sound {text rest : List Nat} {value : Json}
    (read : readPlain text = some (value, rest)) : value.Sound ∧ rest <:+ text := by
  unfold readPlain at read
  split at read
  · cases read
    exact ⟨trivial, List.drop_suffix 4 text⟩
  split at read
  · cases read
    exact ⟨trivial, List.drop_suffix 4 text⟩
  split at read
  · cases read
    exact ⟨trivial, List.drop_suffix 5 text⟩
  · obtain ⟨number, found, same⟩ := Option.map_eq_some_iff.mp read
    cases same
    obtain ⟨written, parts⟩ := readNumber_sound found
    exact ⟨written, number.1, parts.symm⟩

/-- A name. -/
theorem readName_sound {text name rest : List Nat} (bounded : Bounded text)
    (read : readName text = some (name, rest)) : Utf16.Paired name ∧ rest <:+ text := by
  have blanks := skipped text
  unfold readName at read
  split at read
  · rename_i point text' shape
    rw [shape] at blanks
    split at read
    · simp only [Option.bind_eq_bind, Option.bind_eq_some_iff] at read
      obtain ⟨units, found, read⟩ := read
      have behind := (List.suffix_cons point text').trans blanks
      obtain ⟨bound, follows⟩ := readString_sound (bounded.suffix behind) found
      have blanks' := skipped units.2
      split at read
      · rename_i colon rest' shape'
        rw [shape'] at blanks'
        split at read
        · cases read
          exact ⟨Utf16.points_paired bound, (List.suffix_cons colon rest).trans
            (blanks'.trans (follows.trans behind))⟩
        · contradiction
      · contradiction
    · contradiction
  · contradiction

mutual

/-- A value that is read is sound. -/
theorem readValue_sound : ∀ (turns : Nat) {text rest : List Nat} {value : Json}, Bounded text →
    readValue turns text = some (value, rest) → value.Sound ∧ rest <:+ text
  | 0, _, _, _, _, read => by contradiction
  | turns + 1, text, rest, value, bounded, read => by
    have blanks := skipped text
    rw [readValue] at read
    split at read
    · contradiction
    rename_i point text' shape
    rw [shape] at blanks
    have behind := (List.suffix_cons point text').trans blanks
    have inner := (skipped text').trans behind
    split at read
    · -- A string.
      obtain ⟨units, found, same⟩ := Option.map_eq_some_iff.mp read
      cases same
      obtain ⟨bound, follows⟩ := readString_sound (bounded.suffix behind) found
      exact ⟨Utf16.points_paired bound, follows.trans behind⟩
    split at read
    · -- An array.
      split at read
      · cases read
        exact ⟨trivial, (List.tail_suffix _).trans inner⟩
      · obtain ⟨items, found, same⟩ := Option.map_eq_some_iff.mp read
        cases same
        obtain ⟨sound, follows⟩ := readItems_sound turns (bounded.suffix behind) found
        exact ⟨sound, follows.trans behind⟩
    split at read
    · -- An object.
      split at read
      · cases read
        exact ⟨trivial, (List.tail_suffix _).trans inner⟩
      · obtain ⟨members, found, same⟩ := Option.map_eq_some_iff.mp read
        cases same
        obtain ⟨sound, follows⟩ := readMembers_sound turns (bounded.suffix behind) found
        exact ⟨sound, follows.trans behind⟩
    · obtain ⟨sound, follows⟩ := readPlain_sound read
      exact ⟨sound, follows.trans blanks⟩

/-- Items that are read are sound. -/
theorem readItems_sound : ∀ (turns : Nat) {text rest : List Nat} {items : List Json}, Bounded text →
    readItems turns text = some (items, rest) → SoundItems items ∧ rest <:+ text
  | 0, _, _, _, _, read => by contradiction
  | turns + 1, text, rest, items, bounded, read => by
    rw [readItems] at read
    simp only [Option.bind_eq_bind, Option.bind_eq_some_iff] at read
    obtain ⟨item, found, read⟩ := read
    obtain ⟨sound, follows⟩ := readValue_sound turns bounded found
    have blanks := (skipped item.2).trans follows
    split at read
    · contradiction
    rename_i point text' shape
    rw [shape] at blanks
    have behind := (List.suffix_cons point text').trans blanks
    split at read
    · cases read
      exact ⟨⟨sound, trivial⟩, behind⟩
    split at read
    · obtain ⟨later, found, same⟩ := Option.bind_eq_some_iff.mp read
      cases same
      obtain ⟨sound', follows'⟩ := readItems_sound turns (bounded.suffix behind) found
      exact ⟨⟨sound, sound'⟩, follows'.trans behind⟩
    · contradiction

/-- Members that are read are sound. -/
theorem readMembers_sound : ∀ (turns : Nat) {text rest : List Nat} {members : List (List Nat × Json)},
    Bounded text → readMembers turns text = some (members, rest) →
      SoundMembers members ∧ rest <:+ text
  | 0, _, _, _, _, read => by contradiction
  | turns + 1, text, rest, members, bounded, read => by
    rw [readMembers] at read
    simp only [Option.bind_eq_bind, Option.bind_eq_some_iff] at read
    obtain ⟨name, named, value, found, read⟩ := read
    obtain ⟨paired, first⟩ := readName_sound bounded named
    obtain ⟨sound, follows⟩ := readValue_sound turns (bounded.suffix first) found
    have blanks := (skipped value.2).trans (follows.trans first)
    split at read
    · contradiction
    rename_i point text' shape
    rw [shape] at blanks
    have behind := (List.suffix_cons point text').trans blanks
    split at read
    · cases read
      exact ⟨⟨paired, sound, trivial⟩, behind⟩
    split at read
    · obtain ⟨later, found, same⟩ := Option.bind_eq_some_iff.mp read
      cases same
      obtain ⟨sound', follows'⟩ := readMembers_sound turns (bounded.suffix behind) found
      exact ⟨⟨paired, sound, sound'⟩, follows'.trans behind⟩
    · contradiction

end

/-- Each of some sound items is sound. -/
theorem soundItems_mem {items : List Json} {item : Json} (sound : SoundItems items)
    (inside : item ∈ items) : item.Sound := by
  induction items with
  | nil => contradiction
  | cons first items ih =>
    rcases List.mem_cons.mp inside with rfl | inside
    · exact sound.1
    · exact ih sound.2 inside

/-- What is accepted is sound. -/
theorem parse_sound {text : List Nat} {value : Json} (bounded : Bounded text)
    (accepted : parse text = some value) : value.Sound := by
  simp only [parse, Option.bind_eq_bind, Option.bind_eq_some_iff] at accepted
  obtain ⟨read, found, accepted⟩ := accepted
  split at accepted
  · cases accepted
    exact (readValue_sound _ bounded found).1
  · contradiction

end Json

end MultiUserChat
