import InvoiceForms.Json.Basic
import InvoiceForms.Number.Numeral
import InvoiceForms.Text.Units

/-!
# Reading JSON

`Json.parse` reads a whole text. Besides standard JSON it takes the words `NaN`, `Infinity` and
`-Infinity`; of a repeated key the first place and the last value count. A fault is reported with
the place where the reader stopped. Inside the reader a place is the number of characters left, so
the functions need not know what they have read already.
-/

namespace InvoiceForms.Json

open InvoiceForms.Number InvoiceForms.Text

/-- What is wrong at a place of a text. -/
inductive Defect
  | valueExpected
  | nameExpected
  | colonExpected
  | commaExpected
  | openString
  | controlCharacter
  | badEscape
  | badUnicodeEscape
  | extraData
  | byteOrderMark
deriving DecidableEq, Repr

/-- The wording of a defect. -/
def Defect.message : Defect → String
  | valueExpected => "Expecting value"
  | nameExpected => "Expecting property name enclosed in double quotes"
  | colonExpected => "Expecting ':' delimiter"
  | commaExpected => "Expecting ',' delimiter"
  | openString => "Unterminated string starting at"
  | controlCharacter => "Invalid control character at"
  | badEscape => "Invalid \\escape"
  | badUnicodeEscape => "Invalid \\uXXXX escape"
  | extraData => "Extra data"
  | byteOrderMark => "Unexpected UTF-8 BOM (decode using utf-8-sig)"

/-- Why reading stopped, with the number of characters left. -/
inductive Stop
  | at (defect : Defect) (left : Nat)
  | tooManyDigits (count : Nat)
deriving DecidableEq, Repr

/-- Why a text is no JSON: a defect at a place, or an integer with too many digits. -/
inductive ParseFault
  | malformed (defect : Defect) (line column offset : Nat)
  | tooManyDigits (count : Nat)
deriving DecidableEq, Repr

/-- Stops at a place with a defect. -/
def stop {α : Type} (defect : Defect) (rest : List Char) : Except Stop α :=
  .error (.at defect rest.length)

/-- The blanks that may stand between the parts of a JSON text. -/
def isGap (c : Char) : Bool := c = ' ' || c = '\n' || c = '\r' || c = '\t'

/-- The text without the blanks at its start. -/
def skipGap (cs : List Char) : List Char := cs.dropWhile isGap

/-- The value of a hexadecimal digit. -/
def hexValue? (c : Char) : Option Nat :=
  if '0' ≤ c ∧ c ≤ '9' then some (c.toNat - 48)
  else if 'a' ≤ c ∧ c ≤ 'f' then some (c.toNat - 87)
  else if 'A' ≤ c ∧ c ≤ 'F' then some (c.toNat - 55)
  else none

/-- The number that four hexadecimal digits write. -/
def hexUnit? (a b c d : Char) : Option Nat :=
  match hexValue? a, hexValue? b, hexValue? c, hexValue? d with
  | some a, some b, some c, some d => some (((a * 16 + b) * 16 + c) * 16 + d)
  | _, _, _, _ => none

/-- The character that a short escape stands for. -/
def shortEscape? : Char → Option Char
  | '"' => some '"'
  | '\\' => some '\\'
  | '/' => some '/'
  | 'b' => some (Char.ofNat 8)
  | 'f' => some (Char.ofNat 12)
  | 'n' => some '\n'
  | 'r' => some '\r'
  | 't' => some '\t'
  | _ => none

/-- The pieces of a string after its opening quote, and what follows the closing one. `opening` is
the number of characters left at the opening quote. -/
def readPieces (opening : Nat) : List Char → Except Stop (List Piece × List Char)
  | [] => .error (.at .openString opening)
  | '"' :: rest => .ok ([], rest)
  | '\\' :: 'u' :: a :: b :: c :: d :: e :: rest =>
    match hexUnit? a b c d with
    | some n => do
      let (pieces, after) ← readPieces opening (e :: rest)
      return (.unit n :: pieces, after)
    | none => stop .badUnicodeEscape ('u' :: a :: b :: c :: d :: e :: rest)
  | '\\' :: 'u' :: rest => stop .badUnicodeEscape ('u' :: rest)
  | '\\' :: c :: rest =>
    match shortEscape? c with
    | some x => do
      let (pieces, after) ← readPieces opening rest
      return (.char x :: pieces, after)
    | none => stop .badEscape ('\\' :: c :: rest)
  | ['\\'] => .error (.at .openString opening)
  | c :: rest =>
    if c.toNat < 32 then stop .controlCharacter (c :: rest)
    else do
      let (pieces, after) ← readPieces opening rest
      return (.char c :: pieces, after)

/-- A string after its opening quote. -/
def readText (rest : List Char) : Except Stop (String × List Char) := do
  let (pieces, after) ← readPieces (rest.length + 1) rest
  return (String.ofList (joinPieces none pieces), after)

/-- The digits of the whole part of a number: a zero, or digits that start with none. -/
def takeWhole : List Char → List Char × List Char
  | '0' :: rest => (['0'], rest)
  | cs => cs.span isAsciiDigit

/-- A fraction, if a point and a digit follow. -/
def takePlaces : List Char → List Char × List Char
  | '.' :: c :: rest =>
    if isAsciiDigit c then (c :: rest).span isAsciiDigit else ([], '.' :: c :: rest)
  | cs => ([], cs)

/-- An exponent, if a letter, perhaps a sign, and a digit follow. -/
def takePower (cs : List Char) : Option Int × List Char :=
  match cs with
  | c :: rest =>
    if c = 'e' ∨ c = 'E' then
      let (negative, body) := takeSign rest
      let (ds, after) := body.span isAsciiDigit
      if ds.isEmpty then (none, cs) else (some (signed negative (ofDigitChars ds)), after)
    else (none, cs)
  | [] => (none, [])

/-- The unsigned number at the start of a text; `start` is where its sign stood. -/
def readUnsigned (negative : Bool) (start cs : List Char) : Except Stop (Json × List Char) :=
  let (whole, rest) := takeWhole cs
  let (places, rest) := takePlaces rest
  let (power, rest) := takePower rest
  if whole.isEmpty then stop .valueExpected start
  else if places.isEmpty ∧ power = none then
    if maxIntegerDigits < whole.length then .error (.tooManyDigits whole.length)
    else .ok (int (signed negative (ofDigitChars whole)), rest)
  else
    .ok (float (.ofDecimal negative (ofDigitChars (whole ++ places))
      (power.getD 0 - places.length)), rest)

/-- The rest of a text after a word that it starts with. -/
def afterWord? (word cs : List Char) : Option (List Char) :=
  if word.isPrefixOf cs then some (cs.drop word.length) else none

/-- The values that are written as words. -/
def words : List (String × Json) := [
  ("null", null), ("true", bool true), ("false", bool false), ("NaN", float .nan),
  ("Infinity", float (.infinity false)), ("-Infinity", float (.infinity true))]

/-- A word or a number. -/
def readAtom (cs : List Char) : Except Stop (Json × List Char) :=
  match words.findSome? fun w => (afterWord? w.1.toList cs).map fun rest => (w.2, rest) with
  | some found => .ok found
  | none =>
    match cs with
    | '-' :: rest => readUnsigned true cs rest
    | _ => readUnsigned false cs cs

mutual

/-- A value at the start of a text. Each call of the three functions takes one of the fuel. -/
def readValue : Nat → List Char → Except Stop (Json × List Char)
  | 0, cs => stop .valueExpected cs
  | fuel + 1, cs =>
    match cs with
    | '"' :: rest => do
      let (s, after) ← readText rest
      return (text s, after)
    | '[' :: rest =>
      match skipGap rest with
      | ']' :: after => .ok (list [], after)
      | body => do
        let (items, after) ← readItems fuel body
        return (list items, after)
    | '\x7b' :: rest =>
      match skipGap rest with
      | '\x7d' :: after => .ok (object [], after)
      | body => do
        let (members, after) ← readMembers fuel body
        return (object (Entries.ofList members), after)
    | _ => readAtom cs

/-- Items up to the closing bracket. -/
def readItems : Nat → List Char → Except Stop (List Json × List Char)
  | 0, cs => stop .valueExpected cs
  | fuel + 1, cs => do
    let (x, rest) ← readValue fuel cs
    match skipGap rest with
    | ']' :: after => return ([x], after)
    | ',' :: more =>
      let (xs, after) ← readItems fuel (skipGap more)
      return (x :: xs, after)
    | other => stop .commaExpected other

/-- Members up to the closing brace. -/
def readMembers : Nat → List Char → Except Stop (List (String × Json) × List Char)
  | 0, cs => stop .valueExpected cs
  | fuel + 1, cs =>
    match cs with
    | '"' :: rest => do
      let (key, rest) ← readText rest
      match skipGap rest with
      | ':' :: rest =>
        let (x, rest) ← readValue fuel (skipGap rest)
        match skipGap rest with
        | '\x7d' :: after => return ([(key, x)], after)
        | ',' :: more =>
          let (xs, after) ← readMembers fuel (skipGap more)
          return ((key, x) :: xs, after)
        | other => stop .commaExpected other
      | other => stop .colonExpected other
    | other => stop .nameExpected other

end

/-- The value that is the whole of a text. -/
def readWhole (cs : List Char) : Except Stop Json := do
  if cs.head?.any (·.toNat = 0xFEFF) then stop .byteOrderMark cs
  let (value, rest) ← readValue (2 * cs.length + 2) (skipGap cs)
  match skipGap rest with
  | [] => return value
  | other => stop .extraData other

/-- The place in a text where a number of characters is left. -/
def locate (cs : List Char) : Stop → ParseFault
  | .at defect left =>
    let before := cs.take (cs.length - left)
    .malformed defect (before.count '\n' + 1) ((before.reverse.takeWhile (· ≠ '\n')).length + 1)
      before.length
  | .tooManyDigits count => .tooManyDigits count

/-- Reads a JSON text. -/
def parse (source : String) : Except ParseFault Json :=
  (readWhole source.toList).mapError (locate source.toList)

/-- The number of digits of an integer that is too long to read. -/
def tooManyDigitsMessage (count : Nat) : String :=
  "Exceeds the limit (4300 digits) for integer string conversion: value has " ++ toString count ++
    " digits; use sys.set_int_max_str_digits() to increase the limit"

/-- What is wrong with an integer that is too long to write. -/
def unwritableIntegerMessage : String :=
  "Exceeds the limit (4300 digits) for integer string conversion; " ++
    "use sys.set_int_max_str_digits() to increase the limit"

/-- A fault in words, with its place. -/
def ParseFault.message : ParseFault → String
  | malformed defect line column offset =>
    defect.message ++ ": line " ++ toString line ++ " column " ++ toString column ++ " (char " ++
      toString offset ++ ")"
  | tooManyDigits count => tooManyDigitsMessage count

end InvoiceForms.Json
