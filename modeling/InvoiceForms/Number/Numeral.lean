import InvoiceForms.Number.Double
import InvoiceForms.Text.Blank
import InvoiceForms.Text.Digits

/-!
# Reading numbers

Integers are read in two ways. `readInteger` takes decimal digits of any script with single
underscores between them, and is used for settings, options and list indices. `readFieldInteger`
takes digits 0 to 9, also after zeros and before a fraction of zeros, and is used for record fields.
Both give up on numerals with more than 4300 digits. `readDouble?` reads decimal and exponent
notation and the words for infinity and NaN.
-/

namespace InvoiceForms.Number

open InvoiceForms.Text

/-- The bound of 64 bit integers. -/
def wordBound : Nat := 9223372036854775808

/-- Whether an integer has 64 bits. -/
def isWord (n : Int) : Bool := decide (-(wordBound : Int) ≤ n ∧ n < wordBound)

/-- Numerals with more digits than this are refused. -/
def maxIntegerDigits : Nat := 4300

/-- Why a text is no integer. -/
inductive IntegerFault
  | malformed
  | tooManyDigits (count : Nat)
deriving DecidableEq, Repr

/-- Digits with at most one underscore between two of them. -/
def underscored? (digit? : Char → Option Nat) : List Char → Option (List Nat)
  | [] => none
  | [c] => (digit? c).map fun d => [d]
  | c :: '_' :: cs =>
    match digit? c, underscored? digit? cs with
    | some d, some ds => some (d :: ds)
    | _, _ => none
  | c :: d :: cs =>
    match digit? c, underscored? digit? (d :: cs) with
    | some x, some xs => some (x :: xs)
    | _, _ => none

/-- The number that decimal digits write. -/
def ofDigits (ds : List Nat) : Nat := ds.foldl (fun n d => 10 * n + d) 0

/-- A sign in front of a numeral: whether it is negative, and the rest. -/
def takeSign : List Char → Bool × List Char
  | '-' :: cs => (true, cs)
  | '+' :: cs => (false, cs)
  | cs => (false, cs)

/-- A signed integer. -/
def signed (negative : Bool) (n : Nat) : Int := if negative then -(n : Int) else n

/-- The integer that digits write, unless there are too many of them. -/
def integerOf (negative : Bool) : Option (List Nat) → Except IntegerFault Int
  | none => .error .malformed
  | some ds =>
    if maxIntegerDigits < ds.length then .error (.tooManyDigits ds.length)
    else .ok (signed negative (ofDigits ds))

/-- An integer in digits of any script, with white space around it. -/
def readInteger (cs : List Char) : Except IntegerFault Int :=
  let (negative, body) := takeSign (trim isWhiteSpace cs)
  integerOf negative (underscored? decimalValue? body)

/-- Removes underscores; a text with one at an end or with two in a row has no such form. -/
def dropUnderscores? (cs : List Char) : Option (List Char) :=
  let doubled := (cs.zip cs.tail).any fun p => p.1 = '_' && p.2 = '_'
  if cs.head? = some '_' ∨ cs.getLast? = some '_' ∨ doubled then none
  else some (cs.filter (· ≠ '_'))

/-- The number that characters 0 to 9 write. -/
def ofDigitChars (cs : List Char) : Nat := Nat.ofDigitChars 10 cs 0

/-- Removes a point that only zeros follow, at least one. -/
def dropZeroFraction (cs : List Char) : List Char :=
  let zeros := cs.reverse.takeWhile (· = '0')
  match cs.reverse.dropWhile (· = '0') with
  | '.' :: rest => if zeros.isEmpty then cs else rest.reverse
  | _ => cs

/-- Whether the significant part of a numeral may start with a character. -/
def startsNumeral (c : Char) : Bool := c = '-' || isAsciiDigit c

/-- What follows the zeros and underscores behind a character `last`. At a point or at the end the
last one of them is kept. -/
def skipZeros? (last : Char) : List Char → Option (List Char)
  | [] => some [last]
  | c :: cs =>
    if c = '0' ∨ c = '_' then skipZeros? c cs
    else if startsNumeral c then some (c :: cs)
    else if c = '.' then some (last :: c :: cs)
    else none

/-- Removes the zeros in front of a numeral, and underscores behind them. -/
def dropLeadingZeros? : List Char → Option (List Char)
  | [] => none
  | c :: cs =>
    if c = '0' then skipZeros? c cs else if startsNumeral c then some (c :: cs) else none

/-- The plain form of an integer in a record field: no white space, no plus sign, no zeros in front,
no fraction of zeros, and no underscores where they may stand. A minus sign may stand behind leading
zeros as well. -/
def plainInteger? (cs : List Char) : Option (List Char) :=
  let (negative, body) := takeSign (trim isWhiteSpace cs)
  (dropLeadingZeros? body).map fun ds =>
    let ds := dropZeroFraction ds
    let ds := (dropUnderscores? ds).getD ds
    if negative then '-' :: ds else ds

/-- Whether characters are digits without a zero in front, unless that is the only one. -/
def arePlainDigits : List Char → Bool
  | [] => false
  | '0' :: cs => cs.isEmpty
  | cs => cs.all isAsciiDigit

/-- The integer that a plain form writes. -/
def readPlainInteger (cs : List Char) : Except IntegerFault Int :=
  let negative := cs.head? = some '-'
  let ds := if negative then cs.drop 1 else cs
  if arePlainDigits ds then .ok (signed negative (ofDigitChars ds)) else .error .malformed

/-- An integer in a record field. A text whose plain form is longer than `maxIntegerDigits` bytes is
not looked at. -/
def readFieldInteger (cs : List Char) : Except IntegerFault Int :=
  let plain := plainInteger? cs
  let size := (String.ofList (plain.getD cs)).utf8ByteSize
  if maxIntegerDigits < size then .error (.tooManyDigits size)
  else (plain.map readPlainInteger).getD (.error .malformed)

/-- The exponent part of a numeral, as the whole of a text; none is zero. -/
def readExponent? : List Char → Option Int
  | [] => some 0
  | c :: cs =>
    if c = 'e' ∨ c = 'E' then
      let (negative, ds) := takeSign cs
      if ds ≠ [] ∧ ds.all isAsciiDigit then some (signed negative (ofDigitChars ds)) else none
    else none

/-- The fraction of a numeral after its point, and what follows. -/
def takeFraction : List Char → List Char × List Char
  | '.' :: cs => cs.span isAsciiDigit
  | cs => ([], cs)

/-- An unsigned decimal numeral as digits and an exponent. -/
def readDecimal? (cs : List Char) : Option (List Char × Int) :=
  let (whole, rest) := cs.span isAsciiDigit
  let (fraction, rest) := takeFraction rest
  if whole = [] ∧ fraction = [] then none
  else (readExponent? rest).map fun e => (whole ++ fraction, e - fraction.length)

/-- A double in decimal or exponent notation, or a word for infinity or NaN. -/
def readPlainDouble? (cs : List Char) : Option Double :=
  let (negative, body) := takeSign cs
  let word := String.ofList (body.map Char.toLower)
  if word = "inf" ∨ word = "infinity" then some (.infinity negative)
  else if word = "nan" then some .nan
  else (readDecimal? body).map fun (ds, e) => .ofDecimal negative (ofDigitChars ds) e

/-- A double, with white space around it or with single underscores inside. -/
def readDouble? (cs : List Char) : Option Double :=
  (readPlainDouble? (trim isWhiteSpace cs)).orElse fun _ =>
    (dropUnderscores? cs).bind readPlainDouble?

end InvoiceForms.Number
