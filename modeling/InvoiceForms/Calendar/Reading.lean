import InvoiceForms.Calendar.Timestamp

/-!
# Reading dates

A date field takes a date text, a date-time text at midnight, or a timestamp in digits. A timestamp
of milliseconds may have a remainder when it is written without a point. `readDate` reports the
fault of the date-time reading, not of the date reading, since every date text is the beginning of a
date-time text.
-/

namespace InvoiceForms.Calendar

open InvoiceForms.Number InvoiceForms.Text

/-- The date of a date-time at midnight. -/
def RawMoment.toDate (m : RawMoment) : Except DateFault Date :=
  if m.clock.isMidnight then (Date.of? m.year m.month m.day).elim (.error .yearZero) .ok
  else .error .notMidnight

/-- An integer in digits, with or without a sign. Its magnitude has 63 bits. -/
def readWhole? (cs : List Char) : Option Int :=
  let (negative, ds) := takeSign cs
  let n := ofDigitChars ds
  if ds ≠ [] ∧ ds.all isAsciiDigit ∧ n < wordBound then some (signed negative n) else none

/-- A double in digits with a point, perhaps with an exponent. Its whole part has 63 bits. -/
def readPointed? (cs : List Char) : Option Double :=
  let (negative, body) := takeSign cs
  let whole := body.takeWhile isAsciiDigit
  if '.' ∈ body ∧ ofDigitChars whole < wordBound then
    (readDecimal? body).map fun (ds, e) => .ofDecimal negative (ofDigitChars ds) e
  else none

/-- The date of a timestamp in digits. What a timestamp of milliseconds has beyond whole seconds
does not count when these give a date. -/
def dateOfWhole (n : Int) : Except DateFault Date :=
  match dateOfSeconds (secondsOfInt n) 0 with
  | .error .notMidnight => dateOfInt n
  | result => result

/-- The date that the characters of a text or number write. -/
def readDateChars (cs : List Char) : Except DateFault Date :=
  match takeDate cs, readWhole? cs with
  | .ok ((year, month, day), []), _ => (Date.of? year month day).elim (.error .yearZero) .ok
  | _, some n => dateOfWhole n
  | _, none =>
    match readMoment cs, readPointed? cs with
    | .ok m, _ => m.toDate
    | .error _, some x => dateOfDouble x
    | .error e, none => .error (.unreadable e)

/-- The date that bytes write. -/
def readDate (bytes : List UInt8) : Except DateFault Date :=
  readDateChars (bytes.map fun b => Char.ofNat b.toNat)

end InvoiceForms.Calendar
