import InvoiceForms.Calendar.Moment
import InvoiceForms.Number.Numeral

/-!
# ISO texts of dates and times

Readers for what `toIso` writes: `Date.ofIso?`, `Clock.ofIso?` and `Moment.ofIso?`. A time may also
stop behind its hours or minutes, have a fraction of any length, and end in `Z`.
-/

namespace InvoiceForms.Calendar

open InvoiceForms.Number InvoiceForms.Text

/-- A number of so many digits at the start of a text, and what follows it. -/
def takeNumber? (digits : Nat) (cs : List Char) : Option (Nat × List Char) :=
  let ds := cs.take digits
  if ds.length = digits ∧ ds.all isAsciiDigit then some (ofDigitChars ds, cs.drop digits) else none

/-- The two digits behind a colon, and what follows them; zero where no colon comes next. -/
def takePart? : List Char → Option (Nat × List Char)
  | ':' :: cs => takeNumber? 2 cs
  | cs => some (0, cs)

/-- The microseconds of a fraction of a second, as the whole of a text; none is zero. -/
def readFraction? : List Char → Option Nat
  | [] => some 0
  | c :: ds =>
    if (c = '.' ∨ c = ',') ∧ ds ≠ [] ∧ ds.all isAsciiDigit then
      some (ofDigitChars ((ds ++ List.replicate 6 '0').take 6))
    else none

/-- Hours, minutes, seconds and their fraction as a time of day without an offset. -/
def readPlainClock? (cs : List Char) : Option Clock := do
  let (hour, cs) ← takeNumber? 2 cs
  let (minute, cs) ← takePart? cs
  let (second, cs) ← takePart? cs
  let microsecond ← readFraction? cs
  if hour < 24 ∧ minute < 60 ∧ second < 60 then return ⟨hour, minute, second, microsecond, none⟩
  none

/-- The offset at the end of a time. -/
def readIsoOffset? : List Char → Option (Option Int)
  | [] => some none
  | ['Z'] => some (some 0)
  | '+' :: cs => (readPlainClock? cs).map fun c => some c.sinceMidnight
  | '-' :: cs => (readPlainClock? cs).map fun c => some (-(c.sinceMidnight : Int))
  | _ => none

/-- The date of an ISO text. -/
def Date.ofIso? (s : String) : Option Date := do
  let (year, cs) ← takeNumber? 4 s.toList
  let (month, cs) ← match cs with
    | '-' :: cs => takeNumber? 2 cs
    | _ => none
  match cs with
  | '-' :: cs =>
    let (day, rest) ← takeNumber? 2 cs
    if rest = [] then Date.of? year month day else none
  | _ => none

/-- The time of day of an ISO text. -/
def Clock.ofIso? (s : String) : Option Clock := do
  let (time, rest) := s.toList.span fun c => c ≠ '+' && c ≠ '-' && c ≠ 'Z'
  return { ← readPlainClock? time with offset := ← readIsoOffset? rest }

/-- The moment of an ISO text; a date alone is its midnight. Any one character may stand between
date and time. -/
def Moment.ofIso? (s : String) : Option Moment := do
  let date ← Date.ofIso? (String.ofList (s.toList.take 10))
  match s.toList.drop 10 with
  | [] => return ⟨date, ⟨0, 0, 0, 0, none⟩⟩
  | _ :: time => return ⟨date, ← Clock.ofIso? (String.ofList time)⟩

end InvoiceForms.Calendar
