import InvoiceForms.Calendar.Moment
import InvoiceForms.Number.Numeral

/-!
# Date-time texts

A date-time text is a date, a separator and a time of day that may have seconds, a fraction and an
offset. The readers work on the bytes of a text, given as characters, and each part has a fault of
its own: a part that ends too soon has the same fault as one with a wrong character. Only a text
that is shorter than any date or any time is too short.
-/

namespace InvoiceForms.Calendar

open InvoiceForms.Number InvoiceForms.Text

/-- Why a text or number is no date-time. -/
inductive MomentFault
  | tooShort
  | extraCharacters
  | badYear
  | badMonth
  | badDay
  | badDateSeparator
  | badSeparator
  | badHour
  | badMinute
  | badSecond
  | badTimeSeparator
  | badOffsetSign
  | badOffsetHour
  | badOffsetMinute
  | monthRange
  | dayRange
  | hourRange
  | minuteRange
  | secondRange
  | offsetMinuteRange
  | offsetRange
  | missingFraction
  | tooEarly
  | tooLate
  | notANumber
deriving DecidableEq, Repr

namespace MomentFault

/-- The reason in words. -/
def message : MomentFault → String
  | tooShort => "input is too short"
  | extraCharacters => "unexpected extra characters at the end of the input"
  | badYear => "invalid character in year"
  | badMonth => "invalid character in month"
  | badDay => "invalid character in day"
  | badDateSeparator => "invalid date separator, expected `-`"
  | badSeparator => "invalid datetime separator, expected `T`, `t`, `_` or space"
  | badHour => "invalid character in hour"
  | badMinute => "invalid character in minute"
  | badSecond => "invalid character in second"
  | badTimeSeparator => "invalid time separator, expected `:`"
  | badOffsetSign => "invalid timezone sign"
  | badOffsetHour => "invalid timezone hour"
  | badOffsetMinute => "invalid timezone minute"
  | monthRange => "month value is outside expected range of 1-12"
  | dayRange => "day value is outside expected range"
  | hourRange => "hour value is outside expected range of 0-23"
  | minuteRange => "minute value is outside expected range of 0-59"
  | secondRange => "second value is outside expected range of 0-59"
  | offsetMinuteRange => "timezone minute value is outside expected range of 0-59"
  | offsetRange => "timezone offset must be less than 24 hours"
  | missingFraction => "second fraction digits missing after `.`"
  | tooEarly => "dates before 0000 are not supported as unix timestamps"
  | tooLate => "dates after 9999 are not supported as unix timestamps"
  | notANumber => "NaN values not permitted"

end MomentFault

/-- A date as year, month and day that may lie in year 0, and a time of day. -/
structure RawMoment where
  year : Nat
  month : Nat
  day : Nat
  clock : Clock

/-- One digit, or the given fault. -/
def takeDigit (fault : MomentFault) : List Char → Except MomentFault (Nat × List Char)
  | [] => .error fault
  | c :: cs =>
    match asciiDigit? c with
    | some d => .ok (d, cs)
    | none => .error fault

/-- Two digits, or the given fault. -/
def takeTwo (fault : MomentFault) (cs : List Char) : Except MomentFault (Nat × List Char) := do
  let (a, cs) ← takeDigit fault cs
  let (b, cs) ← takeDigit fault cs
  return (10 * a + b, cs)

/-- One given character, or the given fault. -/
def expectChar (c : Char) (fault : MomentFault) : List Char → Except MomentFault (List Char)
  | d :: cs => if d = c then .ok cs else .error fault
  | [] => .error fault

/-- The ten characters of a date. -/
def takeDate (cs : List Char) : Except MomentFault ((Nat × Nat × Nat) × List Char) := do
  if cs.length < 10 then throw .tooShort
  let (century, cs) ← takeTwo .badYear cs
  let (rest, cs) ← takeTwo .badYear cs
  let cs ← expectChar '-' .badDateSeparator cs
  let (month, cs) ← takeTwo .badMonth cs
  let cs ← expectChar '-' .badDateSeparator cs
  let (day, cs) ← takeTwo .badDay cs
  let year := 100 * century + rest
  if month < 1 ∨ 12 < month then throw .monthRange
  if day < 1 ∨ daysInMonth year month < day then throw .dayRange
  return ((year, month, day), cs)

/-- Seconds and their fraction after the minutes, if there are any. -/
def takeSeconds : List Char → Except MomentFault ((Nat × Nat) × List Char)
  | ':' :: cs => do
    let (second, cs) ← takeTwo .badSecond cs
    if 59 < second then throw .secondRange
    match cs with
    | c :: rest =>
      if c = '.' ∨ c = ',' then
        let (ds, after) := rest.span isAsciiDigit
        if ds.isEmpty then throw .missingFraction
        let six := (ds ++ List.replicate 6 '0').take 6
        return ((second, ofDigitChars six), after)
      else return ((second, 0), cs)
    | [] => return ((second, 0), [])
  | cs => .ok ((0, 0), cs)

/-- The minutes of an offset, with or without a colon. -/
def takeOffsetMinutes : List Char → Except MomentFault (Nat × List Char)
  | ':' :: cs => takeTwo .badOffsetMinute cs
  | c :: cs =>
    if isAsciiDigit c then takeTwo .badOffsetMinute (c :: cs) else .error .badOffsetMinute
  | [] => .error .badOffsetMinute

/-- The sign of an offset, and whether it is a minus. The minus sign U+2212 is one too. -/
def takeOffsetSign : List Char → Except MomentFault (Bool × List Char)
  | '+' :: cs => .ok (false, cs)
  | '-' :: cs => .ok (true, cs)
  | '\xe2' :: '\x88' :: '\x92' :: cs => .ok (true, cs)
  | _ => .error .badOffsetSign

/-- The offset behind a sign, in microseconds. -/
def readSignedOffset (negative : Bool) (cs : List Char) : Except MomentFault Int := do
  let (hours, cs) ← takeTwo .badOffsetHour cs
  let (minutes, cs) ← takeOffsetMinutes cs
  if 59 < minutes then throw .offsetMinuteRange
  let seconds := 3600 * hours + 60 * minutes
  if 86400 ≤ seconds then throw .offsetRange
  if cs.isEmpty then return signed negative (1000000 * seconds)
  throw .extraCharacters

/-- The offset at the end of a time. -/
def readOffset : List Char → Except MomentFault (Option Int)
  | [] => .ok none
  | c :: cs =>
    if c = 'Z' ∨ c = 'z' then
      if cs.isEmpty then .ok (some 0) else .error .extraCharacters
    else do
      let (negative, cs) ← takeOffsetSign (c :: cs)
      return some (← readSignedOffset negative cs)

/-- A time of day as the whole of a text. -/
def readClock (cs : List Char) : Except MomentFault Clock := do
  if cs.length < 5 then throw .tooShort
  let (hour, cs) ← takeTwo .badHour cs
  let cs ← expectChar ':' .badTimeSeparator cs
  let (minute, cs) ← takeTwo .badMinute cs
  if 23 < hour then throw .hourRange
  if 59 < minute then throw .minuteRange
  let ((second, microsecond), cs) ← takeSeconds cs
  let offset ← readOffset cs
  return ⟨hour, minute, second, microsecond, offset⟩

/-- A date-time as the whole of a text. -/
def readMoment (cs : List Char) : Except MomentFault RawMoment := do
  let ((year, month, day), cs) ← takeDate cs
  match cs with
  | c :: rest =>
    if c = 'T' ∨ c = 't' ∨ c = ' ' ∨ c = '_' then
      return ⟨year, month, day, ← readClock rest⟩
    else throw .badSeparator
  | [] => throw .badSeparator

end InvoiceForms.Calendar
