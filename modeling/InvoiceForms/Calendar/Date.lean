/-!
# Calendar dates

Dates of the proleptic Gregorian calendar from year 1 to year 9999. A `Date` carries the proof that
its day exists. Dates are counted by `ordinal`, the first day of year 1 being day 1; `addDays`
goes through that count and fails outside the calendar.
-/

namespace InvoiceForms.Calendar

/-- Whether a year has 366 days. -/
def isLeap (year : Nat) : Bool :=
  year % 4 = 0 && (year % 100 ≠ 0 || year % 400 = 0)

/-- The number of days in a month of a year; none in a month that does not exist. -/
def daysInMonth (year month : Nat) : Nat :=
  match month with
  | 1 | 3 | 5 | 7 | 8 | 10 | 12 => 31
  | 4 | 6 | 9 | 11 => 30
  | 2 => if isLeap year then 29 else 28
  | _ => 0

/-- A day that exists. -/
structure Date where
  year : Nat
  month : Nat
  day : Nat
  year_pos : 0 < year
  year_le : year ≤ 9999
  day_pos : 0 < day
  day_le : day ≤ daysInMonth year month
deriving DecidableEq

namespace Date

/-- The date with these numbers, when it exists. -/
def of? (year month day : Nat) : Option Date :=
  if h : 0 < year ∧ year ≤ 9999 ∧ 0 < day ∧ day ≤ daysInMonth year month then
    some ⟨year, month, day, h.1, h.2.1, h.2.2.1, h.2.2.2⟩
  else none

instance : Inhabited Date := ⟨⟨1, 1, 1, by decide, by decide, by decide, by decide⟩⟩

/-- The days of all years before a year. -/
def daysBeforeYear (year : Nat) : Nat :=
  let y := year - 1
  365 * y + y / 4 - y / 100 + y / 400

/-- The days of a year before the first of a month. -/
def daysBeforeMonth (year : Nat) : Nat → Nat
  | 0 => 0
  | 1 => 0
  | month + 1 => daysBeforeMonth year month + daysInMonth year month

/-- The number of a date; the first day of year 1 is day 1. -/
def ordinal (d : Date) : Nat :=
  daysBeforeYear d.year + daysBeforeMonth d.year d.month + d.day

/-- Walks from a year that is not too late to the year of a day. -/
def yearOf : Nat → Nat → Nat → Nat
  | 0, year, _ => year
  | fuel + 1, year, n => if n ≤ daysBeforeYear (year + 1) then year else yearOf fuel (year + 1) n

/-- Walks from a month that is not too late to the month of a day of the year. -/
def monthOf (year : Nat) : Nat → Nat → Nat → Nat
  | 0, month, _ => month
  | fuel + 1, month, n =>
    if n ≤ daysBeforeMonth year (month + 1) then month else monthOf year fuel (month + 1) n

/-- The date with a number, when the calendar has it. -/
def ofOrdinal? (n : Nat) : Option Date :=
  let year := yearOf 30 (n / 366 + 1) n
  let rest := n - daysBeforeYear year
  let month := monthOf year 11 1 rest
  of? year month (rest - daysBeforeMonth year month)

/-- The date a number of days later, when the calendar has it. -/
def addDays? (d : Date) (days : Int) : Option Date :=
  let n := (d.ordinal : Int) + days
  if n ≤ 0 then none else ofOrdinal? n.toNat

/-- Whether a date is earlier than another. -/
def before (a b : Date) : Bool :=
  a.year < b.year ||
    (a.year = b.year && (a.month < b.month || (a.month = b.month && a.day < b.day)))

/-- A number with at least `width` digits. -/
def padded (width n : Nat) : String :=
  let ds := Nat.toDigits 10 n
  String.ofList (List.replicate (width - ds.length) '0' ++ ds)

/-- Year, month and day with hyphens. -/
def toIso (d : Date) : String :=
  padded 4 d.year ++ "-" ++ padded 2 d.month ++ "-" ++ padded 2 d.day

/-- The English name of a month. -/
def monthName : Nat → String
  | 1 => "January"
  | 2 => "February"
  | 3 => "March"
  | 4 => "April"
  | 5 => "May"
  | 6 => "June"
  | 7 => "July"
  | 8 => "August"
  | 9 => "September"
  | 10 => "October"
  | 11 => "November"
  | _ => "December"

end Date

end InvoiceForms.Calendar
