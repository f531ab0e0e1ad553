import InvoiceForms.Calendar.Date

/-!
# Times of day and moments

A `Clock` is a time of day with microseconds and an optional distance from universal time; a
`Moment` is a date with a clock. Two texts exist: `toIso` writes the distance as it is, `toWire`
writes it in whole minutes, and as `Z` for universal time.
-/

namespace InvoiceForms.Calendar

/-- A time of day, with its distance from universal time in microseconds if it has one. -/
structure Clock where
  hour : Nat
  minute : Nat
  second : Nat
  microsecond : Nat
  offset : Option Int
deriving DecidableEq, Repr

namespace Clock

/-- Whether it is midnight, at any distance from universal time. -/
def isMidnight (c : Clock) : Bool :=
  c.hour = 0 && c.minute = 0 && c.second = 0 && c.microsecond = 0

/-- The microseconds since midnight. -/
def sinceMidnight (c : Clock) : Nat :=
  1000000 * (3600 * c.hour + 60 * c.minute + c.second) + c.microsecond

/-- The microseconds since midnight of universal time, as far as the offset is known. -/
def universal (c : Clock) : Int := c.sinceMidnight - c.offset.getD 0

/-- Whether two times of day are at the same instant; one without an offset and one with one never
are. -/
def sameInstant (a b : Clock) : Bool :=
  a.offset.isSome = b.offset.isSome && a.universal = b.universal

/-- The time without its offset. -/
def timeText (c : Clock) : String :=
  Date.padded 2 c.hour ++ ":" ++ Date.padded 2 c.minute ++ ":" ++ Date.padded 2 c.second ++
    (if c.microsecond = 0 then "" else "." ++ Date.padded 6 c.microsecond)

/-- An offset as hours and minutes, and as seconds and microseconds where there are any. -/
def offsetText (microseconds : Int) : String :=
  let micros := microseconds.natAbs % 1000000
  let seconds := microseconds.natAbs / 1000000
  (if microseconds < 0 then "-" else "+") ++ Date.padded 2 (seconds / 3600) ++ ":" ++
    Date.padded 2 (seconds / 60 % 60) ++
    (if seconds % 60 = 0 ∧ micros = 0 then "" else ":" ++ Date.padded 2 (seconds % 60)) ++
    (if micros = 0 then "" else "." ++ Date.padded 6 micros)

/-- An offset as hours and minutes, whatever its seconds are; less than a second counts as one below
zero and as none above. No offset at all is `Z`. -/
def wireOffset (microseconds : Int) : String :=
  let seconds := microseconds / 1000000
  let minutes := seconds.natAbs / 60
  if seconds = 0 then "Z"
  else
    (if seconds < 0 then "-" else "+") ++ Date.padded 2 (minutes / 60) ++ ":" ++
      Date.padded 2 (minutes % 60)

/-- The time, then its offset if it has one. -/
def toIso (c : Clock) : String :=
  c.timeText ++ c.offset.elim "" offsetText

/-- The time, then its offset in whole minutes, which is `Z` for universal time. -/
def toWire (c : Clock) : String :=
  c.timeText ++ c.offset.elim "" wireOffset

end Clock

/-- A date and a time of day. -/
structure Moment where
  date : Date
  clock : Clock
deriving DecidableEq

namespace Moment

/-- The microseconds in a day. -/
def dayLength : Int := 86400000000

/-- Whether two moments are the same instant; one without an offset and one with one never are. -/
def sameInstant (a b : Moment) : Bool :=
  a.clock.offset.isSome = b.clock.offset.isSome &&
    a.date.ordinal * dayLength + a.clock.universal = b.date.ordinal * dayLength + b.clock.universal

/-- Date and time around a `T`. -/
def toIso (m : Moment) : String := m.date.toIso ++ "T" ++ m.clock.toIso

/-- Date and time around a `T`, with `Z` for universal time. -/
def toWire (m : Moment) : String := m.date.toIso ++ "T" ++ m.clock.toWire

end Moment

end InvoiceForms.Calendar
