import InvoiceForms.Calendar.MomentText
import InvoiceForms.Number.Double

/-!
# Timestamps

A timestamp is a number of seconds since the beginning of 1970, or of milliseconds when it is beyond
2·10¹⁰. It stands for a date when it is the beginning of a day. Doubles are rounded to whole
microseconds first.
-/

namespace InvoiceForms.Calendar

open InvoiceForms.Number

/-- Why a value is no date: it cannot be read, it has a time of day, or it lies in year 0. -/
inductive DateFault
  | unreadable (reason : MomentFault)
  | notMidnight
  | yearZero
deriving DecidableEq, Repr

/-- The number of 1 January 1970. -/
def epochOrdinal : Int := 719163

/-- The greatest timestamp that counts seconds. -/
def lastSeconds : Nat := 20000000000

/-- The date that begins at seconds and microseconds since 1970. -/
def dateOfSeconds (seconds : Int) (microseconds : Nat) : Except DateFault Date :=
  let seconds := seconds + (microseconds / 1000000 : Nat)
  if seconds < -62167219200 then .error (.unreadable .tooEarly)
  else if 253402300799 < seconds then .error (.unreadable .tooLate)
  else if seconds % 86400 ≠ 0 ∨ microseconds % 1000000 ≠ 0 then .error .notMidnight
  else
    let n := epochOrdinal + seconds / 86400
    if n ≤ 0 then .error .yearZero
    else (Date.ofOrdinal? n.toNat).elim (.error .yearZero) .ok

/-- The whole seconds of a timestamp. -/
def secondsOfInt (n : Int) : Int := if lastSeconds < n.natAbs then n / 1000 else n

/-- The microseconds of a timestamp beyond its whole seconds. -/
def microsecondsOfInt (n : Int) : Nat :=
  if lastSeconds < n.natAbs then (n % 1000).toNat * 1000 else 0

/-- The date of a timestamp. -/
def dateOfInt (n : Int) : Except DateFault Date :=
  dateOfSeconds (secondsOfInt n) (microsecondsOfInt n)

/-- The seconds of a timestamp that is a double. -/
def secondsOfDouble (x : Double) : Double :=
  if (Double.ofInt lastSeconds).lt x.abs then x.div (.ofInt 1000) else x

/-- The microseconds of a number of seconds beyond a whole number of them, a half rounded up. -/
def microsecondsBeyond (x : Double) (whole : Int) : Nat :=
  (((x + (-(Double.ofInt whole))) * .ofInt 1000000).nearest?.getD 0).toNat

/-- The date of a timestamp that is a double. -/
def dateOfDouble : Double → Except DateFault Date
  | .nan => .error (.unreadable .notANumber)
  | .infinity negative => .error (.unreadable (if negative then .tooEarly else .tooLate))
  | x =>
    let seconds := secondsOfDouble x
    match seconds.floor? with
    | some whole => dateOfSeconds whole (microsecondsBeyond seconds whole)
    | none => .error .notMidnight

end InvoiceForms.Calendar
