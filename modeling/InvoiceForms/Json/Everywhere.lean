import InvoiceForms.Json.Basic
import InvoiceForms.Number.Numeral

/-!
# Tests on all parts of a value

`Json.everywhere` applies a test to a value, to the values inside it, and so on. An integer with too
many digits is neither read nor written.
-/

namespace InvoiceForms.Json

open InvoiceForms.Number

mutual

/-- Whether a value and all its parts pass a test. -/
def everywhere (p : Json → Bool) : Json → Bool
  | list items => p (list items) && everywhereItems p items
  | object members => p (object members) && everywhereMembers p members
  | null => p null
  | bool b => p (bool b)
  | int n => p (int n)
  | float x => p (float x)
  | text s => p (text s)

/-- `everywhere` on the items of a list. -/
def everywhereItems (p : Json → Bool) : List Json → Bool
  | [] => true
  | x :: xs => everywhere p x && everywhereItems p xs

/-- `everywhere` on the values of members. -/
def everywhereMembers (p : Json → Bool) : List (String × Json) → Bool
  | [] => true
  | (_, x) :: members => everywhere p x && everywhereMembers p members

end

/-- No integer here has too many digits. -/
def readableHere : Json → Bool
  | int n => decide ((Nat.toDigits 10 n.natAbs).length ≤ maxIntegerDigits)
  | _ => true

/-- Whether all integers in a value can be read and written. -/
def hasReadableIntegers (j : Json) : Bool := j.everywhere readableHere

end InvoiceForms.Json
