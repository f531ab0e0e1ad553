import InvoiceForms.Json.Parser
import InvoiceForms.Number.Numeral
import InvoiceForms.Text.Quoted
import InvoiceForms.Text.Split
import InvoiceForms.Value.Basic

/-!
# Paths

A path is a list of segments with points between them. A segment selects an entry of a mapping, an
item of a list by its number, or a field of a record. `Value.lookup?` walks a path from a value;
there is nothing at an empty segment. A segment that looks like a number but is none is a
`LookupFault`, and so is a value that is found and cannot be written out.
-/

namespace InvoiceForms

open InvoiceForms.Number InvoiceForms.Text

/-- Why a path has no text: a segment is no item number although it consists of digits, or an integer
at its end has too many digits to be written out. -/
inductive LookupFault
  | notDecimal (segment : String)
  | tooManyDigits (count : Nat)
  | unwritable
deriving DecidableEq, Repr

/-- A lookup fault in words. -/
def LookupFault.message : LookupFault → String
  | notDecimal segment => "invalid literal for int() with base 10: " ++ quoted segment
  | tooManyDigits count => Json.tooManyDigitsMessage count
  | unwritable => Json.unwritableIntegerMessage

/-- The number of an item that a segment of digits writes. -/
def itemIndex (segment : List Char) : Except LookupFault Nat :=
  match readInteger segment with
  | .ok n => .ok n.toNat
  | .error .malformed => .error (.notDecimal (String.ofList segment))
  | .error (.tooManyDigits count) => .error (.tooManyDigits count)

namespace Value

/-- The item of a list that a segment selects. -/
def itemAt? (items : List Value) (segment : List Char) : Except LookupFault (Option Value) :=
  if segment.all isDigitLike then
    (itemIndex segment).map fun n => items[n]?
  else .ok none

/-- What a segment, which is not empty, selects in a value. -/
def select? (segment : List Char) : Value → Except LookupFault (Option Value)
  | mapping entries => .ok (Entries.get? (String.ofList segment) entries)
  | list items => itemAt? items segment
  | tuple items => itemAt? items segment
  | record _ fields _ =>
    .ok (if segment.head? = some '_' then none else Entries.get? (String.ofList segment) fields)
  | _ => .ok none

/-- Walks segments one after another. -/
def walk? : List (List Char) → Value → Except LookupFault (Option Value)
  | [], v => .ok (some v)
  | segment :: rest, v =>
    if segment = [] then .ok none
    else
      match select? segment v with
      | .error e => .error e
      | .ok none => .ok none
      | .ok (some next) => walk? rest next

/-- What stands at a path. -/
def lookup? (root : Value) (path : String) : Except LookupFault (Option Value) :=
  walk? (split '.' path.toList) root

/-- What stands at a path; null where there is nothing. -/
def lookup (root : Value) (path : String) : Except LookupFault Value :=
  (root.lookup? path).map (·.getD null)

end Value

end InvoiceForms
