import InvoiceForms.Number.DoubleText
import InvoiceForms.Number.Numeral
import InvoiceForms.Text.Quoted
import InvoiceForms.Text.Split
import InvoiceForms.Value.Basic

/-!
# Values in messages

`Value.plain` is the text of a value where it stands for itself: a text is itself, a date is in ISO
form. `Value.shown` is its text inside a larger one, where texts are quoted and kinds are named. An
integer with too many digits is not written out; `Value.isWritable` says where there is none.
-/

namespace InvoiceForms.Value

open InvoiceForms.Calendar InvoiceForms.Number InvoiceForms.Text

/-- A truth value in a message. -/
def shownBool (b : Bool) : String := if b then "True" else "False"

/-- A length of time in a message, in days, seconds and microseconds as far as there are any. -/
def shownLength (microseconds : Int) : String :=
  let days := microseconds / Moment.dayLength
  let rest := (microseconds % Moment.dayLength).toNat
  let parts := [("days", days), ("seconds", (rest / 1000000 : Nat)),
    ("microseconds", (rest % 1000000 : Nat))]
  "datetime.timedelta(" ++
    joinWith ", " ((parts.filter (·.2 ≠ 0)).map fun p => p.1 ++ "=" ++ toString p.2) ++ ")"

/-- The distance from universal time in a message. -/
def shownOffset (microseconds : Int) : String :=
  if microseconds = 0 then "datetime.timezone.utc"
  else "datetime.timezone(" ++ shownLength microseconds ++ ")"

/-- The parts of a time of day: seconds and microseconds only as far as there are any. -/
def clockParts (c : Clock) : List String :=
  [toString c.hour, toString c.minute] ++
    (if c.second = 0 ∧ c.microsecond = 0 then [] else [toString c.second]) ++
    (if c.microsecond = 0 then [] else [toString c.microsecond]) ++
    (c.offset.elim [] fun o => ["tzinfo=" ++ shownOffset o])

/-- The parts of a date. -/
def dateParts (d : Date) : List String := [toString d.year, toString d.month, toString d.day]

mutual

/-- A value as a part of a message. -/
def shown : Value → String
  | null => "None"
  | bool b => shownBool b
  | int n => toString n
  | float x => x.toText
  | text s => quoted s
  | decimal x => "Decimal('" ++ x.toText ++ "')"
  | date d => "datetime.date(" ++ joinWith ", " (dateParts d) ++ ")"
  | moment m =>
    "datetime.datetime(" ++ joinWith ", " (dateParts m.date ++ clockParts m.clock) ++ ")"
  | clock c => "datetime.time(" ++ joinWith ", " (clockParts c) ++ ")"
  | bytes bs => quotedBytes bs
  | list items => "[" ++ joinWith ", " (shownItems items) ++ "]"
  | tuple [x] => "(" ++ shown x ++ ",)"
  | tuple items => "(" ++ joinWith ", " (shownItems items) ++ ")"
  | set [] => "set()"
  | set items => "\x7b" ++ joinWith ", " (shownItems items) ++ "\x7d"
  | mapping entries => "\x7b" ++ joinWith ", " (shownEntries entries) ++ "\x7d"
  | record title fields extras =>
    title ++ "(" ++ joinWith ", " (shownFields fields ++ shownFields extras) ++ ")"

/-- The items of a list. -/
def shownItems : List Value → List String
  | [] => []
  | x :: xs => shown x :: shownItems xs

/-- The entries of a mapping. -/
def shownEntries : List (String × Value) → List String
  | [] => []
  | (key, x) :: entries => (quoted key ++ ": " ++ shown x) :: shownEntries entries

/-- The fields of a record. -/
def shownFields : List (String × Value) → List String
  | [] => []
  | (key, x) :: fields => (key ++ "=" ++ shown x) :: shownFields fields

end

/-- A value as the whole of a text. -/
def plain : Value → String
  | text s => s
  | decimal x => x.toText
  | date d => d.toIso
  | moment m => m.date.toIso ++ " " ++ m.clock.toIso
  | clock c => c.toIso
  | record _ fields extras => joinWith " " (shownFields fields ++ shownFields extras)
  | value => shown value

mutual

/-- Whether no integer in a value has too many digits to be written out. -/
def isWritable : Value → Bool
  | int n => decide ((Nat.toDigits 10 n.natAbs).length ≤ maxIntegerDigits)
  | list items => itemsWritable items
  | tuple items => itemsWritable items
  | set items => itemsWritable items
  | mapping entries => entriesWritable entries
  | record _ fields extras => entriesWritable fields && entriesWritable extras
  | _ => true

/-- `isWritable` on the items of a list. -/
def itemsWritable : List Value → Bool
  | [] => true
  | x :: xs => isWritable x && itemsWritable xs

/-- `isWritable` on the values of entries. -/
def entriesWritable : List (String × Value) → Bool
  | [] => true
  | (_, x) :: entries => isWritable x && entriesWritable entries

end

end InvoiceForms.Value
