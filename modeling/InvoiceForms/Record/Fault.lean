import InvoiceForms.Calendar.Reading
import InvoiceForms.Text.Quoted
import InvoiceForms.Text.Split
import InvoiceForms.Value.Pairs

/-!
# Faults of record data

Reading a record reports all its faults at once. A `Fault` is a place inside the data and a `Cause`;
`Cause.code` is its short name and `Cause.message` its wording. Data that cannot even be walked
through is a `Misuse`, which ends the reading at once. `Read` is the result of reading.
-/

namespace InvoiceForms.Record

open InvoiceForms.Calendar InvoiceForms.Text

/-- One step into data: a key of a mapping, or the number of a list item. -/
inductive PathStep
  | key (name : String)
  | index (n : Int)
deriving DecidableEq, Repr

/-- A step in words. -/
def PathStep.text : PathStep → String
  | key name => name
  | index n => toString n

/-- Why a value is refused. -/
inductive Cause
  | missing
  | extraForbidden
  | keyExpected
  | recordExpected (title : String)
  | mappingExpected
  | listExpected
  | textExpected
  | textUnreadable
  | textTooShort (least : Nat)
  | textTooLong (most : Nat)
  | patternMismatch (pattern : String)
  | boolExpected
  | boolUnreadable
  | intExpected
  | intUnreadable
  | intFraction
  | intTooLarge
  | finiteExpected
  | numberExpected
  | numberUnreadable
  | greaterThan (bound : Nat)
  | atLeast (bound : Nat)
  | atMost (bound : Nat)
  | notAmong (choices : List String)
  | tooFewItems (least found : Nat)
  | dateExpected
  | dateUnreadable (reason : MomentFault)
  | dateNotMidnight
  | dateYearZero
  | refused (reason : String)
  | noSuchAttribute (name : String)
  | frozen
deriving DecidableEq, Repr

/-- Choices in a message: quoted, the last one after an "or". -/
def choicesText : List String → String
  | [] => ""
  | [c] => quoted c
  | [c, d] => quoted c ++ " or " ++ quoted d
  | c :: rest => quoted c ++ ", " ++ choicesText rest

/-- The plural ending that a count asks for. -/
def plural (n : Nat) : String := if n = 1 then "" else "s"

namespace Cause

/-- The short name of a cause. -/
def code : Cause → String
  | missing => "missing"
  | extraForbidden => "extra_forbidden"
  | keyExpected => "invalid_key"
  | recordExpected _ => "model_type"
  | mappingExpected => "dict_type"
  | listExpected => "list_type"
  | textExpected => "string_type"
  | textUnreadable => "string_unicode"
  | textTooShort _ => "string_too_short"
  | textTooLong _ => "string_too_long"
  | patternMismatch _ => "string_pattern_mismatch"
  | boolExpected => "bool_type"
  | boolUnreadable => "bool_parsing"
  | intExpected => "int_type"
  | intUnreadable => "int_parsing"
  | intFraction => "int_from_float"
  | intTooLarge => "int_parsing_size"
  | finiteExpected => "finite_number"
  | numberExpected => "float_type"
  | numberUnreadable => "float_parsing"
  | greaterThan _ => "greater_than"
  | atLeast _ => "greater_than_equal"
  | atMost _ => "less_than_equal"
  | notAmong _ => "literal_error"
  | tooFewItems .. => "too_short"
  | dateExpected => "date_type"
  | dateUnreadable _ => "date_from_datetime_parsing"
  | dateNotMidnight => "date_from_datetime_inexact"
  | dateYearZero => "date_parsing"
  | refused _ => "value_error"
  | noSuchAttribute _ => "no_such_attribute"
  | frozen => "frozen_instance"

/-- A cause in words. -/
def message : Cause → String
  | missing => "Field required"
  | extraForbidden => "Extra inputs are not permitted"
  | keyExpected => "Keys should be strings"
  | recordExpected title => "Input should be a valid dictionary or instance of " ++ title
  | mappingExpected => "Input should be a valid dictionary"
  | listExpected => "Input should be a valid list"
  | textExpected => "Input should be a valid string"
  | textUnreadable => "Input should be a valid string, unable to parse raw data as a unicode string"
  | textTooShort n => "String should have at least " ++ toString n ++ " character" ++ plural n
  | textTooLong n => "String should have at most " ++ toString n ++ " character" ++ plural n
  | patternMismatch pattern => "String should match pattern '" ++ pattern ++ "'"
  | boolExpected => "Input should be a valid boolean"
  | boolUnreadable => "Input should be a valid boolean, unable to interpret input"
  | intExpected => "Input should be a valid integer"
  | intUnreadable => "Input should be a valid integer, unable to parse string as an integer"
  | intFraction => "Input should be a valid integer, got a number with a fractional part"
  | intTooLarge => "Unable to parse input string as an integer, exceeded maximum size"
  | finiteExpected => "Input should be a finite number"
  | numberExpected => "Input should be a valid number"
  | numberUnreadable => "Input should be a valid number, unable to parse string as a number"
  | greaterThan n => "Input should be greater than " ++ toString n
  | atLeast n => "Input should be greater than or equal to " ++ toString n
  | atMost n => "Input should be less than or equal to " ++ toString n
  | notAmong choices => "Input should be " ++ choicesText choices
  | tooFewItems least found =>
    "List should have at least " ++ toString least ++ " item" ++ plural least ++
      " after validation, not " ++ toString found
  | dateExpected => "Input should be a valid date"
  | dateUnreadable reason => "Input should be a valid date or datetime, " ++ reason.message
  | dateNotMidnight =>
    "Datetimes provided to dates should have zero time - e.g. be exact dates"
  | dateYearZero =>
    "Input should be a valid date in the format YYYY-MM-DD, year 0 is out of range"
  | refused reason => "Value error, " ++ reason
  | noSuchAttribute name => "Object has no attribute '" ++ name ++ "'"
  | frozen => "Instance is frozen"

end Cause

/-- A refused value: where it stands, and why. -/
structure Fault where
  path : List PathStep
  cause : Cause
deriving DecidableEq, Repr

/-- The same fault seen from one step further out. -/
def Fault.under (step : PathStep) (fault : Fault) : Fault := ⟨step :: fault.path, fault.cause⟩

/-- Data that cannot be walked through: something that has no items, an item that is no pair, a key
that cannot be one, or something in the place of a text. A kind of values is given by its name. -/
inductive Misuse
  | notIterable (kind : String)
  | notSequence (index : Nat)
  | badKey (cause : KeyFault)
  | bytesForText
  | notText (kind : String)
deriving DecidableEq, Repr

/-- A misuse in words. -/
def Misuse.message : Misuse → String
  | notIterable kind => "'" ++ kind ++ "' object is not iterable"
  | notSequence index =>
    "cannot convert dictionary update sequence element #" ++ toString index ++ " to a sequence"
  | badKey cause => cause.message
  | bytesForText => "cannot use a string pattern on a bytes-like object"
  | notText kind => "expected string or bytes-like object, got '" ++ kind ++ "'"

/-- The text that a value is. -/
def takeText : Value → Except Misuse String
  | .text s => .ok s
  | .bytes _ => .error .bytesForText
  | v => .error (.notText v.kindName)

/-- Why data is no record. -/
inductive Rejection
  | faults (found : List Fault)
  | misuse (cause : Misuse)
deriving DecidableEq, Repr

/-- A rejection seen from one step further out. -/
def Rejection.under (step : PathStep) : Rejection → Rejection
  | faults found => faults (found.map (·.under step))
  | misuse cause => misuse cause

/-- The result of reading data. -/
abbrev Read (α : Type) := Except Rejection α

/-- Refuses a value for one cause. -/
def refuse {α : Type} (cause : Cause) : Read α := .error (.faults [⟨[], cause⟩])

/-- The faults of a record of a named kind. -/
structure Invalid where
  title : String
  faults : List Fault
deriving DecidableEq, Repr

/-- How many faults a kind of record has. -/
def Invalid.headline (e : Invalid) : String :=
  toString e.faults.length ++ " validation error" ++ plural e.faults.length ++ " for " ++ e.title

/-- Why data describes nothing of the wanted kind: it has faults, it is of no use for a reason in
words, or it cannot be walked through. -/
inductive DataFault
  | invalid (cause : Invalid)
  | unusable (reason : String)
  | misuse (cause : Misuse)
deriving DecidableEq, Repr

/-- A rejection as a fault of data for a record of a named kind. -/
def Rejection.forRecord (title : String) : Rejection → DataFault
  | faults found => .invalid ⟨title, found⟩
  | misuse cause => .misuse cause

/-- A data fault in words. -/
def DataFault.message : DataFault → String
  | invalid cause => cause.headline
  | unusable reason => reason
  | misuse cause => cause.message

/-- The fault of data that is no mapping and no sequence of pairs. -/
def DataFault.ofPairs : PairFault → DataFault
  | .notIterable kind => .misuse (.notIterable kind)
  | .notSequence index => .misuse (.notSequence index)
  | .badKey cause => .misuse (.badKey cause)
  | .wrongLength index length =>
    .unusable ("dictionary update sequence element #" ++ toString index ++ " has length " ++
      toString length ++ "; 2 is required")

/-- Why an assignment is refused: the value is rejected, or the name belongs to the kind of record,
stands for computed content, or is no field. -/
inductive AssignmentFault
  | rejected (cause : DataFault)
  | constant (title name : String)
  | derived (title name : String)
  | noField (title name : String)
deriving DecidableEq, Repr

/-- An assignment fault in words. -/
def AssignmentFault.message : AssignmentFault → String
  | rejected cause => cause.message
  | constant title name =>
    quoted name ++ " is a ClassVar of `" ++ title ++ "` and cannot be set on an instance. " ++
      "If you want to set a value on the class, use `" ++ title ++ "." ++ name ++ " = value`."
  | derived title name =>
    "property '" ++ name ++ "' of '" ++ title ++ "' object has no setter"
  | noField title name => "\"" ++ title ++ "\" object has no field \"" ++ name ++ "\""

end InvoiceForms.Record
