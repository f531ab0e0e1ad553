import InvoiceForms.Json.Parser
import InvoiceForms.Record.Schema

/-!
# Issues

A finding of validation: an error makes a template unusable, a warning does not. The rule names what
was checked, and the path the part of the template. Where a finding cannot be put into words there
are no findings at all, but a `ValidationFault`.
-/

namespace InvoiceForms

open InvoiceForms.Record

/-- How grave a finding is. -/
inductive Severity
  | error
  | warning
deriving DecidableEq, Repr, Inhabited

namespace Severity

/-- All severities. -/
def all : List Severity := [error, warning]

/-- The word for a severity. -/
def word : Severity → String
  | error => "error"
  | warning => "warning"

end Severity

/-- A finding of validation. -/
structure Issue where
  severity : Severity
  rule : String
  message : String
  path : String := ""
deriving DecidableEq, Repr, Inhabited

namespace Issue

/-- The schema of issues. -/
def schema : Schema Issue where
  title := "Issue"
  fields := [
    .mandatory "severity" "severity" (.choice Severity.all Severity.word) (·.severity)
      fun x r => { r with severity := x },
    .mandatory "rule" "rule" (.text .verbatim) (·.rule) fun x r => { r with rule := x },
    .mandatory "message" "message" (.text .verbatim) (·.message)
      fun x r => { r with message := x },
    .optional "path" "path" (.text .verbatim) (·.path) fun x r => { r with path := x }]
  extras := .ignore
  blank := default
  frozen := true

/-- Whether an issue is an error. -/
def isError (i : Issue) : Bool := i.severity = .error

/-- The errors among issues. -/
def errors (issues : List Issue) : List Issue := issues.filter isError

/-- Whether there is an error among issues. -/
def hasErrors (issues : List Issue) : Bool := issues.any isError

/-- An issue as JSON. -/
def toJson (i : Issue) : Json := schema.dump .names i

/-- Issues as JSON. -/
def listToJson (issues : List Issue) : Json := .list (issues.map toJson)

end Issue

/-- Why a template cannot be validated: a position that is to stand in a message has too many
digits. -/
inductive ValidationFault
  | unwritablePosition
deriving DecidableEq, Repr

/-- The reason in words. -/
def ValidationFault.message : ValidationFault → String
  | unwritablePosition => Json.unwritableIntegerMessage

end InvoiceForms
