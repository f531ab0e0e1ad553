import InvoiceForms.Record.Schema
import InvoiceForms.Value.Shown

/-!
# Warnings

What rendering reports without failing: a code, a message, the path or name it is about, and the
section it arose in. Two kinds of warnings have a message of their own, which stands in when data
gives none.
-/

namespace InvoiceForms

open InvoiceForms.Record

/-- A warning. -/
structure Warning where
  code : String
  message : String
  path : String := ""
  sectionType : Option String := none
deriving DecidableEq, Repr, Inhabited

namespace Warning

/-- The message for a variable without a value. -/
def unresolvedMessage (path : String) : String :=
  "Variable '" ++ path ++ "' could not be resolved"

/-- The message for a section that is not rendered. -/
def unsupportedMessage (path : String) : String :=
  "Section type '" ++ path ++ "' is not supported and was skipped"

/-- A variable has no value that is a text. -/
def unresolved (path : String) : Warning :=
  { code := "unresolved_variable", message := unresolvedMessage path, path := path }

/-- A loop is over something that is no list. -/
def invalidLoopTarget (path : String) : Warning :=
  { code := "invalid_loop_target", message := "Loop target '" ++ path ++ "' is not a list",
    path := path }

/-- A loop stands inside another. -/
def nestedLoop (path : String) : Warning :=
  { code := "loop_nested", message := "Nested loop '" ++ path ++ "' is not expanded", path := path }

/-- A loop is not closed. -/
def unclosedLoop (path : String) : Warning :=
  { code := "malformed_loop", message := "Loop '" ++ path ++ "' is never closed", path := path }

/-- A closer has no loop. -/
def strayCloser : Warning :=
  { code := "malformed_loop", message := "Closing \x7b\x7b/loop\x7d\x7d without an open loop",
    path := "/loop" }

/-- A loop is not the first of its content. -/
def ignoredLoop (path : String) : Warning :=
  { code := "loop_ignored",
    message := "Only one loop per field is expanded; '" ++ path ++ "' was left as text",
    path := path }

/-- A section is switched off. -/
def disabledSection (type : String) : Warning :=
  { code := "section_disabled", message := "Section '" ++ type ++ "' is disabled", path := type }

/-- A section's type is not rendered. -/
def unsupportedSection (type : String) : Warning :=
  { code := "unsupported_section", message := unsupportedMessage type, path := type }

/-- A row has another number of cells than the table has columns. -/
def rowShape (number cells columns : Nat) : Warning :=
  { code := "row_shape",
    message := "Row " ++ toString number ++ " has " ++ toString cells ++ " cells for " ++
      toString columns ++ " columns",
    path := "rows." ++ toString number }

/-- The section a warning arose in, unless it is known already. -/
def inSection (type : String) (w : Warning) : Warning :=
  match w.sectionType with
  | some s => if s = "" then { w with sectionType := some type } else w
  | none => { w with sectionType := some type }

/-- The fields of warnings but the code. -/
def otherFields : List (RecordField Warning) := [
  .mandatory "message" "message" (.text .verbatim) (·.message) fun x r => { r with message := x },
  .optional "path" "path" (.text .verbatim) (·.path) fun x r => { r with path := x },
  .optional "section" "section" (.optional (.text .verbatim)) (·.sectionType)
    fun x r => { r with sectionType := x }]

/-- The names that belong to kinds of warnings. -/
def constants : List String := ["default_message"]

/-- The schema of warnings. -/
def schema : Schema Warning where
  title := "RenderWarning"
  fields :=
    .mandatory "code" "code" (.text .verbatim) (·.code) (fun x r => { r with code := x }) ::
      otherFields
  extras := .ignore
  blank := { code := "", message := "" }
  frozen := true
  constants := constants

/-- Puts a message into data that has none. -/
def withMessage (message : String → String) (entries : Entries Value) : Entries Value :=
  if ((entries.get? "message").getD .null).isTruthy then entries
  else entries.set "message" (.text (message ((entries.get? "path").getD (.text "")).plain))

/-- The schema of a kind of warnings with a code and a message of their own. -/
def fixedSchema (title code : String) (message : String → String) : Schema Warning where
  title := title
  fields :=
    .optional "code" "code" (.choice [code] id) (·.code) (fun x r => { r with code := x }) ::
      otherFields
  extras := .ignore
  blank := { code := code, message := "" }
  prepare := withMessage message
  frozen := true
  constants := constants

/-- The schema of warnings about variables. -/
def unresolvedSchema : Schema Warning :=
  fixedSchema "UnresolvedVariableWarning" "unresolved_variable" unresolvedMessage

/-- The schema of warnings about section types. -/
def unsupportedSchema : Schema Warning :=
  fixedSchema "UnsupportedSectionWarning" "unsupported_section" unsupportedMessage

/-- A warning as JSON. -/
def toJson (w : Warning) : Json := schema.dump .names w

end Warning

end InvoiceForms
