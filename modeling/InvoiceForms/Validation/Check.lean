import InvoiceForms.Catalogue.Standard
import InvoiceForms.Number.DoubleText
import InvoiceForms.Validation.Policy
import InvoiceForms.Value.Shown

/-!
# Validation

What makes a template unusable, and what is odd about it. A template needs an enabled section,
enabled sections need positions of their own, enabled columns must fit on the page, and a content
string has at most one loop block, which is closed. Unknown section types, nested loops, narrow
tables and unknown variables are reported without harm. A shared position that has too many digits
to stand in a message ends validation in a `ValidationFault`.
-/

namespace InvoiceForms

open InvoiceForms.Number InvoiceForms.Text

/-- What a template is held to: a legal policy and a catalogue of variables. -/
structure Validator where
  policy : LegalPolicy := .german
  catalogue : Catalogue := .standard
deriving Inhabited

namespace Validator

/-- Finds that no section is enabled. -/
def checkEnabled (t : Template) : List Issue :=
  if t.enabledSections.isEmpty then
    [{ severity := .error, rule := "enabled_sections",
       message := "Template has no enabled sections", path := "sections" }]
  else []

/-- The types of the sections at a position. -/
def typesAt (sections : List Section) (position : Int) : List String :=
  (sections.filter (·.position = position)).map (·.type)

/-- The positions of sections in ascending order, each once. -/
def positionsOf (sections : List Section) : List Int :=
  ((sections.map (·.position)).mergeSort (· ≤ ·)).eraseDups

/-- The issue that several sections are at a position, if they are. -/
def sharedPosition (sections : List Section) (position : Int) : List Issue :=
  match typesAt sections position with
  | first :: second :: rest =>
    [{ severity := .error, rule := "unique_positions",
       message := "Enabled sections " ++ joinWith ", " (first :: second :: rest) ++
         " share position " ++ toString position,
       path := "sections." ++ second ++ ".position" }]
  | _ => []

/-- Finds that several sections are at a position, which then has to be written out. -/
def checkPosition (sections : List Section) (position : Int) :
    Except ValidationFault (List Issue) :=
  let shared := sharedPosition sections position
  if shared.isEmpty || (Value.int position).isWritable then .ok shared
  else .error .unwritablePosition

/-- Checks positions one after another. -/
def checkEach (sections : List Section) : List Int → Except ValidationFault (List Issue)
  | [] => .ok []
  | position :: rest => do
    let shared ← checkPosition sections position
    return shared ++ (← checkEach sections rest)

/-- Finds positions that enabled sections share. -/
def checkPositions (t : Template) : Except ValidationFault (List Issue) :=
  checkEach t.enabledSections (positionsOf t.enabledSections)

/-- Finds that a section's type is not known. -/
def checkType (s : Section) : List Issue :=
  if (SectionKind.ofTag? s.type).isSome then []
  else
    [{ severity := .warning, rule := "section_type",
       message := "Section type '" ++ s.type ++ "' is not supported and will be skipped",
       path := "sections." ++ s.type }]

/-- The greatest width of a table in per cent. -/
def maxTableWidth : Double := .ofInt 100

/-- The width in per cent below which a table looks cut off. -/
def minTableWidth : Double := .ofInt 50

/-- The width of the enabled columns, added up in order. -/
def tableWidth (columns : Entries Column) : Double :=
  Double.sum ((columns.values.filter (·.enabled)).map (·.widthPercent))

/-- Finds that columns are too wide or too narrow together. -/
def checkColumns (s : Section) : List Issue :=
  if s.columns.isEmpty then []
  else
    let total := tableWidth s.columns
    let path := "sections." ++ s.type ++ ".columns"
    if maxTableWidth.lt total then
      [{ severity := .error, rule := "column_widths",
         message := "Column widths add up to " ++ total.toGeneral ++ "% (more than " ++
           maxTableWidth.toGeneral ++ "%)",
         path := path }]
    else if total.lt minTableWidth then
      [{ severity := .warning, rule := "column_widths",
         message := "Column widths add up to only " ++ total.toGeneral ++
           "%; the table may look truncated",
         path := path }]
    else []

/-- An issue about the loops of a content string. -/
def loopIssue (severity : Severity) (message path : String) : Issue :=
  { severity := severity, rule := "loop_blocks", message := message, path := path }

/-- Finds what is wrong with the loops of a content string. -/
def checkLoops (shape : Shape) (path : String) : List Issue :=
  (if 1 < shape.loopPaths.length then
    [loopIssue .error ("Field has " ++ toString shape.loopPaths.length ++
      " loop blocks; only one is allowed") path]
  else []) ++
  (if shape.unterminatedLoops ≠ [] ∨ shape.strayClosers ≠ 0 then
    [loopIssue .error ("Field has an unbalanced \x7b\x7bloop:...\x7d\x7d / " ++
      "\x7b\x7b/loop\x7d\x7d pair") path]
  else []) ++
  shape.nestedLoops.map fun nested =>
    loopIssue .warning ("Nested loop '" ++ nested ++ "' is not expanded and renders as text") path

/-- Whether a variable needs no description: a mark, or one that the catalogue has. -/
def isExpected (v : Validator) (path : String) : Bool :=
  path.toList.head? = some '@' || v.catalogue.isKnown path

/-- Finds variables that are not in the catalogue. -/
def checkVariables (v : Validator) (shape : Shape) (path : String) : List Issue :=
  (shape.variableNames.filter (!v.isExpected ·)).map fun name =>
    { severity := .warning, rule := "unknown_variable",
      message := "Unknown variable '" ++ name ++ "'", path := path }

/-- Checks one content string of a section. -/
def checkField (v : Validator) (type : String) (field : String × String) : List Issue :=
  let path := "sections." ++ type ++ ".content." ++ field.1
  let shape := Shape.ofContent field.2
  checkLoops shape path ++ v.checkVariables shape path

/-- Checks one section. -/
def checkSection (v : Validator) (s : Section) : List Issue :=
  checkType s ++ checkColumns s ++ s.content.flatMap (v.checkField s.type)

/-- The issues of a template. -/
def validate (v : Validator) (t : Template) : Except ValidationFault (List Issue) := do
  let shared ← checkPositions t
  return checkEnabled t ++ shared ++ t.sections.flatMap v.checkSection ++ v.policy.check t

/-- Whether a template can be validated and has no errors. -/
def isUsable (v : Validator) (t : Template) : Bool :=
  match v.validate t with
  | .ok issues => !Issue.hasErrors issues
  | .error _ => false

end Validator

end InvoiceForms
