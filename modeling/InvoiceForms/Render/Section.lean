import InvoiceForms.Content.Context
import InvoiceForms.Content.Expansion
import InvoiceForms.Journal.Entry
import InvoiceForms.Render.Rendered
import InvoiceForms.Template.Section

/-!
# Rendering sections

A `Renderer` knows the section types it supports. `Renderer.render` expands the content strings of a
section in order. A section that is switched off or of another type is skipped with a warning. The
rows of a table come from the first content string whose loop has any; each row is cut or filled up
to the number of columns, and the cells of disabled columns are left out. A section of unknown type
that is supported all the same may have columns among its fields; they are rendered as far as they
are like columns.
-/

namespace InvoiceForms

open InvoiceForms.Record InvoiceForms.Text

/-- Why a section cannot be rendered. A section of unknown type may carry columns that are none:
they lack something that is asked of them, have something else in its place, or hold what a rendered
column cannot. -/
inductive SectionFault
  | lookup (cause : LookupFault)
  | noAttribute (kind name : String)
  | notCallable (kind : String)
  | rejected (cause : DataFault)
deriving DecidableEq, Repr

/-- The reason in words. -/
def SectionFault.message : SectionFault → String
  | lookup cause => cause.message
  | noAttribute kind name => "'" ++ kind ++ "' object has no attribute '" ++ name ++ "'"
  | notCallable kind => "'" ++ kind ++ "' object is not callable"
  | rejected cause => cause.message

/-- The section types that are rendered. -/
structure Renderer where
  supported : List String := sectionTags
deriving DecidableEq, Repr, Inhabited

namespace Renderer

/-- The renderer for the section types that a value lists; for all kinds when there is no value. -/
def ofListing : Value → Except Misuse Renderer
  | .null => .ok {}
  | v =>
    match v.items? with
    | none => .error (.notIterable v.kindName)
    | some items =>
      match Value.firstKeyFault? items with
      | some cause => .error (.badKey cause)
      | none =>
        .ok { supported := items.filterMap fun item =>
          match item with
          | .text type => some type
          | _ => none }

/-- Whether a section type is rendered. -/
def supports (r : Renderer) (type : String) : Bool := decide (type ∈ r.supported)

/-- A skipped section. -/
def skip (s : Section) (warning : Warning) : RenderedSection where
  type := s.type
  position := s.position
  skipped := true
  warnings := [warning.inSection s.type]

/-- The expansions of content strings, in order. -/
def expandFields (lookup : Lookup) :
    List (String × String) → Except LookupFault (List (String × Expansion))
  | [] => .ok []
  | (key, content) :: rest => do
    let e ← Expansion.ofContent lookup content
    return (key, e) :: (← expandFields lookup rest)

/-- The cells of the first loop that gave any rows. -/
def rowCells : List (String × Expansion) → List (List String)
  | [] => []
  | (_, e) :: rest => if e.hasLoop ∧ e.cells ≠ [] then e.cells else rowCells rest

/-- Cells cut or filled up to a number. -/
def fitCells (n : Nat) (cells : List String) : List String :=
  (cells ++ List.replicate n "").take n

/-- The cells of the enabled columns. -/
def enabledCells : List String → List Column → List String
  | cell :: cells, column :: columns =>
    if column.enabled then cell :: enabledCells cells columns else enabledCells cells columns
  | _, _ => []

/-- A row of a table. -/
def tableRow (columns : List Column) (cells : List String) : List String :=
  let trimmed := cells.map trimBlank
  if columns.isEmpty then trimmed
  else if trimmed.length = columns.length then enabledCells trimmed columns
  else enabledCells (fitCells columns.length trimmed) columns

/-- The warning about the number of cells in a row, if it does not fit. -/
def rowWarnings (columns : List Column) (number : Nat) (cells : List String) : List Warning :=
  if columns.isEmpty ∨ cells.length = columns.length then []
  else [.rowShape number cells.length columns.length]

/-- The warnings about rows, numbered from `number`. -/
def rowsWarnings (columns : List Column) (number : Nat) : List (List String) → List Warning
  | [] => []
  | cells :: rest =>
    rowWarnings columns number cells ++ rowsWarnings columns (number + 1) rest

/-- The enabled columns as they are rendered. -/
def renderedColumns (columns : Entries Column) : List RenderedColumn :=
  (columns.filter (·.2.enabled)).map fun c => ⟨c.1, c.2.label, c.2.widthPercent⟩

/-- What a name gives of a value, where it has to be there. -/
def demand (name : String) (v : Value) : Except SectionFault Value :=
  (v.attribute? name).elim (.error (.noAttribute v.kindName name)) .ok

/-- A column of unknown data as it is rendered, if it is enabled. -/
def looseColumn? (key : String) (column : Value) : Except SectionFault (Option RenderedColumn) := do
  if (← demand "enabled" column).isTruthy then
    let label ← demand "label" column
    let width ← demand "width_percent" column
    let entries := [("key", .text key), ("label", label), ("width_percent", width)]
    return some (← (RenderedColumn.schema.validate (.mapping entries)).mapError .rejected)
  return none

/-- The enabled columns among entries of unknown data. -/
def looseColumnsFrom : Entries Value → Except SectionFault (List RenderedColumn)
  | [] => .ok []
  | (key, column) :: rest => do
    let here ← looseColumn? key column
    return here.toList ++ (← looseColumnsFrom rest)

/-- The columns that a section of unknown type carries. -/
def looseColumns (s : Section) : Except SectionFault (List RenderedColumn) := do
  let columns := (s.extras.get? "columns").getD .null
  if columns.isTruthy then
    match columns with
    | .mapping entries => looseColumnsFrom entries
    | other => .error (.notCallable (← demand "items" other).kindName)
  else return []

/-- Renders an enabled section of a supported type. -/
def renderEnabled (s : Section) (ctx : Context) : Except SectionFault RenderedSection := do
  let expansions ← (expandFields ctx.lookup s.content).mapError .lookup
  let loose ← looseColumns s
  let columns := s.columns.values
  let cells := if s.isTable then rowCells expansions else []
  let warnings := expansions.flatMap (·.2.warnings) ++ rowsWarnings columns 1 cells
  return {
    type := s.type
    position := s.position
    fields := expansions.map fun e => (e.1, e.2.text)
    columns := renderedColumns s.columns ++ loose
    rows := cells.map (tableRow columns)
    warnings := warnings.map (·.inSection s.type) }

/-- Renders a section. -/
def render (r : Renderer) (s : Section) (ctx : Context) : Except SectionFault RenderedSection :=
  if !s.enabled then .ok (skip s (.disabledSection s.type))
  else if !r.supports s.type then .ok (skip s (.unsupportedSection s.type))
  else renderEnabled s ctx

/-- What the journal says of a rendered section. -/
def journal (s : RenderedSection) : List JournalEntry :=
  if s.skipped then []
  else
    [{ level := .debug, origin := "invoice_templates.rendering.sections",
       message := "Rendered section " ++ s.type,
       details := [("fields", .ofNat s.fields.length), ("rows", .ofNat s.rows.length),
         ("warnings", .ofNat s.warnings.length)] }]

end Renderer

end InvoiceForms
