import InvoiceForms.Content.Warning
import InvoiceForms.Template.Layout

/-!
# Rendered documents

What rendering gives: sections with their fields filled in, the rows of tables under their columns,
and the warnings. It is layout data; drawing it is left to others.
-/

namespace InvoiceForms

open InvoiceForms.Number InvoiceForms.Record

/-- A column of a rendered table. -/
structure RenderedColumn where
  key : String
  label : Option String
  widthPercent : Double
deriving DecidableEq, Repr, Inhabited

/-- The schema of rendered columns. -/
def RenderedColumn.schema : Schema RenderedColumn where
  title := "RenderedColumn"
  fields := [
    .mandatory "key" "key" (.text .verbatim) (·.key) fun x r => { r with key := x },
    .optional "label" "label" (.optional (.text .verbatim)) (·.label)
      fun x r => { r with label := x },
    .mandatory "width_percent" "width_percent" (.double .none) (·.widthPercent)
      fun x r => { r with widthPercent := x }]
  extras := .ignore
  blank := default

/-- A rendered section, or one that was skipped. -/
structure RenderedSection where
  type : String
  position : Int
  fields : List (String × String) := []
  columns : List RenderedColumn := []
  rows : List (List String) := []
  skipped : Bool := false
  warnings : List Warning := []
deriving DecidableEq, Repr, Inhabited

/-- How a template was found: as asked for, as the default, or built in. -/
inductive SourceKind
  | explicit
  | default
  | builtin
deriving DecidableEq, Repr, Inhabited

namespace SourceKind

/-- All kinds of sources. -/
def all : List SourceKind := [explicit, default, builtin]

/-- The word for a kind of source. -/
def word : SourceKind → String
  | explicit => "explicit"
  | default => "default"
  | builtin => "builtin"

/-- A kind of source in data, or none. -/
def codec : Codec (Option SourceKind) := .optional (.choice all word)

end SourceKind

/-- A rendered document. -/
structure RenderedDocument where
  templateId : String
  templateName : String
  sourceKind : Option SourceKind
  layout : Layout
  sections : List RenderedSection
  warnings : List Warning
deriving DecidableEq, Repr, Inhabited

/-- A rendered column as JSON. -/
def RenderedColumn.toJson (c : RenderedColumn) : Json := schema.dump .names c

/-- A rendered section as JSON. -/
def RenderedSection.toJson (s : RenderedSection) : Json := .object [
  ("type", .text s.type), ("position", .int s.position),
  ("fields", .object (s.fields.map fun f => (f.1, .text f.2))),
  ("columns", .list (s.columns.map (·.toJson))), ("rows", .list (s.rows.map Json.ofTexts)),
  ("skipped", .bool s.skipped), ("warnings", .list (s.warnings.map (·.toJson)))]

namespace RenderedDocument

/-- The rendered section of a type. -/
def section? (d : RenderedDocument) (type : String) : Option RenderedSection :=
  d.sections.find? (·.type = type)

/-- A rendered document as JSON. -/
def toJson (d : RenderedDocument) : Json := .object [
  ("template_id", .text d.templateId), ("template_name", .text d.templateName),
  ("source_kind", .ofText? (d.sourceKind.map (·.word))),
  ("layout", Layout.schema.dump .names d.layout),
  ("sections", .list (d.sections.map (·.toJson))),
  ("warnings", .list (d.warnings.map (·.toJson)))]

end RenderedDocument

end InvoiceForms
