import InvoiceForms.Record.Schema
import InvoiceForms.Value.Pairs

/-!
# Sections

A section is one block of an invoice: named content strings, a position, and a switch. The kinds of
sections are fixed; one of them is a table with columns. A section of any other type is kept with
all its fields, so that it survives in documents, but is not rendered. `Section.ofPayload` builds
the variant that a type tag asks for.
-/

namespace InvoiceForms

open InvoiceForms.Number InvoiceForms.Record

/-- The kinds of sections without columns. -/
inductive PlainKind
  | header
  | legalInfo
  | customerInfo
  | invoiceInfo
  | totals
  | paymentInfo
  | footer
deriving DecidableEq, Repr, Inhabited

namespace PlainKind

/-- The type tag of a kind. -/
def tag : PlainKind → String
  | header => "header"
  | legalInfo => "legalInfo"
  | customerInfo => "customerInfo"
  | invoiceInfo => "invoiceInfo"
  | totals => "totals"
  | paymentInfo => "paymentInfo"
  | footer => "footer"

/-- The title of a kind's records. -/
def title : PlainKind → String
  | header => "HeaderSection"
  | legalInfo => "LegalInfoSection"
  | customerInfo => "CustomerInfoSection"
  | invoiceInfo => "InvoiceInfoSection"
  | totals => "TotalsSection"
  | paymentInfo => "PaymentInfoSection"
  | footer => "FooterSection"

end PlainKind

/-- The kinds of sections that are rendered. -/
inductive SectionKind
  | plain (kind : PlainKind)
  | productTable
deriving DecidableEq, Repr, Inhabited

namespace SectionKind

/-- All kinds. -/
def all : List SectionKind := [
  plain .header, plain .legalInfo, plain .customerInfo, plain .invoiceInfo, productTable,
  plain .totals, plain .paymentInfo, plain .footer]

/-- The type tag of a kind. -/
def tag : SectionKind → String
  | plain kind => kind.tag
  | productTable => "productTable"

/-- The kind with a type tag. -/
def ofTag? (tag : String) : Option SectionKind := all.find? (·.tag = tag)

end SectionKind

/-- The type tags of all kinds. -/
def sectionTags : List String := SectionKind.all.map (·.tag)

/-- A column of a table. -/
structure Column where
  enabled : Bool := true
  widthPercent : Double := .zero false
  label : Option String := none
deriving DecidableEq, Repr, Inhabited

/-- The schema of columns. -/
def Column.schema : Schema Column where
  title := "Column"
  fields := [
    .optional "enabled" "enabled" .bool (·.enabled) fun x r => { r with enabled := x },
    .optional "width_percent" "widthPercent" (.double (.upTo 100)) (·.widthPercent)
      fun x r => { r with widthPercent := x },
    .optional "label" "label" (.optional (.text (.upTo 128))) (·.label)
      fun x r => { r with label := x }]
  extras := .forbid
  blank := {}

/-- What a section is beyond its common fields: of a plain kind, a table, or of a type that is not
known, with fields that are not known either. -/
inductive Variant
  | plain (kind : PlainKind)
  | table (columns : List (String × Column))
  | unsupported (type : String) (extras : List (String × Value))
deriving DecidableEq, Inhabited

/-- A section of a template. -/
structure Section where
  variant : Variant
  enabled : Bool := true
  position : Int := 0
  content : Entries String := []
deriving DecidableEq, Inhabited

namespace Section

/-- The type tag of a section. -/
def type (s : Section) : String :=
  match s.variant with
  | .plain kind => kind.tag
  | .table _ => SectionKind.productTable.tag
  | .unsupported type _ => type

/-- Whether a section is a table. -/
def isTable (s : Section) : Bool :=
  match s.variant with
  | .table _ => true
  | _ => false

/-- The columns of a table; other sections have none. -/
def columns (s : Section) : Entries Column :=
  match s.variant with
  | .table columns => columns
  | _ => []

/-- Puts columns into a table. -/
def withColumns (columns : Entries Column) (s : Section) : Section :=
  match s.variant with
  | .table _ => { s with variant := .table columns }
  | _ => s

/-- Puts a type tag into a section of unknown type. -/
def withType (type : String) (s : Section) : Section :=
  match s.variant with
  | .unsupported _ extras => { s with variant := .unsupported type extras }
  | _ => s

/-- The unknown fields of a section. -/
def extras (s : Section) : Entries Value :=
  match s.variant with
  | .unsupported _ extras => extras
  | _ => []

/-- Puts unknown fields into a section of unknown type. -/
def withExtras (extras : Entries Value) (s : Section) : Section :=
  match s.variant with
  | .unsupported type _ => { s with variant := .unsupported type extras }
  | _ => s

/-- The type field of a kind, which can only hold its tag. -/
def fixedTag (tag : String) : RecordField Section :=
  .optional "type" "type" (.choice [tag] id) (·.type) fun _ r => r

/-- The fields of every section but its type. -/
def commonFields : List (RecordField Section) := [
  .optional "enabled" "enabled" .bool (·.enabled) fun x r => { r with enabled := x },
  .optional "position" "position" (.int .none) (·.position) fun x r => { r with position := x },
  .optional "content" "content" (.mapping (.text .free)) (·.content)
    fun x r => { r with content := x }]

/-- The names that belong to kinds of sections. -/
def constants : List String := ["is_table"]

/-- The schema of a plain kind. -/
def plainSchema (kind : PlainKind) : Schema Section where
  title := kind.title
  fields := fixedTag kind.tag :: commonFields
  extras := .forbid
  blank := { variant := .plain kind }
  constants := constants

/-- The schema of tables. -/
def tableSchema : Schema Section where
  title := "ProductTableSection"
  fields := fixedTag SectionKind.productTable.tag :: commonFields ++ [
    .optional "columns" "columns" (.mapping Column.schema.codec) columns withColumns]
  extras := .forbid
  blank := { variant := .table [] }
  constants := constants

/-- The fields of a section whose type is any text. -/
def openFields : List (RecordField Section) :=
  .mandatory "type" "type" (.text .free) type withType :: commonFields

/-- The schema of sections of unknown type. -/
def unsupportedSchema : Schema Section where
  title := "UnsupportedSection"
  fields := openFields
  extras := .keep extras withExtras
  blank := { variant := .unsupported "" [] }
  constants := constants

/-- The schema of what all sections have in common. -/
def commonSchema : Schema Section where
  title := "Section"
  fields := openFields
  extras := .forbid
  blank := { variant := .unsupported "" [] }
  constants := constants

/-- The schema of a kind. -/
def kindSchema : SectionKind → Schema Section
  | .plain kind => plainSchema kind
  | .productTable => tableSchema

/-- The schema that a type tag asks for. -/
def schemaOf (tag : String) : Schema Section :=
  ((SectionKind.ofTag? tag).map kindSchema).getD unsupportedSchema

/-- The schema of a section's variant. -/
def schema (s : Section) : Schema Section :=
  match s.variant with
  | .plain kind => plainSchema kind
  | .table _ => tableSchema
  | .unsupported .. => unsupportedSchema

/-- The schema of sections with a title. -/
def schemaTitled? (title : String) : Option (Schema Section) :=
  (SectionKind.all.map kindSchema ++ [unsupportedSchema, commonSchema]).find? (·.title = title)

/-- The schema that data is held to where any section will do: that of its own kind when it is a
section already, else what all have in common. -/
def schemaFor : Value → Schema Section
  | .record title .. => (schemaTitled? title).getD commonSchema
  | _ => commonSchema

/-- The type tag that counts: a given one, unless it is empty, else the one among entries. -/
def tagOf (entries : Entries Value) (given : Value) : Value :=
  if given.isTruthy then given else (entries.get? "type").getD .null

/-- Reads pairs with the schema of a type tag, which is put among them. -/
def readTagged (s : Schema Section) (pairs : List (Value × Value)) (tag : Value) :
    Except DataFault Section :=
  (s.readPairs (pairs ++ [(.text "type", tag)])).mapError s.faultOf

/-- The section that pairs describe, when a type tag is given or stands among them. -/
def ofPairs (pairs : List (Value × Value)) (given : Value) : Except DataFault Section :=
  let tag := tagOf (Value.textEntries pairs) given
  if tag.isTruthy then
    match tag.keyFault?, tag with
    | some cause, _ => .error (.misuse (.badKey cause))
    | none, .text name => readTagged (schemaOf name) pairs tag
    | none, _ => readTagged unsupportedSchema pairs tag
  else .error (.unusable "section type is required")

/-- The section that data describes. -/
def ofPayload (payload given : Value) : Except DataFault Section :=
  match payload.pairs with
  | .error e => .error (.ofPairs e)
  | .ok pairs => ofPairs pairs given

/-- A section as it stands in a document, under its type tag. -/
def toDocument (s : Section) : Json := .object ((s.schema.members .keys s).erase "type")

/-- A section as JSON. -/
def dump (naming : Naming) (s : Section) : Json := s.schema.dump naming s

end Section

end InvoiceForms
