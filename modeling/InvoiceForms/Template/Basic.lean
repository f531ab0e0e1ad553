import InvoiceForms.Template.Company
import InvoiceForms.Template.Id
import InvoiceForms.Template.Layout
import InvoiceForms.Template.Section

/-!
# Templates

A template is a company, a layout and a list of sections, at most one of each type. In data its
sections are a list, or a mapping from type tags. `Template.toDocument` is the form that stores
keep: a mapping from type tags, without the flag that says which template is the default, since
stores keep that elsewhere. `Template.ofDocument` reads it back with the flag given from outside.
-/

namespace InvoiceForms

open InvoiceForms.Record

/-- A template. -/
structure Template where
  id : String
  name : String
  isDefault : Bool := false
  company : Company
  layout : Layout := {}
  sections : List Section := []
deriving DecidableEq, Inhabited

namespace Template

/-- The id, or why it is of no use. -/
def usableId (id : String) : Except String String :=
  if TemplateId.isValid id then .ok id
  else .error ("template id '" ++ id ++ "' cannot be used as a file name")

/-- What the id field demands. -/
def idRule : TextRule :=
  ⟨true, 1, some 128, some ⟨TemplateId.pattern, TemplateId.isIdText⟩⟩

/-- A fault of a section as a fault of the field that holds the sections. -/
def rejectionOf : DataFault → Rejection
  | .invalid cause => .faults cause.faults
  | .unusable reason => .faults [⟨[], .refused reason⟩]
  | .misuse cause => .misuse cause

/-- The section that an entry of a list is or describes. -/
def sectionOfEntry (entry : Value) : Read Section :=
  let described := (Section.ofPayload entry .null).mapError rejectionOf
  match entry with
  | .record title fields extras =>
    match Section.schemaTitled? title with
    | some s => s.readEntries (fields ++ extras)
    | none => described
  | _ => described

/-- The sections that data describes: none, a mapping from type tags, or a list. The first unusable
one ends the reading. -/
def readSections : Value → Read (List Section)
  | .null => .ok []
  | .mapping entries =>
    entries.mapM fun e => (Section.ofPayload e.2 (.text e.1)).mapError rejectionOf
  | v =>
    match v.items? with
    | some items => items.mapM sectionOfEntry
    | none => .error (.misuse (.notIterable v.kindName))

/-- What the field of the sections takes. -/
def sectionsCodec : Codec (List Section) where
  read := readSections
  dump naming sections := .list (sections.map (·.dump naming))
  toValue sections := .list (sections.map fun s => s.schema.toValue s)

/-- The first type that two sections of a list share. -/
def duplicateType? (seen : List String) : List Section → Option String
  | [] => none
  | s :: rest => if s.type ∈ seen then some s.type else duplicateType? (s.type :: seen) rest

/-- Holds a template to one section of each type. -/
def checkTypes (t : Template) : Except String Unit :=
  match duplicateType? [] t.sections with
  | some type => .error ("duplicate section type '" ++ type ++ "'")
  | none => .ok ()

/-- The schema of templates. -/
def schema : Schema Template where
  title := "Template"
  fields := [
    .mandatory "id" "id" (.textVia idRule usableId) (·.id) fun x r => { r with id := x },
    .mandatory "name" "name" (.text (.from1To 256)) (·.name) fun x r => { r with name := x },
    .optional "is_default" "isDefault" .bool (·.isDefault) fun x r => { r with isDefault := x },
    .mandatory "company_info" "companyInfo" Company.schema.codec (·.company)
      fun x r => { r with company := x },
    .optional "layout" "layout" Layout.schema.codec (·.layout) fun x r => { r with layout := x },
    .optional "sections" "sections" sectionsCodec (·.sections)
      fun x r => { r with sections := x }]
  extras := .forbid
  blank := { id := "", name := "", company := { name := "" } }
  check := checkTypes

/-- The section of a type. -/
def section? (t : Template) (type : String) : Option Section :=
  t.sections.find? (·.type = type)

/-- The sections that are switched on. -/
def enabledSections (t : Template) : List Section := t.sections.filter (·.enabled)

/-- A template as stores keep it. -/
def toDocument (t : Template) : Json :=
  .object ((((schema.members .keys t).erase "isDefault").erase "sections").set "sections"
    (.object (Entries.ofList (t.sections.map fun s => (s.type, s.toDocument)))))

/-- The names of the flag in data. -/
def flagNames : List String := ["isDefault", "is_default"]

/-- The pairs of a document with a flag in place of its own. -/
def withFlag (flag : Value) (pairs : List (Value × Value)) : List (Value × Value) :=
  pairs.filter (fun p => p.1 ∉ flagNames.map Value.text) ++ [(.text "isDefault", flag)]

/-- Reads a document with a flag in data; a flag inside the document does not count. -/
def ofDocumentWith (document flag : Value) : Except DataFault Template :=
  match document.pairs with
  | .ok pairs => (schema.readPairs (withFlag flag pairs)).mapError schema.faultOf
  | .error e => .error (.ofPairs e)

/-- Reads a document with a flag. -/
def ofDocument (document : Value) (isDefault : Bool) : Except DataFault Template :=
  ofDocumentWith document (.bool isDefault)

/-- What listings show of a template. -/
structure Summary where
  id : String
  name : String
  isDefault : Bool
  company : String
  sections : Nat
  enabledSections : Nat
deriving DecidableEq, Repr, Inhabited

/-- What listings show of a template. -/
def summary (t : Template) : Summary where
  id := t.id
  name := t.name
  isDefault := t.isDefault
  company := t.company.name
  sections := t.sections.length
  enabledSections := t.enabledSections.length

/-- A summary as JSON. -/
def Summary.toJson (s : Summary) : Json := .object [
  ("id", .text s.id), ("name", .text s.name), ("is_default", .bool s.isDefault),
  ("company", .text s.company), ("sections", .ofNat s.sections),
  ("enabled_sections", .ofNat s.enabledSections)]

/-- A template as JSON, with the flag. -/
def dump (t : Template) : Json := schema.dump .keys t

end Template

end InvoiceForms
