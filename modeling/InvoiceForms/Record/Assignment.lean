import InvoiceForms.Record.Schema

/-!
# Assignments

Giving one field of an existing record a new value. A kind of record either reads the value, as it
would when it reads the record, or takes it unread. `Edited` is a record with the values it took
unread. Names that begin with an underscore are nobody's business: assigning them changes nothing.
-/

namespace InvoiceForms.Record

open InvoiceForms.Text

/-- A record, and the values that fields have taken unread since. -/
structure Edited (ρ : Type) where
  record : ρ
  unread : Entries Value := []

namespace Schema

variable {ρ : Type}

/-- A field of an edited record as JSON. -/
def dumpEditedField (naming : Naming) (r : Edited ρ) (f : RecordField ρ) : Json :=
  ((r.unread.get? f.name).map Value.toJson).getD (f.dump naming r.record)

/-- An edited record as JSON. -/
def dumpEdited (s : Schema ρ) (naming : Naming) (r : Edited ρ) : Json :=
  .object (s.fields.map (fun f => (f.nameIn naming, dumpEditedField naming r f)) ++
    (s.extrasOf r.record).mapValues Value.toJson)

/-- What of an edited record cannot be written, if anything. -/
def editedUndecodable? (s : Schema ρ) (r : Edited ρ) : Option DecodeFault :=
  Value.entriesUndecodable?
    (s.fields.map (fun f => (f.name, (r.unread.get? f.name).getD (f.toValue r.record))) ++
      s.extrasOf r.record)

/-- Unedited records are written as they are. -/
theorem dumpEdited_of_unread_nil (s : Schema ρ) (naming : Naming) (r : ρ) :
    s.dumpEdited naming ⟨r, []⟩ = s.dump naming r := rfl

/-- The result of an assignment: the record afterwards, and why the value was refused, if it was. -/
structure Assignment (ρ : Type) where
  result : Edited ρ
  refusal : Option AssignmentFault := none

/-- The names of computed content that every record has. -/
def commonDerived : List String := ["model_extra", "model_fields_set"]

/-- An assignment that is refused for one cause and changes nothing. -/
def refuseAssignment (s : Schema ρ) (r : Edited ρ) (name : String) (cause : Cause) :
    Assignment ρ :=
  ⟨r, some (.rejected (s.faultOf (.faults [⟨[.key name], cause⟩])))⟩

/-- Assigns a value to a field that reads it. A value that the field refuses leaves the record as it
is. A value that only the check of the whole refuses stays in the record. -/
def assignField (s : Schema ρ) (r : Edited ρ) (f : RecordField ρ) (v : Value) : Assignment ρ :=
  match f.read v with
  | .error e => ⟨r, some (.rejected (s.faultOf (e.under (.key f.name))))⟩
  | .ok change =>
    let changed := { r with record := change r.record }
    match s.checked changed.record with
    | .ok _ => ⟨changed, none⟩
    | .error e => ⟨changed, some (.rejected (s.faultOf e))⟩

/-- Assigns a value to a name that is no field, where values are read. Records that keep such names
take it as it is. -/
def assignExtra (s : Schema ρ) (r : Edited ρ) (name : String) (v : Value) : Assignment ρ :=
  match s.extras with
  | .keep get put => ⟨{ r with record := put ((get r.record).set name v) r.record }, none⟩
  | _ => s.refuseAssignment r name (.noSuchAttribute name)

/-- Assigns a value to a name that nothing stands against. -/
def assignName (s : Schema ρ) (r : Edited ρ) (name : String) (v : Value) : Assignment ρ :=
  match s.fields.find? (·.name = name), s.assignsRead with
  | some f, true => s.assignField r f v
  | none, true => s.assignExtra r name v
  | some f, false => ⟨{ r with unread := r.unread.set f.name v }, none⟩
  | none, false => ⟨r, some (.noField s.title name)⟩

/-- Assigns a value to a name. -/
def assign (s : Schema ρ) (r : Edited ρ) (name : String) (v : Value) : Assignment ρ :=
  if name ∈ s.constants then ⟨r, some (.constant s.title name)⟩
  else if name.toList.head? = some '_' then ⟨r, none⟩
  else if s.frozen then s.refuseAssignment r name .frozen
  else if name ∈ s.derived ++ commonDerived then ⟨r, some (.derived s.title name)⟩
  else s.assignName r name v

end Schema

end InvoiceForms.Record
