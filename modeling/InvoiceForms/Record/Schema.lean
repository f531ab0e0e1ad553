import InvoiceForms.Record.Codec
import InvoiceForms.Value.Pairs
import InvoiceForms.Value.Shown

/-!
# Records

A `Schema` describes a kind of record: its title, its fields in order, what happens to keys that are
no field, the record that absent fields start from, and a check of the whole. `Schema.read` reads a
record and reports the faults of all fields, then those of unknown keys; the check of the whole
comes only when there is none. A field is addressed by its key or, where the key is not given, by
its name. What a schema says of assignments is the matter of `InvoiceForms.Record.Assignment`.
-/

namespace InvoiceForms.Record

open InvoiceForms.Number InvoiceForms.Text

/-- A field of a record of type `ρ`. Reading it gives the change that stores the content. -/
structure RecordField (ρ : Type) where
  name : String
  key : String
  required : Bool
  read : Value → Read (ρ → ρ)
  dump : Naming → ρ → Json
  toValue : ρ → Value

namespace RecordField

variable {ρ α : Type}

/-- A field with a codec, a way to get its content and a way to put it. -/
def make (required : Bool) (name key : String) (codec : Codec α) (get : ρ → α)
    (put : α → ρ → ρ) : RecordField ρ where
  name := name
  key := key
  required := required
  read v := (codec.read v).map put
  dump naming r := codec.dump naming (get r)
  toValue r := codec.toValue (get r)

/-- A field that may be left out. -/
def optional (name key : String) (codec : Codec α) (get : ρ → α) (put : α → ρ → ρ) :
    RecordField ρ :=
  make false name key codec get put

/-- A field that has to be given. -/
def mandatory (name key : String) (codec : Codec α) (get : ρ → α) (put : α → ρ → ρ) :
    RecordField ρ :=
  make true name key codec get put

/-- The name of a field in a naming. -/
def nameIn (naming : Naming) (f : RecordField ρ) : String :=
  match naming with
  | .keys => f.key
  | .names => f.name

/-- The entry that a field takes: the one of its key, else the one of its name. -/
def source (f : RecordField ρ) (entries : Entries Value) : Option (String × Value) :=
  match entries.get? f.key with
  | some v => some (f.key, v)
  | none => (entries.get? f.name).map fun v => (f.name, v)

/-- Whether a field takes an entry with a key. -/
def takes (f : RecordField ρ) (entries : Entries Value) (key : String) : Bool :=
  (f.source entries).any (·.1 = key)

end RecordField

/-- What happens to the keys that are no field. -/
inductive Extras (ρ : Type)
  | forbid
  | ignore
  | keep (get : ρ → Entries Value) (put : Entries Value → ρ → ρ)

/-- A kind of record. Its records may be frozen; `assignsRead` says whether values assigned to
fields are read. The names in `constants` belong to the kind and those in `derived` to content
computed from the fields; neither can be assigned. -/
structure Schema (ρ : Type) where
  title : String
  fields : List (RecordField ρ)
  extras : Extras ρ
  blank : ρ
  prepare : Entries Value → Entries Value := id
  check : ρ → Except String Unit := fun _ => .ok ()
  frozen : Bool := false
  assignsRead : Bool := true
  constants : List String := []
  derived : List String := []

namespace Schema

variable {ρ : Type}

/-- Reads one field into a record, collecting faults. -/
def readField (entries : Entries Value) (f : RecordField ρ) (r : ρ) :
    Except Misuse (ρ × List Fault) :=
  match f.source entries with
  | none => .ok (r, if f.required then [⟨[.key f.key], .missing⟩] else [])
  | some (key, v) =>
    match f.read v with
    | .ok change => .ok (change r, [])
    | .error (.faults found) => .ok (r, found.map (·.under (.key key)))
    | .error (.misuse cause) => .error cause

/-- Reads fields one after another into a record, collecting faults. -/
def readFields (entries : Entries Value) : List (RecordField ρ) → ρ → Except Misuse (ρ × List Fault)
  | [], r => .ok (r, [])
  | f :: fs, r => do
    let (r, here) ← readField entries f r
    let (r, more) ← readFields entries fs r
    return (r, here ++ more)

/-- The entries that no field takes. -/
def leftover (s : Schema ρ) (entries : Entries Value) : Entries Value :=
  entries.filter fun e => !s.fields.any (·.takes entries e.1)

/-- Treats the entries that no field takes. -/
def readExtras (s : Schema ρ) (entries : Entries Value) (r : ρ) : ρ × List Fault :=
  match s.extras with
  | .forbid => (r, (s.leftover entries).map fun e => ⟨[.key e.1], .extraForbidden⟩)
  | .ignore => (r, [])
  | .keep _ put => (put (s.leftover entries) r, [])

/-- Holds a record to the check of the whole. -/
def checked (s : Schema ρ) (r : ρ) : Read ρ :=
  match s.check r with
  | .ok _ => .ok r
  | .error reason => refuse (.refused reason)

/-- Reads a record from its entries. -/
def readEntries (s : Schema ρ) (entries : Entries Value) : Read ρ :=
  match readFields entries s.fields s.blank with
  | .error cause => .error (.misuse cause)
  | .ok (r, found) =>
    let (r, more) := s.readExtras entries r
    if found ++ more = [] then s.checked r else .error (.faults (found ++ more))

/-- Whether keys that are no field are faults. -/
def forbidsExtras (s : Schema ρ) : Bool :=
  match s.extras with
  | .forbid => true
  | _ => false

/-- The step that names a key that is no text: an integer of 64 bits, or what it is in words. -/
def keyStep : Value → PathStep
  | .int n => if isWord n then .index n else .key (toString n)
  | .bool b => .index (if b then 1 else 0)
  | key => .key key.shown

/-- The fault of a key among entries: that it is no text, or that no field takes it. -/
def keyFault? (s : Schema ρ) (entries : Entries Value) : Value → Option Fault
  | .text key =>
    if s.forbidsExtras ∧ (s.leftover entries).has key then some ⟨[.key key], .extraForbidden⟩
    else none
  | key => some ⟨[keyStep key], .keyExpected⟩

/-- Reads a record from pairs. Their keys have to be texts; otherwise the record is refused, with
the faults of all keys in their order after those of the fields. -/
def readPairs (s : Schema ρ) (pairs : List (Value × Value)) : Read ρ :=
  let entries := Value.textEntries pairs
  if Value.haveTextKeys pairs then s.readEntries entries
  else
    match readFields entries s.fields s.blank with
    | .error cause => .error (.misuse cause)
    | .ok (_, found) =>
      .error (.faults (found ++ (Value.keysOf pairs).filterMap (s.keyFault? entries)))

/-- Reads a record: from a mapping, or from a record of the same kind. -/
def read (s : Schema ρ) : Value → Read ρ
  | .mapping entries => s.readEntries (s.prepare entries)
  | .record title fields extras =>
    if title = s.title then s.readEntries (fields ++ extras) else refuse (.recordExpected s.title)
  | _ => refuse (.recordExpected s.title)

/-- A rejection as a fault of data for this kind of record. -/
def faultOf (s : Schema ρ) (e : Rejection) : DataFault := e.forRecord s.title

/-- Reads a record, naming its kind in the faults. -/
def validate (s : Schema ρ) (v : Value) : Except DataFault ρ := (s.read v).mapError s.faultOf

/-- The entries of a record that are no field. -/
def extrasOf (s : Schema ρ) (r : ρ) : Entries Value :=
  match s.extras with
  | .keep get _ => get r
  | _ => []

/-- The members of a written record. -/
def members (s : Schema ρ) (naming : Naming) (r : ρ) : Entries Json :=
  s.fields.map (fun f => (f.nameIn naming, f.dump naming r)) ++
    (s.extrasOf r).mapValues Value.toJson

/-- A record as JSON. -/
def dump (s : Schema ρ) (naming : Naming) (r : ρ) : Json := .object (s.members naming r)

/-- A record as order data. -/
def toValue (s : Schema ρ) (r : ρ) : Value :=
  .record s.title (s.fields.map fun f => (f.name, f.toValue r)) (s.extrasOf r)

/-- What of a record cannot be written, if anything. -/
def undecodable? (s : Schema ρ) (r : ρ) : Option DecodeFault := (s.toValue r).undecodable?

/-- The codec of a kind of record. -/
def codec (s : Schema ρ) : Codec ρ where
  read := s.read
  dump := s.dump
  toValue := s.toValue

end Schema

end InvoiceForms.Record
