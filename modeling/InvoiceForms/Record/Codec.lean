import InvoiceForms.Record.Coercion

/-!
# Types of fields

A `Codec` says what a field of a type takes and how its content is written: `read` takes any value,
`dump` gives JSON in one of two namings, and `toValue` gives the content back as order data. The
codecs of records are built in `InvoiceForms.Record.Schema` from the codecs of their fields.
-/

namespace InvoiceForms.Record

open InvoiceForms.Calendar InvoiceForms.Number InvoiceForms.Text

/-- Which names written records use: the keys of documents, or the names of fields. -/
inductive Naming
  | keys
  | names
deriving DecidableEq, Repr

/-- How content of a type is read and written. -/
structure Codec (α : Type) where
  read : Value → Read α
  dump : Naming → α → Json
  toValue : α → Value

namespace Codec

/-- A text under a rule. -/
def text (rule : TextRule) : Codec String where
  read := readText rule
  dump _ s := .text s
  toValue s := .text s

/-- A text that is read and then put into its normal form, or refused. -/
def textVia (rule : TextRule) (normal : String → Except String String) : Codec String where
  read v := do
    match normal (← readText rule v) with
    | .ok s => return s
    | .error reason => refuse (.refused reason)
  dump _ s := .text s
  toValue s := .text s

/-- A truth value. -/
def bool : Codec Bool where
  read := readBool
  dump _ b := .bool b
  toValue b := .bool b

/-- An integer within bounds. -/
def int (bounds : Bounds) : Codec Int where
  read v := do bounds.checkInt (← readInt v)
  dump _ n := .int n
  toValue n := .int n

/-- A double within bounds. -/
def double (bounds : Bounds) : Codec Double where
  read v := do bounds.checkDouble (← readDouble v)
  dump _ x := .float x
  toValue x := .float x

/-- A date. -/
def date : Codec Date where
  read := readDate
  dump _ d := .text d.toIso
  toValue d := .date d

/-- Content that may be absent: null stands for that. -/
def optional {α : Type} (c : Codec α) : Codec (Option α) where
  read
    | .null => .ok none
    | v => (c.read v).map some
  dump naming x := x.elim .null (c.dump naming)
  toValue x := x.elim .null c.toValue

/-- One of the values of a closed type, by its word. Words are taken as they are. -/
def choice {α : Type} (all : List α) (word : α → String) : Codec α where
  read
    | .text s =>
      match all.find? (word · = s) with
      | some x => .ok x
      | none => refuse (.notAmong (all.map word))
    | _ => refuse (.notAmong (all.map word))
  dump _ x := .text (word x)
  toValue x := .text (word x)

/-- A list with at least so many items. -/
def list {α : Type} (least : Nat) (c : Codec α) : Codec (List α) where
  read v :=
    match itemsOf? v with
    | none => refuse .listExpected
    | some items => do
      let xs ← readItems c.read 0 items
      if xs.length < least then refuse (.tooFewItems least xs.length) else return xs
  dump naming xs := .list (xs.map (c.dump naming))
  toValue xs := .list (xs.map c.toValue)

/-- A mapping of trimmed keys. -/
def mapping {α : Type} (c : Codec α) : Codec (Entries α) where
  read
    | .mapping entries => (readEntries c.read entries).map Entries.ofList
    | _ => refuse .mappingExpected
  dump naming m := .object (m.mapValues (c.dump naming))
  toValue m := .mapping (m.mapValues c.toValue)

/-- A mapping of data of any shape. -/
def data : Codec (Entries Value) where
  read
    | .mapping entries => .ok entries
    | _ => refuse .mappingExpected
  dump _ m := (Value.mapping m).toJson
  toValue m := .mapping m

end Codec

end InvoiceForms.Record
