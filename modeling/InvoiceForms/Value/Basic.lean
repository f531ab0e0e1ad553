import InvoiceForms.Calendar.Moment
import InvoiceForms.Json.Basic
import InvoiceForms.Number.Decimal
import InvoiceForms.Text.Encoding

/-!
# Order data

`Value` is the one type of data whose shape is not known in advance: what content strings refer to,
what records are read from, and the unknown fields of a section. It has more kinds than JSON.
`Value.ofJson` takes a JSON value in; `Value.toJson` gives the JSON form of any value, which is a
loss for the kinds that JSON does not have. A value with bytes that are no text is not to be written
at all; `Value.undecodable?` finds them.
-/

namespace InvoiceForms

open InvoiceForms.Calendar InvoiceForms.Number InvoiceForms.Text

/-- Data of any shape. A record has the title of its kind, its fields, and further fields that its
kind does not name. -/
inductive Value
  | null
  | bool (b : Bool)
  | int (n : Int)
  | float (x : Double)
  | text (s : String)
  | decimal (x : Decimal)
  | date (d : Date)
  | moment (m : Moment)
  | clock (c : Clock)
  | bytes (bs : List UInt8)
  | list (items : List Value)
  | tuple (items : List Value)
  | set (items : List Value)
  | mapping (entries : List (String × Value))
  | record (title : String) (fields : List (String × Value)) (extras : List (String × Value))
deriving Inhabited

namespace Value

mutual

/-- The value that a JSON value is. -/
def ofJson : Json → Value
  | .null => null
  | .bool b => bool b
  | .int n => int n
  | .float x => float x
  | .text s => text s
  | .list items => list (ofItems items)
  | .object members => mapping (ofMembers members)

/-- `ofJson` on the items of a list. -/
def ofItems : List Json → List Value
  | [] => []
  | x :: xs => ofJson x :: ofItems xs

/-- `ofJson` on the values of members. -/
def ofMembers : List (String × Json) → List (String × Value)
  | [] => []
  | (key, x) :: members => (key, ofJson x) :: ofMembers members

end

/-- The text that bytes encode; bytes that encode none have the empty text. -/
def textOfBytes (bs : List UInt8) : String :=
  (String.fromUTF8? ⟨bs.toArray⟩).getD ""

/-- The words of a field's name joined, where each after the first starts with a capital letter. -/
def joinWords : List Char → List Char
  | [] => []
  | '_' :: c :: cs => c.toUpper :: joinWords cs
  | c :: cs => c :: joinWords cs

/-- The key of a field in documents. -/
def fieldKey (name : String) : String := String.ofList (joinWords name.toList)

/-- The name of the field that holds a width, which is a double. -/
def widthName : String := "width_percent"

/-- The JSON form of a width, given that of its value: the integer zero stands for a width that
nobody gave, and is written as a double all the same. -/
def widthJson : Json → Json
  | .int n => .float (.ofInt n)
  | j => j

mutual

/-- The JSON form of a value. A double that is no number becomes null; kinds that JSON does not have
become texts, lists or objects. The fields of a record stand under their keys. -/
def toJson : Value → Json
  | null => .null
  | bool b => .bool b
  | int n => .int n
  | float x => if x.isFinite then .float x else .null
  | text s => .text s
  | decimal x => .text x.toText
  | date d => .text d.toIso
  | moment m => .text m.toWire
  | clock c => .text c.toWire
  | bytes bs => .text (textOfBytes bs)
  | list items => .list (toItems items)
  | tuple items => .list (toItems items)
  | set items => .list (toItems items)
  | mapping entries => .object (toMembers entries)
  | record _ fields extras => .object (toFieldMembers fields ++ toMembers extras)

/-- `toJson` on the items of a list. -/
def toItems : List Value → List Json
  | [] => []
  | x :: xs => toJson x :: toItems xs

/-- `toJson` on the values of entries. -/
def toMembers : List (String × Value) → List (String × Json)
  | [] => []
  | (key, x) :: entries => (key, toJson x) :: toMembers entries

/-- `toJson` on the contents of fields, under their keys. -/
def toFieldMembers : List (String × Value) → List (String × Json)
  | [] => []
  | (name, x) :: fields =>
    (fieldKey name, if name = widthName then widthJson (toJson x) else toJson x) ::
      toFieldMembers fields

end

mutual

/-- The first bytes in a value that encode no text, so that the value cannot be written. -/
def undecodable? : Value → Option DecodeFault
  | bytes bs => malformed? bs
  | list items => itemsUndecodable? items
  | tuple items => itemsUndecodable? items
  | set items => itemsUndecodable? items
  | mapping entries => entriesUndecodable? entries
  | record _ fields extras =>
    (entriesUndecodable? fields).orElse fun _ => entriesUndecodable? extras
  | _ => none

/-- `undecodable?` on the items of a list. -/
def itemsUndecodable? : List Value → Option DecodeFault
  | [] => none
  | x :: xs => (undecodable? x).orElse fun _ => itemsUndecodable? xs

/-- `undecodable?` on the values of entries. -/
def entriesUndecodable? : List (String × Value) → Option DecodeFault
  | [] => none
  | (_, x) :: entries => (undecodable? x).orElse fun _ => entriesUndecodable? entries

end

mutual

/-- Whether two values are the same. -/
def same : Value → Value → Bool
  | null, null => true
  | bool a, bool b => a = b
  | int a, int b => a = b
  | float a, float b => a = b
  | text a, text b => a = b
  | decimal a, decimal b => a = b
  | date a, date b => a = b
  | moment a, moment b => a = b
  | clock a, clock b => a = b
  | bytes a, bytes b => a = b
  | list as, list bs => sameItems as bs
  | tuple as, tuple bs => sameItems as bs
  | set as, set bs => sameItems as bs
  | mapping as, mapping bs => sameEntries as bs
  | record a fields extras, record b fields' extras' =>
    a = b && sameEntries fields fields' && sameEntries extras extras'
  | _, _ => false

/-- `same` on the items of lists. -/
def sameItems : List Value → List Value → Bool
  | [], [] => true
  | a :: as, b :: bs => same a b && sameItems as bs
  | _, _ => false

/-- `same` on the values of entries, whose keys are the same too. -/
def sameEntries : List (String × Value) → List (String × Value) → Bool
  | [], [] => true
  | (k, a) :: as, (l, b) :: bs => k = l && same a b && sameEntries as bs
  | _, _ => false

end

mutual

/-- `same` decides equality. -/
theorem same_iff : ∀ a b : Value, same a b = true ↔ a = b
  | a, b => by
    cases a <;> cases b <;> simp [same, sameItems_iff, sameEntries_iff, and_assoc]

/-- `sameItems` decides equality. -/
theorem sameItems_iff : ∀ as bs : List Value, sameItems as bs = true ↔ as = bs
  | [], [] => by simp [sameItems]
  | [], _ :: _ => by simp [sameItems]
  | _ :: _, [] => by simp [sameItems]
  | a :: as, b :: bs => by simp [sameItems, same_iff a b, sameItems_iff as bs]

/-- `sameEntries` decides equality. -/
theorem sameEntries_iff :
    ∀ as bs : List (String × Value), sameEntries as bs = true ↔ as = bs
  | [], [] => by simp [sameEntries]
  | [], _ :: _ => by simp [sameEntries]
  | _ :: _, [] => by simp [sameEntries]
  | (k, a) :: as, (l, b) :: bs => by
    simp [sameEntries, same_iff a b, sameEntries_iff as bs, and_assoc]

end

instance : DecidableEq Value := fun a b => decidable_of_iff _ (same_iff a b)

/-- A text, or null when there is none. -/
def ofText? : Option String → Value
  | none => null
  | some s => text s

/-- A natural number. -/
def ofNat (n : Nat) : Value := int n

/-- What a name gives of a value: records have their fields and then their further fields, and
nothing else has any. -/
def attribute? (name : String) : Value → Option Value
  | record _ fields extras => Entries.get? name (fields ++ extras)
  | _ => none

/-- Whether a value counts as present: null, false, zero and empty values do not. -/
def isTruthy : Value → Bool
  | null => false
  | bool b => b
  | int n => n ≠ 0
  | float x => !x.same (.zero false)
  | text s => s ≠ ""
  | decimal (.finite _ c _) => c ≠ 0
  | bytes bs => !bs.isEmpty
  | list items => !items.isEmpty
  | tuple items => !items.isEmpty
  | set items => !items.isEmpty
  | mapping entries => !entries.isEmpty
  | _ => true

end Value

end InvoiceForms
