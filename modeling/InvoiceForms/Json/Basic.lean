import InvoiceForms.Json.Entries
import InvoiceForms.Number.Double

/-!
# JSON values

JSON with its two kinds of numbers kept apart: integers are exact and unbounded, numbers with a
fraction or an exponent are doubles. The doubles include infinities and NaN, which documents may
hold as words.
-/

namespace InvoiceForms

open InvoiceForms.Number

/-- A JSON value; the members of an object are ordered. -/
inductive Json
  | null
  | bool (b : Bool)
  | int (n : Int)
  | float (x : Double)
  | text (s : String)
  | list (items : List Json)
  | object (members : List (String × Json))
deriving Repr, Inhabited

namespace Json

/-- A text, or null when there is none. -/
def ofText? : Option String → Json
  | none => null
  | some s => text s

/-- A list of texts. -/
def ofTexts (items : List String) : Json := list (items.map text)

/-- A natural number. -/
def ofNat (n : Nat) : Json := int n

mutual

/-- Whether two values are the same; the order of members counts. -/
def same : Json → Json → Bool
  | null, null => true
  | bool a, bool b => a = b
  | int a, int b => a = b
  | float a, float b => a = b
  | text a, text b => a = b
  | list as, list bs => sameItems as bs
  | object as, object bs => sameMembers as bs
  | _, _ => false

/-- `same` on the items of lists. -/
def sameItems : List Json → List Json → Bool
  | [], [] => true
  | a :: as, b :: bs => same a b && sameItems as bs
  | _, _ => false

/-- `same` on the values of members, whose keys are the same too. -/
def sameMembers : List (String × Json) → List (String × Json) → Bool
  | [], [] => true
  | (k, a) :: as, (l, b) :: bs => k = l && same a b && sameMembers as bs
  | _, _ => false

end

mutual

/-- `same` decides equality. -/
theorem same_iff : ∀ a b : Json, same a b = true ↔ a = b
  | a, b => by
    cases a <;> cases b <;> simp [same, sameItems_iff, sameMembers_iff]

/-- `sameItems` decides equality. -/
theorem sameItems_iff : ∀ as bs : List Json, sameItems as bs = true ↔ as = bs
  | [], [] => by simp [sameItems]
  | [], _ :: _ => by simp [sameItems]
  | _ :: _, [] => by simp [sameItems]
  | a :: as, b :: bs => by simp [sameItems, same_iff a b, sameItems_iff as bs]

/-- `sameMembers` decides equality. -/
theorem sameMembers_iff :
    ∀ as bs : List (String × Json), sameMembers as bs = true ↔ as = bs
  | [], [] => by simp [sameMembers]
  | [], _ :: _ => by simp [sameMembers]
  | _ :: _, [] => by simp [sameMembers]
  | (k, a) :: as, (l, b) :: bs => by
    simp [sameMembers, same_iff a b, sameMembers_iff as bs, and_assoc]

end

instance : DecidableEq Json := fun a b => decidable_of_iff _ (same_iff a b)

end Json

end InvoiceForms
