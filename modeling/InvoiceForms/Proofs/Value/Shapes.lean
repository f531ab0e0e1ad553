import InvoiceForms.Content.Context
import InvoiceForms.Content.Expansion
import InvoiceForms.Proofs.Json.Entries
import InvoiceForms.Proofs.Results

/-!
# Data of the same shape

Two values have the same shape when they differ in the texts at their leaves only: lists are equally
long, mappings have the same keys, and null stands where null stands. A path leads to values of the
same shape in both, or to nothing in both, or it is refused for both for the same reason.
-/

namespace InvoiceForms

open InvoiceForms.Results InvoiceForms.Text

namespace Value

/-- Whether a value is a leaf: it is not null and has no parts. -/
def isLeaf : Value → Bool
  | null => false
  | list _ => false
  | tuple _ => false
  | set _ => false
  | mapping _ => false
  | record .. => false
  | _ => true

/-- Values that differ in the texts at their leaves only; the order of entries does not matter. An
integer that is too long to be written out has no text, so it does not stand for a leaf that has
one. -/
inductive SameShape : Value → Value → Prop
  | null : SameShape null null
  | leaf {a b : Value} (left : a.isLeaf = true) (right : b.isLeaf = true)
      (written : a.isWritable = b.isWritable) : SameShape a b
  | list {as bs : List Value} (lengths : as.length = bs.length)
      (items : ∀ (i : Nat) (a b : Value), as[i]? = some a → bs[i]? = some b → SameShape a b) :
      SameShape (list as) (list bs)
  | mapping {es fs : Entries Value} (keys : ∀ key, es.has key = fs.has key)
      (values : ∀ key a b, es.get? key = some a → fs.get? key = some b → SameShape a b) :
      SameShape (mapping es) (mapping fs)

namespace SameShape

/-- Lists whose items have the same shapes, one by one. -/
theorem ofItems {as bs : List Value} (items : List.Forall₂ SameShape as bs) :
    SameShape (Value.list as) (Value.list bs) := by
  refine .list items.length_eq fun i a b left right => ?_
  obtain ⟨inside, rfl⟩ := List.getElem?_eq_some_iff.mp left
  obtain ⟨inside', rfl⟩ := List.getElem?_eq_some_iff.mp right
  exact items.get inside inside'

/-- Mappings whose entries have the same keys and values of the same shapes, one by one. -/
theorem ofEntries {es fs : Entries Value}
    (entries : List.Forall₂ (fun e f => e.1 = f.1 ∧ SameShape e.2 f.2) es fs) :
    SameShape (Value.mapping es) (Value.mapping fs) := by
  have found (key : String) : Option.Rel SameShape (es.get? key) (fs.get? key) := by
    induction entries with
    | nil => exact .none
    | @cons e f es fs entry entries ih =>
      rw [Entries.get?, Entries.get?, entry.1]
      split
      · exact .some entry.2
      · exact ih
  refine .mapping (fun key => ?_) fun key a b left right => ?_
  · have both := found key
    rw [Entries.has, Entries.has]
    generalize es.get? key = x at both ⊢
    generalize fs.get? key = y at both ⊢
    cases both <;> rfl
  · have both := found key
    rw [left, right] at both
    cases both with
    | some alike => exact alike

end SameShape

/-- Nothing is selected in a leaf. -/
theorem select?_of_isLeaf {v : Value} (leaf : v.isLeaf = true) (segment : List Char) :
    v.select? segment = .ok none := by
  cases v <;> first | rfl | cases leaf

variable {a b : Value}

theorem SameShape.select? (alike : SameShape a b) (segment : List Char) :
    Agree (Option.Rel SameShape) (a.select? segment) (b.select? segment) := by
  cases alike with
  | null => exact .result .none
  | leaf left right =>
    rw [select?_of_isLeaf left, select?_of_isLeaf right]
    exact .result .none
  | @list as bs lengths items =>
    rw [Value.select?, Value.select?, itemAt?, itemAt?]
    split
    · cases itemIndex segment with
      | error e => exact .fault e
      | ok n =>
        refine .result ?_
        change Option.Rel SameShape as[n]? bs[n]?
        by_cases inside : n < as.length
        · have inside' : n < bs.length := lengths ▸ inside
          rw [List.getElem?_eq_getElem inside, List.getElem?_eq_getElem inside']
          exact .some (items n _ _ (List.getElem?_eq_getElem inside)
            (List.getElem?_eq_getElem inside'))
        · have outside := Nat.le_of_not_lt inside
          rw [List.getElem?_eq_none outside, List.getElem?_eq_none (lengths ▸ outside)]
          exact .none
    · exact .result .none
  | @mapping es fs keys values =>
    refine .result ?_
    have both := keys (String.ofList segment)
    rw [Entries.has, Entries.has] at both
    cases left : es.get? (String.ofList segment) with
    | none =>
      rw [left, Option.isSome_none, eq_comm, Option.isSome_eq_false_iff, Option.isNone_iff_eq_none]
        at both
      rw [both]
      exact .none
    | some x =>
      rw [left, Option.isSome_some, eq_comm, Option.isSome_iff_exists] at both
      obtain ⟨y, right⟩ := both
      rw [right]
      exact .some (values _ x y left right)

/-- The induction is on the segments that are left. -/
theorem SameShape.walk? (alike : SameShape a b) (segments : List (List Char)) :
    Agree (Option.Rel SameShape) (walk? segments a) (walk? segments b) := by
  induction segments generalizing a b with
  | nil => exact .result (.some alike)
  | cons segment rest ih =>
    rw [Value.walk?, Value.walk?]
    split
    · exact .result .none
    · have both := alike.select? segment
      generalize a.select? segment = x at both ⊢
      generalize b.select? segment = y at both ⊢
      cases both with
      | fault e => exact .fault e
      | result found =>
        cases found with
        | none => exact .result .none
        | some next => exact ih next

theorem SameShape.lookup (alike : SameShape a b) (path : String) :
    Agree SameShape (a.lookup path) (b.lookup path) := by
  refine (alike.walk? _).map fun x y found => ?_
  cases found with
  | none => exact .null
  | some alike => exact alike

end Value

/-- Contexts whose categories have the same shapes. -/
structure Context.SameShape (ctx ctx' : Context) : Prop where
  company : (Value.mapping ctx.company).SameShape (.mapping ctx'.company)
  customer : (Value.mapping ctx.customer).SameShape (.mapping ctx'.customer)
  invoice : (Value.mapping ctx.invoice).SameShape (.mapping ctx'.invoice)
  order : (Value.mapping ctx.order).SameShape (.mapping ctx'.order)
  totals : (Value.mapping ctx.totals).SameShape (.mapping ctx'.totals)
  legal : (Value.mapping ctx.legal).SameShape (.mapping ctx'.legal)

namespace Context.SameShape

variable {ctx ctx' : Context}

/-- A category is known in both contexts or in none. -/
theorem category? (alike : ctx.SameShape ctx') (name : List Char) :
    Option.Rel (fun es fs => (Value.mapping es).SameShape (.mapping fs)) (ctx.category? name)
      (ctx'.category? name) := by
  rw [Context.category?, Context.category?]
  split
  · exact .some alike.company
  · exact .some alike.customer
  · exact .some alike.invoice
  · exact .some alike.order
  · exact .some alike.totals
  · exact .some alike.legal
  · exact .none

theorem lookup (alike : ctx.SameShape ctx') (path : String) :
    Agree Value.SameShape (ctx.lookup path) (ctx'.lookup path) := by
  simp only [Context.lookup]
  have both := alike.category? (path.toList.span (· ≠ '.')).1
  generalize ctx.category? (path.toList.span (· ≠ '.')).1 = x at both ⊢
  generalize ctx'.category? (path.toList.span (· ≠ '.')).1 = y at both ⊢
  cases both with
  | none => exact .result .null
  | some category =>
    cases (path.toList.span (· ≠ '.')).2.drop 1 with
    | nil => exact .result category
    | cons c remaining => exact category.lookup _

end Context.SameShape

end InvoiceForms
