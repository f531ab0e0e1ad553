import InvoiceForms.Content.Path
import InvoiceForms.Record.Schema

/-!
# Contexts

The data of one invoice that variables refer to, in six categories. The first segment of a path
names the category; a category alone is the whole of its data.
-/

namespace InvoiceForms

open InvoiceForms.Record InvoiceForms.Text

/-- The data of one invoice. -/
structure Context where
  company : Entries Value := []
  customer : Entries Value := []
  invoice : Entries Value := []
  order : Entries Value := []
  totals : Entries Value := []
  legal : Entries Value := []
deriving DecidableEq, Inhabited

namespace Context

/-- The schema of contexts. -/
def schema : Schema Context where
  title := "RenderContext"
  fields := [
    .optional "company" "company" .data (·.company) fun x r => { r with company := x },
    .optional "customer" "customer" .data (·.customer) fun x r => { r with customer := x },
    .optional "invoice" "invoice" .data (·.invoice) fun x r => { r with invoice := x },
    .optional "order" "order" .data (·.order) fun x r => { r with order := x },
    .optional "totals" "totals" .data (·.totals) fun x r => { r with totals := x },
    .optional "legal" "legal" .data (·.legal) fun x r => { r with legal := x }]
  extras := .forbid
  blank := {}
  frozen := true

/-- The data of a category. -/
def category? (ctx : Context) (name : List Char) : Option (Entries Value) :=
  match String.ofList name with
  | "company" => some ctx.company
  | "customer" => some ctx.customer
  | "invoice" => some ctx.invoice
  | "order" => some ctx.order
  | "totals" => some ctx.totals
  | "legal" => some ctx.legal
  | _ => none

/-- What stands at a path; null where there is nothing. -/
def lookup (ctx : Context) (path : String) : Except LookupFault Value :=
  let (name, rest) := path.toList.span (· ≠ '.')
  match ctx.category? name with
  | none => .ok .null
  | some entries =>
    let root := Value.mapping entries
    match rest.drop 1 with
    | [] => .ok root
    | remaining => root.lookup (String.ofList remaining)

/-- The categories as one mapping. -/
def toMapping (ctx : Context) : Value := .mapping [
  ("company", .mapping ctx.company), ("customer", .mapping ctx.customer),
  ("invoice", .mapping ctx.invoice), ("order", .mapping ctx.order),
  ("totals", .mapping ctx.totals), ("legal", .mapping ctx.legal)]

end Context

end InvoiceForms
