import InvoiceForms.Invoice.Facts

/-!
# Sample data

An invented company, customer and order for previews and examples.
-/

namespace InvoiceForms.Sample

open InvoiceForms.Calendar InvoiceForms.Number InvoiceForms.Record

/-- The sample company. -/
def company : Company where
  name := "Glücksmomente Manufaktur"
  address := {
    street := some "Musterstraße 123", postalCode := some "12345", city := some "Musterstadt" }
  contact := {
    phone := some "+49 123 456789"
    email := some "info@gluecksmomente-manufaktur.de"
    website := some "www.gluecksmomente-manufaktur.de" }
  taxInfo := { taxNumber := some "12/345/67890", vatId := some "DE123456789" }

/-- The sample customer. -/
def customer : Customer where
  name := "Max Mustermann"
  email := some "max@example.com"
  address := {
    street := some "Beispielstraße 456", postalCode := some "98765", city := some "Beispielstadt" }

/-- An amount of cents. -/
def cents (n : Nat) : Double := .ofDecimal false n (-2)

/-- The sample order on a day. -/
def order (today : Date) : Order where
  number := "ORD-2025-001"
  orderDate := today
  items := [
    { name := "Lavendel Handseife"
      description := some "Natürliche Handseife mit Lavendelduft"
      quantity := .ofInt 2
      unitPrice := cents 899 },
    { name := "Rosenseife Premium"
      description := some "Luxuriöse Seife mit Rosenöl"
      quantity := .ofInt 1
      unitPrice := cents 1299 }]
  shipping := cents 499

/-- The sample invoice on a day, in the language that data names. -/
def invoice (today : Date) (language : Value) : Except DataFault Invoice :=
  Invoice.schema.validate (.mapping [
    ("number", .text "RE-2025-001"), ("invoice_date", .date today), ("language", language)])

/-- The context of the sample invoice of a company. -/
def context (today : Date) (company : Company) (invoice : Invoice) :
    Except InvoiceFault Context :=
  Context.ofInvoice company customer (order today) invoice

/-- The day of the sample request. -/
def requestDay : Date := (Date.of? 2025 1 15).getD default

/-- The members of a record that are not null. -/
def presentMembers (members : Entries Json) : Entries Json :=
  members.filter fun m =>
    match m.2 with
    | .null => false
    | _ => true

/-- A sample request. -/
def request : Json := .object [
  ("template_id", .null),
  ("company", Company.schema.dump .keys company),
  ("customer", Customer.schema.dump .keys customer),
  ("order", Order.schema.dump .keys (order requestDay)),
  ("invoice", .object (presentMembers (Invoice.schema.members .keys
    { number := "RE-2025-001", invoiceDate := requestDay })))]

end InvoiceForms.Sample
