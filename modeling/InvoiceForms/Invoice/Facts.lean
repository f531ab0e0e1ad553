import InvoiceForms.Content.Context
import InvoiceForms.Invoice.Format

/-!
# The context of an invoice

`Context.ofInvoice` computes the totals of an order and writes every value that variables refer to.
VAT applies to the items only; shipping comes on top untaxed. A small business charges no VAT and
carries a note instead. The due date is the given one, or so many days after the invoice date as the
company grants. There may be no such day, and terms that would name the number of days may have too
many digits to write; these are the only ways to fail.
-/

namespace InvoiceForms

open InvoiceForms.Calendar InvoiceForms.Number InvoiceForms.Record

/-- Why there is no due date. -/
inductive DueDateFault
  | countTooLarge
  | tooManyDays (days : Int)
  | outsideCalendar
deriving DecidableEq, Repr

/-- The reason in words. -/
def DueDateFault.message : DueDateFault → String
  | countTooLarge => "Python int too large to convert to C int"
  | tooManyDays days => "days=" ++ toString days ++ "; must have magnitude <= 999999999"
  | outsideCalendar => "date value out of range"

/-- Why an invoice has no context: there is no due date, or its payment terms would name a number of
days that cannot be written out. -/
inductive InvoiceFault
  | dueDate (cause : DueDateFault)
  | unwritableDays
deriving DecidableEq, Repr

/-- The reason in words. -/
def InvoiceFault.message : InvoiceFault → String
  | dueDate cause => cause.message
  | unwritableDays => Json.unwritableIntegerMessage

/-- The amounts of an invoice. -/
structure Totals where
  net : Double
  vatRate : Double
  vat : Double
  shipping : Double
  grand : Double
deriving DecidableEq, Repr

/-- The amounts of an order by a company, rounded to cents. -/
def Totals.of (company : Company) (order : Order) : Totals :=
  let net := order.subtotal
  let vatRate := if company.smallBusiness then .zero false else order.vatRate
  let vat := (net * vatRate).roundPlaces 2
  let shipping := order.shipping.roundPlaces 2
  ⟨net, vatRate, vat, shipping, (net + vat + shipping).roundPlaces 2⟩

/-- The date a number of days after another. -/
def dateAfter (d : Date) (days : Int) : Except DueDateFault Date :=
  if 2147483647 < days then .error .countTooLarge
  else if 999999999 < days then .error (.tooManyDays days)
  else
    match d.addDays? days with
    | some due => .ok due
    | none => .error .outsideCalendar

/-- The due date of an invoice. -/
def dueDate (company : Company) (invoice : Invoice) : Except DueDateFault Date :=
  match invoice.dueDate with
  | some d => .ok d
  | none => dateAfter invoice.invoiceDate company.paymentTermsDays

/-- The payment terms that stand for a number of days. -/
def defaultPaymentTerms (language : Language) (days : Int) : String :=
  match language with
  | .de => "Zahlbar innerhalb von " ++ toString days ++ " Tagen ohne Abzug."
  | .en => "Payable within " ++ toString days ++ " days without deduction."

/-- The note of small businesses. -/
def exemptionNote : Language → String
  | .de => "Gemäß § 19 UStG wird keine Umsatzsteuer berechnet."
  | .en => "According to section 19 UStG (German VAT law), no VAT is charged."

/-- A text that is there and not empty. -/
def presentText? (s : Option String) : Option String := s.filter (· ≠ "")

/-- The payment terms of an invoice: the given ones, or those that stand for the days that the
company grants. -/
def paymentTerms (company : Company) (invoice : Invoice) : Except InvoiceFault String :=
  match presentText? invoice.paymentTerms with
  | some terms => .ok terms
  | none =>
    if (Value.int company.paymentTermsDays).isWritable then
      .ok (defaultPaymentTerms invoice.language company.paymentTermsDays)
    else .error .unwritableDays

/-- What variables say of one item. -/
def productEntry (money : Double → String) (position : Nat) (item : LineItem) : Value := .mapping [
  ("position", .ofNat position), ("name", .text item.name),
  ("description", .text (item.description.getD "")),
  ("quantity", .text (Format.quantity item.quantity)), ("unit", .text item.unit),
  ("unitPrice", .text (money item.unitPrice)), ("total", .text (money item.total))]

/-- What variables say of items, numbered from `position`. -/
def productEntries (money : Double → String) (position : Nat) : List LineItem → List Value
  | [] => []
  | item :: items =>
    productEntry money position item :: productEntries money (position + 1) items

/-- The entries of a record in a document. -/
def documentData {ρ : Type} (s : Schema ρ) (r : ρ) : Entries Value :=
  Value.ofMembers (s.members .keys r)

/-- The context of an invoice. -/
def Context.ofInvoice (company : Company) (customer : Customer) (order : Order)
    (invoice : Invoice) : Except InvoiceFault Context := do
  let due ← (dueDate company invoice).mapError .dueDate
  let terms ← paymentTerms company invoice
  let language := invoice.language.tag
  let style := invoice.dateStyle.getD (Format.defaultStyle language)
  let money := Format.currency language invoice.currency
  let moneyText (x : Double) : Value := .text (money x)
  let dateText (d : Date) : Value := .text (Format.date style language d)
  let totals := Totals.of company order
  let note := if company.smallBusiness then exemptionNote invoice.language else ""
  let legalNotice := invoice.legalNotice.getD ""
  let notices := [note, legalNotice].filter (· ≠ "")
  return {
    company := documentData Company.schema company
    customer := documentData Customer.schema customer
    invoice := [
      ("number", .text invoice.number), ("date", dateText invoice.invoiceDate),
      ("dueDate", dateText due), ("paymentTerms", .text terms),
      ("legalNotice", .text legalNotice)]
    order := [
      ("number", .text order.number), ("date", dateText order.orderDate),
      ("products", .list (productEntries money 1 order.items)),
      ("subtotal", moneyText totals.net), ("netTotal", moneyText totals.net),
      ("tax", moneyText totals.vat), ("vatTotal", moneyText totals.vat),
      ("shipping", moneyText totals.shipping), ("total", moneyText totals.grand),
      ("grandTotal", moneyText totals.grand)]
    totals := [
      ("net", moneyText totals.net), ("vat", moneyText totals.vat),
      ("vatRate", .text (Format.rate language totals.vatRate)),
      ("shipping", moneyText totals.shipping), ("grand", moneyText totals.grand)]
    legal := [
      ("vatExemptionNote", .text note),
      ("notices", .list (notices.map fun s => .mapping [("text", .text s)]))] }

end InvoiceForms
