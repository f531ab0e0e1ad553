import InvoiceForms.Template.Company
import InvoiceForms.Template.Id

/-!
# Customers, orders and invoice facts

The data one invoice is made from. An order has at least one item, and what its items cost together
is not negative. An invoice is not due before its date. Each structure stands with its schema.
-/

namespace InvoiceForms

open InvoiceForms.Calendar InvoiceForms.Number InvoiceForms.Record InvoiceForms.Text

/-- A customer. -/
structure Customer where
  name : String
  businessName : Option String := none
  email : Option String := none
  phone : Option String := none
  customerNumber : Option String := none
  address : Address := {}
deriving DecidableEq, Repr, Inhabited

/-- The schema of customers. -/
def Customer.schema : Schema Customer where
  title := "Customer"
  fields := [
    .mandatory "name" "name" (.text (.from1To 256)) (·.name) fun x r => { r with name := x },
    .optional "business_name" "businessName" (optionalText 256) (·.businessName)
      fun x r => { r with businessName := x },
    .optional "email" "email" (optionalText 256) (·.email) fun x r => { r with email := x },
    .optional "phone" "phone" (optionalText 64) (·.phone) fun x r => { r with phone := x },
    .optional "customer_number" "customerNumber" (optionalText 64) (·.customerNumber)
      fun x r => { r with customerNumber := x },
    .optional "address" "address" Address.schema.codec (·.address)
      fun x r => { r with address := x }]
  extras := .forbid
  blank := { name := "" }

/-- One item of an order. Prices may be negative, for goodwill and discounts. -/
structure LineItem where
  name : String
  description : Option String := none
  quantity : Double := .ofInt 1
  unit : String := "Stk."
  unitPrice : Double
deriving DecidableEq, Repr, Inhabited

/-- The schema of order items. -/
def LineItem.schema : Schema LineItem where
  title := "LineItem"
  fields := [
    .mandatory "name" "name" (.text (.from1To 256)) (·.name) fun x r => { r with name := x },
    .optional "description" "description" (optionalText 512) (·.description)
      fun x r => { r with description := x },
    .optional "quantity" "quantity" (.double .positive) (·.quantity)
      fun x r => { r with quantity := x },
    .optional "unit" "unit" (.text (.upTo 32)) (·.unit) fun x r => { r with unit := x },
    .mandatory "unit_price" "unitPrice" (.double .none) (·.unitPrice)
      fun x r => { r with unitPrice := x }]
  extras := .forbid
  blank := { name := "", unitPrice := default }
  derived := ["total"]

/-- What an item costs, rounded to cents. -/
def LineItem.total (item : LineItem) : Double := (item.quantity * item.unitPrice).roundPlaces 2

/-- An order. -/
structure Order where
  number : String
  orderDate : Date
  items : List LineItem
  shipping : Double := .zero false
  vatRate : Double := .ofDecimal false 19 (-2)
deriving DecidableEq, Inhabited

namespace Order

/-- What the items cost together, rounded to cents. -/
def subtotal (order : Order) : Double :=
  (Double.sum (order.items.map LineItem.total)).roundPlaces 2

/-- Holds an order to a subtotal that is not negative. -/
def checkSubtotal (order : Order) : Except String Unit :=
  if order.subtotal.lt (.zero false) then .error "Subtotal cannot be negative for orders"
  else .ok ()

/-- The schema of orders. -/
def schema : Schema Order where
  title := "Order"
  fields := [
    .mandatory "number" "number" (.text (.from1To 64)) (·.number)
      fun x r => { r with number := x },
    .mandatory "order_date" "orderDate" .date (·.orderDate) fun x r => { r with orderDate := x },
    .mandatory "items" "items" (.list 1 LineItem.schema.codec) (·.items)
      fun x r => { r with items := x },
    .optional "shipping" "shipping" (.double .nonNegative) (·.shipping)
      fun x r => { r with shipping := x },
    .optional "vat_rate" "vatRate" (.double (.upTo 1)) (·.vatRate)
      fun x r => { r with vatRate := x }]
  extras := .forbid
  blank := { number := "", orderDate := default, items := [] }
  check := checkSubtotal

end Order

/-- A language of invoices. -/
inductive Language
  | de
  | en
deriving DecidableEq, Repr, Inhabited

namespace Language

/-- All languages. -/
def all : List Language := [de, en]

/-- The tag of a language. -/
def tag : Language → String
  | de => "de"
  | en => "en"

/-- What language fields take. -/
def codec : Codec Language := .choice all tag

end Language

/-- How dates are written. -/
inductive DateStyle
  | iso
  | locale
deriving DecidableEq, Repr, Inhabited

namespace DateStyle

/-- All date styles. -/
def all : List DateStyle := [iso, locale]

/-- The word for a date style. -/
def word : DateStyle → String
  | iso => "iso"
  | locale => "locale"

/-- The date style with a word. -/
def ofWord? (s : String) : Option DateStyle := all.find? (·.word = s)

/-- Why a word is no date style. -/
def badStyle : String := "date_style must be 'iso' or 'locale'"

/-- What fields of date styles take: a word with blanks around it and in any case. -/
def codec : Codec DateStyle where
  read
    | .text s =>
      match ofWord? (lowerAscii (trimBlank s)) with
      | some style => .ok style
      | none => refuse (.refused badStyle)
    | _ => refuse (.notAmong (all.map word))
  dump _ style := .text style.word
  toValue style := .text style.word

end DateStyle

/-- The facts of an invoice. -/
structure Invoice where
  number : String
  invoiceDate : Date
  dueDate : Option Date := none
  paymentTerms : Option String := none
  legalNotice : Option String := none
  language : Language := .de
  dateStyle : Option DateStyle := none
  currency : String := "EUR"
deriving DecidableEq, Inhabited

namespace Invoice

/-- Holds an invoice to a due date that is not before its date. -/
def checkDueDate (invoice : Invoice) : Except String Unit :=
  if invoice.dueDate.any (·.before invoice.invoiceDate) then
    .error "due_date cannot be before invoice_date"
  else .ok ()

/-- The schema of invoice facts. -/
def schema : Schema Invoice where
  title := "InvoiceMeta"
  fields := [
    .mandatory "number" "number" (.text (.from1To 64)) (·.number)
      fun x r => { r with number := x },
    .mandatory "invoice_date" "invoiceDate" .date (·.invoiceDate)
      fun x r => { r with invoiceDate := x },
    .optional "due_date" "dueDate" (.optional .date) (·.dueDate) fun x r => { r with dueDate := x },
    .optional "payment_terms" "paymentTerms" (optionalText 500) (·.paymentTerms)
      fun x r => { r with paymentTerms := x },
    .optional "legal_notice" "legalNotice" (optionalText 2000) (·.legalNotice)
      fun x r => { r with legalNotice := x },
    .optional "language" "language" Language.codec (·.language)
      fun x r => { r with language := x },
    .optional "date_style" "dateStyle" (.optional DateStyle.codec) (·.dateStyle)
      fun x r => { r with dateStyle := x },
    .optional "currency" "currency" (.text (.upTo 8)) (·.currency)
      fun x r => { r with currency := x }]
  extras := .forbid
  blank := { number := "", invoiceDate := default }
  check := checkDueDate

end Invoice

/-- A request for an invoice document. A company in it stands in for the one of the template. -/
structure RenderRequest where
  templateId : Option String := none
  company : Option Company := none
  customer : Customer
  order : Order
  invoice : Invoice
deriving DecidableEq, Inhabited

namespace RenderRequest

/-- What the template id of a request demands. -/
def idRule : TextRule := ⟨false, 0, none, some ⟨TemplateId.pattern, TemplateId.isIdText⟩⟩

/-- The schema of requests. -/
def schema : Schema RenderRequest where
  title := "RenderRequest"
  fields := [
    .optional "template_id" "template_id" (.optional (.text idRule)) (·.templateId)
      fun x r => { r with templateId := x },
    .optional "company" "company" (.optional Company.schema.codec) (·.company)
      fun x r => { r with company := x },
    .mandatory "customer" "customer" Customer.schema.codec (·.customer)
      fun x r => { r with customer := x },
    .mandatory "order" "order" Order.schema.codec (·.order) fun x r => { r with order := x },
    .mandatory "invoice" "invoice" Invoice.schema.codec (·.invoice)
      fun x r => { r with invoice := x }]
  extras := .forbid
  blank := default
  assignsRead := false

end RenderRequest

end InvoiceForms
