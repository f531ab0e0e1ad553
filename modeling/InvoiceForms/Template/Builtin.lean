import InvoiceForms.Template.Basic

/-!
# The builtin template

The template that stands in when no stored one is usable.
-/

namespace InvoiceForms.Builtin

open InvoiceForms.Number

/-- A reference to a variable. -/
def ref (path : String) : String := "\x7b\x7b" ++ path ++ "\x7d\x7d"

/-- A loop over a list. -/
def loop (path body : String) : String := ref ("loop:" ++ path) ++ body ++ ref "/loop"

/-- The street, and the postal code and city on a line of their own, of someone's address. -/
def addressOf (owner : String) : String :=
  ref (owner ++ ".address.street") ++ "\n" ++ ref (owner ++ ".address.postalCode") ++ " " ++
    ref (owner ++ ".address.city")

/-- A section of a plain kind. -/
def plain (kind : PlainKind) (position : Int) (content : Entries String) : Section :=
  { variant := .plain kind, position := position, content := content }

/-- A column with a width and a label. -/
def column (key : String) (width : Nat) (label : String) : String × Column :=
  (key, { widthPercent := .ofInt width, label := some label })

/-- The block above everything. -/
def header : Section := plain .header 1 [
  ("title", "Rechnung"), ("companyName", ref "company.name"),
  ("companyAddress", addressOf "company")]

/-- The block of the customer. -/
def customerInfo : Section := plain .customerInfo 2 [
  ("title", "Rechnungsempfänger"), ("name", ref "customer.name"),
  ("address", addressOf "customer")]

/-- The block of numbers and dates. -/
def invoiceInfo : Section := plain .invoiceInfo 3 [
  ("invoiceNumber", "Rechnungsnummer: " ++ ref "invoice.number"),
  ("invoiceDate", "Rechnungsdatum: " ++ ref "invoice.date"),
  ("orderNumber", "Bestellnummer: " ++ ref "order.number")]

/-- The row of a product, one cell for each column. -/
def productRow : String :=
  ref "@index" ++ " | " ++ ref "name" ++ " | " ++ ref "quantity" ++ " " ++ ref "unit" ++ " | " ++
    ref "unitPrice" ++ " | " ++ ref "total" ++ "\n"

/-- The table of products. -/
def productTable : Section where
  variant := .table [
    column "position" 8 "Pos.", column "name" 40 "Artikel", column "quantity" 12 "Menge",
    column "unitPrice" 15 "Einzelpreis", column "total" 15 "Gesamt"]
  position := 4
  content := [("rows", loop "order.products" productRow)]

/-- The block of amounts. -/
def totals : Section := plain .totals 5 [
  ("net", "Nettobetrag: " ++ ref "totals.net"),
  ("vat", "MwSt. (" ++ ref "totals.vatRate" ++ "): " ++ ref "totals.vat"),
  ("shipping", "Versand: " ++ ref "totals.shipping"),
  ("grand", "Gesamtbetrag: " ++ ref "totals.grand"),
  ("vatExemption", ref "legal.vatExemptionNote")]

/-- The block of the bank account. -/
def paymentInfo : Section := plain .paymentInfo 6 [
  ("terms", ref "invoice.paymentTerms"), ("bank", ref "company.bankDetails.bankName"),
  ("iban", "IBAN: " ++ ref "company.bankDetails.iban"),
  ("bic", "BIC: " ++ ref "company.bankDetails.bic")]

/-- The block below everything. -/
def footer : Section := plain .footer 7 [
  ("company", ref "company.name" ++ " · " ++ ref "company.address.city"),
  ("tax", "Steuernummer: " ++ ref "company.taxInfo.taxNumber" ++ " · USt-IdNr.: " ++
    ref "company.taxInfo.vatId"),
  ("notices", loop "legal.notices" (ref "text" ++ "\n"))]

/-- The builtin template. -/
def template : Template where
  id := "builtin"
  name := "Standard-Rechnung"
  company := { name := "Ihr Unternehmen" }
  sections := [header, customerInfo, invoiceInfo, productTable, totals, paymentInfo, footer]

end InvoiceForms.Builtin
