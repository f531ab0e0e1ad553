import InvoiceForms.Catalogue.Basic

/-!
# The standard catalogue

The variables that the context of an invoice has.
-/

namespace InvoiceForms.Catalogue

/-- The descriptions of the standard catalogue. -/
def standardVariables : List VariableInfo := [
  .scalar .company "company.name" "Firmenname",
  .scalar .company "company.address.street" "Straße",
  .scalar .company "company.address.postalCode" "PLZ",
  .scalar .company "company.address.city" "Stadt",
  .scalar .company "company.address.country" "Land",
  .scalar .company "company.contact.phone" "Telefon",
  .scalar .company "company.contact.email" "E-Mail",
  .scalar .company "company.contact.website" "Website",
  .scalar .company "company.taxInfo.taxNumber" "Steuernummer",
  .scalar .company "company.taxInfo.vatId" "USt-IdNr.",
  .scalar .company "company.taxInfo.ceo" "Inhaber / Geschäftsführer",
  .scalar .company "company.taxInfo.legalForm" "Rechtsform",
  .scalar .company "company.taxInfo.taxOffice" "Finanzamt",
  .scalar .company "company.taxInfo.registrationCourt" "Registergericht",
  .scalar .company "company.bankDetails.bankName" "Bank",
  .scalar .company "company.bankDetails.iban" "IBAN",
  .scalar .company "company.bankDetails.bic" "BIC",
  .scalar .company "company.logo.url" "Logo-URL",
  .scalar .customer "customer.name" "Kundenname",
  .scalar .customer "customer.businessName" "Firma des Kunden",
  .scalar .customer "customer.email" "Kunden-E-Mail",
  .scalar .customer "customer.phone" "Kunden-Telefon",
  .scalar .customer "customer.customerNumber" "Kundennummer",
  .scalar .customer "customer.address.street" "Kundenstraße",
  .scalar .customer "customer.address.postalCode" "Kunden-PLZ",
  .scalar .customer "customer.address.city" "Kundenstadt",
  .scalar .customer "customer.address.country" "Kundenland",
  .scalar .invoice "invoice.number" "Rechnungsnummer",
  .scalar .invoice "invoice.date" "Rechnungsdatum",
  .scalar .invoice "invoice.dueDate" "Fälligkeitsdatum",
  .scalar .invoice "invoice.paymentTerms" "Zahlungsbedingungen",
  .scalar .invoice "invoice.legalNotice" "Rechtlicher Hinweis",
  .scalar .order "order.number" "Bestellnummer",
  .scalar .order "order.date" "Bestelldatum",
  .list .order "order.products" "Produktliste",
  .scalar .order "order.subtotal" "Zwischensumme",
  .scalar .order "order.netTotal" "Nettosumme",
  .scalar .order "order.tax" "Steuern",
  .scalar .order "order.vatTotal" "MwSt-Betrag",
  .scalar .order "order.shipping" "Versandkosten",
  .scalar .order "order.total" "Gesamtsumme",
  .scalar .order "order.grandTotal" "Gesamtbetrag",
  .field .product "order.products" "position" "Position",
  .field .product "order.products" "name" "Artikel",
  .field .product "order.products" "description" "Beschreibung",
  .field .product "order.products" "quantity" "Menge",
  .field .product "order.products" "unit" "Einheit",
  .field .product "order.products" "unitPrice" "Einzelpreis",
  .field .product "order.products" "total" "Gesamtpreis",
  .scalar .totals "totals.net" "Netto",
  .scalar .totals "totals.vat" "MwSt.",
  .scalar .totals "totals.vatRate" "MwSt-Satz",
  .scalar .totals "totals.shipping" "Versand",
  .scalar .totals "totals.grand" "Gesamt",
  .scalar .legal "legal.vatExemptionNote" "MwSt-Befreiungshinweis",
  .list .legal "legal.notices" "Rechtliche Hinweise",
  .field .legal "legal.notices" "text" "Hinweistext"]

/-- The standard catalogue. -/
def standard : Catalogue := ofList standardVariables

end InvoiceForms.Catalogue
