import InvoiceForms.Record.Schema

/-!
# Companies

The company block of a template: name, address, contact, tax numbers, bank account and logo, with
the terms that invoices of this company carry. Each structure stands with its schema.
-/

namespace InvoiceForms

open InvoiceForms.Record

/-- A postal address. -/
structure Address where
  street : Option String := none
  postalCode : Option String := none
  city : Option String := none
  country : Option String := some "Deutschland"
deriving DecidableEq, Repr, Inhabited

/-- An optional trimmed text with at most so many characters. -/
def optionalText (most : Nat) : Codec (Option String) := .optional (.text (.upTo most))

/-- The schema of addresses. -/
def Address.schema : Schema Address where
  title := "Address"
  fields := [
    .optional "street" "street" (optionalText 256) (·.street) fun x r => { r with street := x },
    .optional "postal_code" "postalCode" (optionalText 32) (·.postalCode)
      fun x r => { r with postalCode := x },
    .optional "city" "city" (optionalText 128) (·.city) fun x r => { r with city := x },
    .optional "country" "country" (optionalText 128) (·.country)
      fun x r => { r with country := x }]
  extras := .forbid
  blank := {}

/-- Ways to reach a company. -/
structure Contact where
  phone : Option String := none
  email : Option String := none
  website : Option String := none
deriving DecidableEq, Repr, Inhabited

/-- The schema of contacts. -/
def Contact.schema : Schema Contact where
  title := "Contact"
  fields := [
    .optional "phone" "phone" (optionalText 64) (·.phone) fun x r => { r with phone := x },
    .optional "email" "email" (optionalText 256) (·.email) fun x r => { r with email := x },
    .optional "website" "website" (optionalText 256) (·.website)
      fun x r => { r with website := x }]
  extras := .forbid
  blank := {}

/-- What identifies a company to the tax office and to the register. -/
structure TaxInfo where
  taxNumber : Option String := none
  vatId : Option String := none
  ceo : Option String := none
  legalForm : Option String := none
  taxOffice : Option String := none
  registrationCourt : Option String := none
deriving DecidableEq, Repr, Inhabited

/-- The schema of tax information. -/
def TaxInfo.schema : Schema TaxInfo where
  title := "TaxInfo"
  fields := [
    .optional "tax_number" "taxNumber" (optionalText 64) (·.taxNumber)
      fun x r => { r with taxNumber := x },
    .optional "vat_id" "vatId" (optionalText 64) (·.vatId) fun x r => { r with vatId := x },
    .optional "ceo" "ceo" (optionalText 256) (·.ceo) fun x r => { r with ceo := x },
    .optional "legal_form" "legalForm" (optionalText 128) (·.legalForm)
      fun x r => { r with legalForm := x },
    .optional "tax_office" "taxOffice" (optionalText 256) (·.taxOffice)
      fun x r => { r with taxOffice := x },
    .optional "registration_court" "registrationCourt" (optionalText 256) (·.registrationCourt)
      fun x r => { r with registrationCourt := x }]
  extras := .forbid
  blank := {}

/-- A bank account. -/
structure BankDetails where
  bankName : Option String := none
  iban : Option String := none
  bic : Option String := none
deriving DecidableEq, Repr, Inhabited

/-- The schema of bank accounts. -/
def BankDetails.schema : Schema BankDetails where
  title := "BankDetails"
  fields := [
    .optional "bank_name" "bankName" (optionalText 256) (·.bankName)
      fun x r => { r with bankName := x },
    .optional "iban" "iban" (optionalText 64) (·.iban) fun x r => { r with iban := x },
    .optional "bic" "bic" (optionalText 32) (·.bic) fun x r => { r with bic := x }]
  extras := .forbid
  blank := {}

/-- A logo and its size in pixels. -/
structure Logo where
  enabled : Bool := false
  url : Option String := none
  width : Int := 120
  height : Int := 60
deriving DecidableEq, Repr, Inhabited

/-- The schema of logos. -/
def Logo.schema : Schema Logo where
  title := "Logo"
  fields := [
    .optional "enabled" "enabled" .bool (·.enabled) fun x r => { r with enabled := x },
    .optional "url" "url" (optionalText 2048) (·.url) fun x r => { r with url := x },
    .optional "width" "width" (.int .positive) (·.width) fun x r => { r with width := x },
    .optional "height" "height" (.int .positive) (·.height) fun x r => { r with height := x }]
  extras := .forbid
  blank := {}

/-- A company that writes invoices. A small business charges no VAT. -/
structure Company where
  name : String
  address : Address := {}
  contact : Contact := {}
  taxInfo : TaxInfo := {}
  bankDetails : BankDetails := {}
  logo : Logo := {}
  smallBusiness : Bool := false
  paymentTermsDays : Int := 14
deriving DecidableEq, Repr, Inhabited

/-- The schema of companies. -/
def Company.schema : Schema Company where
  title := "CompanyInfo"
  fields := [
    .mandatory "name" "name" (.text (.from1To 256)) (·.name) fun x r => { r with name := x },
    .optional "address" "address" Address.schema.codec (·.address)
      fun x r => { r with address := x },
    .optional "contact" "contact" Contact.schema.codec (·.contact)
      fun x r => { r with contact := x },
    .optional "tax_info" "taxInfo" TaxInfo.schema.codec (·.taxInfo)
      fun x r => { r with taxInfo := x },
    .optional "bank_details" "bankDetails" BankDetails.schema.codec (·.bankDetails)
      fun x r => { r with bankDetails := x },
    .optional "logo" "logo" Logo.schema.codec (·.logo) fun x r => { r with logo := x },
    .optional "small_business" "smallBusiness" .bool (·.smallBusiness)
      fun x r => { r with smallBusiness := x },
    .optional "payment_terms_days" "paymentTermsDays" (.int .nonNegative) (·.paymentTermsDays)
      fun x r => { r with paymentTermsDays := x }]
  extras := .forbid
  blank := { name := "" }

end InvoiceForms
