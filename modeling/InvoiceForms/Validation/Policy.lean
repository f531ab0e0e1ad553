import InvoiceForms.Content.Shape
import InvoiceForms.Template.Basic
import InvoiceForms.Validation.Issue

/-!
# Legal policies

A legal policy looks for what the law wants on an invoice and gives warnings only, since what
exactly is mandatory is not for a program to say. The German policy wants the tax number or the VAT
id of the company, in its data and in a footer or legal section.
-/

namespace InvoiceForms

open InvoiceForms.Text

/-- A legal policy. -/
inductive LegalPolicy
  | none
  | german
deriving DecidableEq, Repr, Inhabited

namespace LegalPolicy

/-- The policy with a name; a name that is not known stands for none. -/
def ofName (name : String) : LegalPolicy :=
  if lowerAscii (trimBlank name) = "de" then german else none

/-- The variables that identify a company to the tax office. -/
def taxVariables : List String := ["company.taxInfo.taxNumber", "company.taxInfo.vatId"]

/-- The types of sections where such a variable is looked for. -/
def legalTypes : List String := ["footer", "legalInfo"]

/-- The sections where such a variable is looked for. -/
def legalSections (t : Template) : List Section :=
  t.enabledSections.filter fun s => decide (s.type ∈ legalTypes)

/-- The variables outside loops in the content of a section. -/
def variablesOf (s : Section) : List String :=
  s.content.flatMap fun field => (Shape.ofContent field.2).variableNames

/-- Whether a legal section refers to a tax variable. -/
def hasTaxReference (t : Template) : Bool :=
  (legalSections t).any fun s => (variablesOf s).any fun v => decide (v ∈ taxVariables)

/-- Whether the company has a tax number or a VAT id. -/
def hasTaxIdentity (t : Template) : Bool :=
  [t.company.taxInfo.taxNumber, t.company.taxInfo.vatId].any fun s => s.any (· ≠ "")

/-- No legal section refers to a tax variable. -/
def missingReference (t : Template) : Issue where
  severity := .warning
  rule := "legal_tax_reference"
  message := "No footer or legal section references " ++
    "\x7b\x7bcompany.taxInfo.taxNumber\x7d\x7d or \x7b\x7bcompany.taxInfo.vatId\x7d\x7d"
  path := match legalSections t with
    | [] => "sections"
    | s :: _ => "sections." ++ s.type

/-- The company has neither number. -/
def missingIdentity : Issue where
  severity := .warning
  rule := "legal_tax_identity"
  message := "Company info has neither a tax number nor a VAT id"
  path := "companyInfo.taxInfo"

/-- What a policy finds. -/
def check (policy : LegalPolicy) (t : Template) : List Issue :=
  match policy with
  | none => []
  | german =>
    (if hasTaxReference t then [] else [missingReference t]) ++
      (if hasTaxIdentity t then [] else [missingIdentity])

end LegalPolicy

end InvoiceForms
