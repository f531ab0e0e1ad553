import InvoiceForms.Invoice.Facts
import InvoiceForms.Render.Document
import InvoiceForms.Store.Fault

/-!
# Failures of the service

Everything that can end a request without an answer: a refusal in words, writing while it is
switched off, and the faults of the parts below that the service does not turn into words.
-/

namespace InvoiceForms

open InvoiceForms.Record InvoiceForms.Text

/-- Why a request has no answer. -/
inductive Failure
  | refusal (message : String)
  | writesDisabled
  | data (cause : DataFault)
  | store (cause : StoreFault)
  | render (cause : RenderFault)
  | invoice (cause : InvoiceFault)
  | unchecked (cause : ValidationFault)
  | undecodable (cause : DecodeFault)
  | oversizedInteger (count : Option Nat)
  | notCompliant
deriving DecidableEq, Repr

/-- The reason in words. -/
def Failure.message : Failure → String
  | refusal message => message
  | writesDisabled =>
    "Write-capable tools are disabled. Set MCP_ENABLE_WRITES=1 to allow writes."
  | data cause => cause.message
  | store cause => cause.message
  | render cause => cause.message
  | invoice cause => cause.message
  | unchecked cause => cause.message
  | undecodable cause => cause.message
  | oversizedInteger (some count) => Json.tooManyDigitsMessage count
  | oversizedInteger none => Json.unwritableIntegerMessage
  | notCompliant => "Out of range float values are not JSON compliant"

end InvoiceForms
