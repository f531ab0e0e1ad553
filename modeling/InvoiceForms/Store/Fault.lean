import InvoiceForms.Json.Parser
import InvoiceForms.Record.Fault
import InvoiceForms.Store.FileTree
import InvoiceForms.Text.Encoding
import InvoiceForms.Validation.Issue

/-!
# Faults of template stores

What can go wrong with stored templates: a template is no use, the store cannot be read or written,
or a template that is needed is not there. Documents that nobody wrote through a store can also fail
in ways that no store expects: bytes that are no text, integers without measure, and data that
cannot be walked through. A template that has to be validated may turn out to be one that cannot be.
-/

namespace InvoiceForms

open InvoiceForms.Record InvoiceForms.Text

/-- Why a template is no use. -/
inductive ConfigurationFault
  | notJson (id : String) (cause : Json.ParseFault)
  | notObject (id : String)
  | invalid (id : String) (cause : Invalid)
  | notUsable (id : String) (issues : List Issue)
deriving DecidableEq, Repr

/-- The reason in words. -/
def ConfigurationFault.message : ConfigurationFault → String
  | notJson id cause => "Template " ++ id ++ " is not valid JSON: " ++ cause.message
  | notObject id => "Template " ++ id ++ " is not a JSON object"
  | invalid id cause => "Template " ++ id ++ " is invalid: " ++ cause.headline
  | notUsable id _ => "Template " ++ id ++ " has validation errors and cannot be the default"

/-- Why a store cannot be read or written. -/
inductive Unavailability
  | lockTimeout (name : String)
  | noAccess (cause : FileFault)
  | readTemplate (id : String) (cause : FileFault)
  | readPointer (cause : FileFault)
  | writeTemplate (id : String) (cause : FileFault)
  | writePointer (cause : FileFault)
  | deleteTemplate (id : String) (cause : FileFault)
deriving DecidableEq, Repr

/-- The reason in words. -/
def Unavailability.message : Unavailability → String
  | lockTimeout name => "Timed out waiting for lock " ++ name
  | noAccess cause => "Template store unavailable: " ++ cause.message
  | readTemplate id cause => "Could not read template " ++ id ++ ": " ++ cause.message
  | readPointer cause => "Could not read default pointer: " ++ cause.message
  | writeTemplate id cause => "Could not write template " ++ id ++ ": " ++ cause.message
  | writePointer cause => "Could not write default pointer: " ++ cause.message
  | deleteTemplate id cause => "Could not delete template " ++ id ++ ": " ++ cause.message

/-- What can go wrong with a store. -/
inductive StoreFault
  | configuration (cause : ConfigurationFault)
  | unavailable (cause : Unavailability)
  | notFound (id : String)
  | undecodable (cause : DecodeFault)
  | oversizedInteger (count : Option Nat)
  | misuse (cause : Misuse)
  | file (cause : FileFault)
  | unchecked (cause : ValidationFault)
deriving DecidableEq, Repr

/-- The reason in words. -/
def StoreFault.message : StoreFault → String
  | configuration cause => cause.message
  | unavailable cause => cause.message
  | notFound id => "Template " ++ id ++ " not found"
  | undecodable cause => cause.message
  | oversizedInteger (some count) => Json.tooManyDigitsMessage count
  | oversizedInteger none => Json.unwritableIntegerMessage
  | misuse cause => cause.message
  | file cause => cause.message
  | unchecked cause => cause.message

end InvoiceForms
