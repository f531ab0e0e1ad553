import InvoiceForms.Service.Failure
import InvoiceForms.Value.Shown

/-!
# Envelopes

Every JSON answer has the same three members: whether it went well, the data, and the errors in
words.
-/

namespace InvoiceForms.Envelope

/-- An envelope. -/
def make (ok : Bool) (data : Json) (errors : List String) : Json := .object [
  ("ok", .bool ok), ("data", data), ("errors", .ofTexts errors)]

/-- The envelope of an answer. -/
def ok (data : Json) : Json := make true data []

/-- The envelope of errors, perhaps with data about them. -/
def error (errors : List String) (data : Json) : Json := make false data errors

/-- The envelope of errors that are values of any kind, which have to be written out. -/
def errorOfValues (errors : List Value) (data : Json) : Except Failure Json :=
  if errors.all (·.isWritable) then .ok (error (errors.map (·.plain)) data)
  else .error (.oversizedInteger none)

end InvoiceForms.Envelope
