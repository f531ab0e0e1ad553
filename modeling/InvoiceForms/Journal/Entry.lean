import InvoiceForms.Json.Basic

/-!
# Journal entries

What the parts of this library report of their work: a level, the part that reports, a message, and
details by name.
-/

namespace InvoiceForms

/-- The level of a journal entry. -/
inductive Level
  | debug
  | info
  | warning
  | error
deriving DecidableEq, Repr, Inhabited

namespace Level

/-- The word for a level. -/
def word : Level → String
  | debug => "DEBUG"
  | info => "INFO"
  | warning => "WARNING"
  | error => "ERROR"

/-- How grave a level is. -/
def rank : Level → Nat
  | debug => 10
  | info => 20
  | warning => 30
  | error => 40

end Level

/-- A journal entry. -/
structure JournalEntry where
  level : Level
  origin : String
  message : String
  details : Entries Json := []
deriving DecidableEq, Repr, Inhabited

end InvoiceForms
