import InvoiceForms.Calendar.Date
import InvoiceForms.Number.Numeral
import InvoiceForms.Store.Files
import InvoiceForms.Validation.Policy

/-!
# Settings

The settings of the service and how they are read from texts of the environment. A text that cannot
be read stands for the default.
-/

namespace InvoiceForms

open InvoiceForms.Calendar InvoiceForms.Number InvoiceForms.Text

/-- The settings of the service: where templates are, whether they may be written, the legal policy,
where attempts to write are recorded, and the day of previews. -/
structure Settings where
  store : FileStore
  writes : Bool := false
  policy : LegalPolicy := .german
  audit : Option Path := none
  today : Date := default
deriving Inhabited

namespace Settings

/-- The words that switch something on. -/
def onWords : List String := ["1", "true", "yes", "on"]

/-- Reads a switch. -/
def readSwitch (value : Option String) (fallback : Bool) : Bool :=
  match value with
  | some s => decide (lowerAscii (trimBlank s) ∈ onWords)
  | none => fallback

/-- Reads an integer. -/
def readNumber (value : Option String) (fallback : Int) : Int :=
  match value with
  | some s =>
    match readInteger s.toList with
    | .ok n => n
    | .error _ => fallback
  | none => fallback

/-- The seconds to wait for a lock. -/
def lockSeconds (value : Option String) : Int := max (readNumber value 5) 0

/-- Takes one part of a path: a point stays, two points go back. -/
def step (reached : Path) (part : String) : Path :=
  if part = "" ∨ part = "." then reached
  else if part = ".." then reached.dropLast
  else reached ++ [part]

/-- The parts of a path from the top, without detours. -/
def normalParts (start : Path) (text : String) : Path :=
  ((split '/' text.toList).map String.ofList).foldl step
    (if text.toList.head? = some '/' then [] else start)

/-- The parts as an absolute path. -/
def absolute (parts : Path) : Path := "" :: parts

/-- The name of the directory that holds templates. -/
def rootName : String := ".invoice_templates"

/-- The directory that holds templates: the one that the environment names, else one below a given
base, else one below the program's own directory. Relative paths start at the current directory. -/
def rootPath (current own : Path) (environment base : Option String) : Path :=
  let named := trimBlank (environment.getD "")
  if named ≠ "" then absolute (normalParts current named)
  else
    match base with
    | some b => absolute (normalParts current b ++ [rootName])
    | none => own ++ [rootName]

end Settings

end InvoiceForms
