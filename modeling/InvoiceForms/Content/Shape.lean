import InvoiceForms.Content.Part

/-!
# The shape of a content string

What can be said of a content string without any data: its variables outside loops, the loops that
are closed, those that are not, the loops inside others, and the closers without a loop.
-/

namespace InvoiceForms

/-- The static view of a content string. -/
structure Shape where
  variableNames : List String := []
  loopPaths : List String := []
  unterminatedLoops : List String := []
  nestedLoops : List String := []
  strayClosers : Nat := 0
deriving DecidableEq, Repr, Inhabited

namespace Shape

/-- Puts what one part adds in front of a shape. -/
def addPart (part : Part) (s : Shape) : Shape :=
  match part with
  | .single t =>
    if t.kind = .variable then { s with variableNames := t.value :: s.variableNames } else s
  | .stray _ => { s with strayClosers := s.strayClosers + 1 }
  | .unclosed t => { s with unterminatedLoops := t.value :: s.unterminatedLoops }
  | .block opener body _ =>
    { s with
      loopPaths := opener.value :: s.loopPaths
      nestedLoops := (body.filter (·.kind = .opener)).map (·.value) ++ s.nestedLoops }

/-- The shape of parts. -/
def ofParts (parts : List Part) : Shape := parts.foldr addPart {}

/-- The shape of a content string. -/
def ofContent (content : String) : Shape := ofParts (Part.ofContent content)

end Shape

end InvoiceForms
