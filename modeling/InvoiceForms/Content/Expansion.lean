import InvoiceForms.Content.Part
import InvoiceForms.Content.Path
import InvoiceForms.Content.Warning
import InvoiceForms.Number.DoubleText

/-!
# Expanding content strings

`Expansion.ofContent` puts data in the place of expressions. A variable becomes the text of the
value at its path, and nothing, with a warning, where there is none. The first loop block is
repeated for each item of the list at its path; inside it a variable refers to the item first and to
the whole data where the item has no value. Further loops and loops inside a loop stay text. Values
are never cut into tokens or cells: a row keeps apart what the template wrote and what was filled
in, and only bars of the template divide cells.
-/

namespace InvoiceForms

open InvoiceForms.Number InvoiceForms.Text

/-- How paths are looked up; null where there is nothing. -/
abbrev Lookup := String → Except LookupFault Value

/-- The text of a value in a content string; containers have none. -/
def Value.contentText? : Value → Option String
  | null => none
  | bool b => some (if b then "true" else "false")
  | int n => some (toString n)
  | float x => some x.toGeneral
  | text s => some s
  | decimal x => some x.toText
  | date d => some d.toIso
  | moment m => some m.toIso
  | list _ => none
  | tuple _ => none
  | set _ => none
  | mapping _ => none
  | value => some value.plain

/-- A piece of a row: text of the template, or something filled in. -/
inductive RowPiece
  | literal (s : String)
  | filled (s : String)
deriving DecidableEq, Repr

namespace RowPiece

/-- What divides cells. -/
def bar : Char := '|'

/-- The text of a piece. -/
def text : RowPiece → String
  | literal s => s
  | filled s => s

/-- The characters of a piece, where nothing stands for a bar of the template. -/
def marks : RowPiece → List (Option Char)
  | literal s => s.toList.map fun c => if c = bar then none else some c
  | filled s => s.toList.map some

end RowPiece

/-- The output of a loop for one item. -/
abbrev Row := List RowPiece

namespace Row

/-- The text of a row. -/
def text (row : Row) : String := String.join (row.map (·.text))

/-- The characters of a row, where nothing stands for a bar of the template. -/
def marks (row : Row) : List (Option Char) := row.flatMap (·.marks)

/-- The cells of a row. -/
def cells (row : Row) : List String :=
  (split none row.marks).map fun cell => String.ofList (cell.filterMap id)

end Row

/-- Something made while warnings arose. -/
structure Warned (α : Type) where
  made : α
  warnings : List Warning
deriving Repr

/-- The elements of a list without repetitions, each at its first place. -/
def distinct {α : Type} [DecidableEq α] (seen : List α) : List α → List α
  | [] => []
  | x :: xs => if x ∈ seen then distinct seen xs else x :: distinct (x :: seen) xs

/-- The text of a variable's value, or none with a warning. A value that has a text has to be one that
can be written out. -/
def textOrWarn (path : String) (value : Value) : Except LookupFault (Warned String) :=
  match value.contentText? with
  | some s => if value.isWritable then .ok ⟨s, []⟩ else .error .unwritable
  | none => .ok ⟨"", [.unresolved path]⟩

/-- The text of a variable outside loops. -/
def resolve (lookup : Lookup) (path : String) : Except LookupFault (Warned String) :=
  lookup path >>= textOrWarn path

/-- The text of a variable for an item: its value there counts, unless it is null. -/
def resolveIn (lookup : Lookup) (item : Value) (path : String) :
    Except LookupFault (Warned String) :=
  match item.lookup path with
  | .error e => .error e
  | .ok .null => resolve lookup path
  | .ok value => textOrWarn path value

namespace Row

/-- What one part of a loop's body gives for an item with a number. -/
def ofPart (lookup : Lookup) (number : Nat) (item : Value) :
    Part → Except LookupFault (Warned RowPiece)
  | .single t =>
    match t.kind with
    | .variable => (resolveIn lookup item t.value).map fun w => ⟨.filled w.made, w.warnings⟩
    | .index => .ok ⟨.filled (toString number), []⟩
    | _ => .ok ⟨.literal t.raw, []⟩
  | .stray t => .ok ⟨.filled t.raw, []⟩
  | .unclosed t => .ok ⟨.filled t.raw, []⟩
  | .block opener body closer =>
    .ok ⟨.filled (Part.block opener body closer).raw, [.nestedLoop opener.value]⟩

/-- The row of an item. -/
def ofParts (lookup : Lookup) (number : Nat) (item : Value) :
    List Part → Except LookupFault (Warned Row)
  | [] => .ok ⟨[], []⟩
  | part :: parts => do
    let first ← ofPart lookup number item part
    let rest ← ofParts lookup number item parts
    return ⟨first.made :: rest.made, first.warnings ++ rest.warnings⟩

/-- The rows of items, numbered from `number`. -/
def ofItems (lookup : Lookup) (body : List Part) (number : Nat) :
    List Value → Except LookupFault (Warned (List Row))
  | [] => .ok ⟨[], []⟩
  | item :: items => do
    let first ← ofParts lookup number item body
    let rest ← ofItems lookup body (number + 1) items
    return ⟨first.made :: rest.made, first.warnings ++ rest.warnings⟩

end Row

/-- The rows of a loop over the value at a path. -/
def loopRows (lookup : Lookup) (path : String) (body : List Token) :
    Except LookupFault (Warned (List Row)) := do
  match ← lookup path with
  | .null => return ⟨[], [.unresolved path]⟩
  | .list items => Row.ofItems lookup (Part.ofTokens body) 1 items
  | .tuple items => Row.ofItems lookup (Part.ofTokens body) 1 items
  | _ => return ⟨[], [.invalidLoopTarget path]⟩

/-- An expanded content string: its text, the text and the cells of each item of its loop, the
warnings, and whether it has a loop. -/
structure Expansion where
  text : String
  items : List String
  cells : List (List String)
  warnings : List Warning
  hasLoop : Bool
deriving DecidableEq, Repr, Inhabited

/-- An expansion before its warnings are gathered. -/
structure Draft where
  text : String := ""
  rows : List Row := []
  warnings : List Warning := []
  hasLoop : Bool := false
deriving Repr

namespace Draft

/-- Puts text and warnings in front of a draft. -/
def prepend (text : String) (warnings : List Warning) (d : Draft) : Draft :=
  { d with text := text ++ d.text, warnings := warnings ++ d.warnings }

/-- Drafts parts, given whether a loop has been expanded before them. -/
def ofParts (lookup : Lookup) (looped : Bool) : List Part → Except LookupFault Draft
  | [] => .ok {}
  | .single t :: parts => do
    match t.kind with
    | .variable =>
      let w ← resolve lookup t.value
      return (← ofParts lookup looped parts).prepend w.made w.warnings
    | .index => return (← ofParts lookup looped parts).prepend "" [.unresolved Token.itemNumber]
    | _ => return (← ofParts lookup looped parts).prepend t.raw []
  | .stray t :: parts => return (← ofParts lookup looped parts).prepend t.raw [.strayCloser]
  | .unclosed t :: parts =>
    .ok { text := t.raw ++ Part.rawText parts, warnings := [.unclosedLoop t.value] }
  | .block opener body closer :: parts =>
    if looped then
      return (← ofParts lookup looped parts).prepend (Part.block opener body closer).raw
        [.ignoredLoop opener.value]
    else do
      let w ← loopRows lookup opener.value body
      let rest ← ofParts lookup true parts
      return { rest.prepend (String.join (w.made.map Row.text)) w.warnings with
        rows := w.made, hasLoop := true }

/-- The expansion that a draft becomes. -/
def finish (d : Draft) : Expansion where
  text := d.text
  items := d.rows.map Row.text
  cells := d.rows.map Row.cells
  warnings := distinct [] d.warnings
  hasLoop := d.hasLoop

end Draft

/-- Expands a content string. -/
def Expansion.ofContent (lookup : Lookup) (content : String) : Except LookupFault Expansion :=
  (Draft.ofParts lookup false (Part.ofContent content)).map Draft.finish

end InvoiceForms
