import InvoiceForms.Template.Section

/-!
# Sections as order data

Order data may hold whole sections. `Section.valueOfPayload` reads a section and gives it as order
data, where a width that no data gave is the integer zero and is shown without a fraction.
-/

namespace InvoiceForms

open InvoiceForms.Record InvoiceForms.Text

namespace Column

/-- Whether data of a column leaves its width at the integer zero. -/
def leavesWidth : Value → Bool
  | .mapping entries =>
    !Entries.has "widthPercent" entries && !Entries.has Value.widthName entries
  | .record _ fields _ => Entries.get? Value.widthName fields = some (.int 0)
  | _ => false

/-- A column as order data with the integer zero for its width. -/
def withZeroWidth : Value → Value
  | .record title fields extras =>
    .record title (Entries.set Value.widthName (.int 0) fields) extras
  | column => column

end Column

namespace Section

/-- The data of columns in the data of a section, under trimmed keys. -/
def columnData (payload : Value) : Entries Value :=
  match payload.pairs with
  | .ok pairs =>
    match Entries.get? "columns" (Value.textEntries pairs) with
    | some (.mapping entries) => Entries.ofList (entries.map fun e => (trimWhiteSpace e.1, e.2))
    | _ => []
  | .error _ => []

/-- Columns as order data, where those whose width no data gave have the integer zero. -/
def unsetWidths (data : Entries Value) (columns : Entries Value) : Entries Value :=
  columns.map fun e =>
    (e.1, if (data.get? e.1).any Column.leavesWidth then Column.withZeroWidth e.2 else e.2)

/-- A section as order data, given the data that it was read from. -/
def toValueFrom (payload : Value) (s : Section) : Value :=
  match s.variant, s.schema.toValue s with
  | .table _, .record title fields extras =>
    .record title
      (fields.map fun f =>
        match f with
        | ("columns", .mapping columns) =>
          ("columns", .mapping (unsetWidths (columnData payload) columns))
        | f => f)
      extras
  | _, value => value

/-- The section that data describes, as order data. -/
def valueOfPayload (payload : Value) : Except DataFault Value :=
  (ofPayload payload .null).map (toValueFrom payload)

end Section

end InvoiceForms
