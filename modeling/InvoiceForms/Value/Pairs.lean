import InvoiceForms.Value.Key

/-!
# Values as sequences and as pairs

Where a sequence is wanted, every value that has items will do, a text by its characters and a
mapping by its keys. Where a mapping is wanted, a sequence of pairs will do (`Value.pairs`); a
`PairFault` says why a value is none.
-/

namespace InvoiceForms

/-- Why a value is no mapping and no sequence of pairs. -/
inductive PairFault
  | notIterable (kind : String)
  | notSequence (index : Nat)
  | wrongLength (index length : Nat)
  | badKey (cause : KeyFault)
deriving DecidableEq, Repr

namespace Value

/-- The name of a value's kind in messages. -/
def kindName : Value → String
  | null => "NoneType"
  | bool _ => "bool"
  | int _ => "int"
  | float _ => "float"
  | text _ => "str"
  | decimal _ => "decimal.Decimal"
  | date _ => "datetime.date"
  | moment _ => "datetime.datetime"
  | clock _ => "datetime.time"
  | bytes _ => "bytes"
  | list _ => "list"
  | tuple _ => "tuple"
  | set _ => "set"
  | mapping _ => "dict"
  | record title .. => title

/-- The items of a value, when it has any kind of items. -/
def items? : Value → Option (List Value)
  | text s => some (s.toList.map fun c => text (String.ofList [c]))
  | bytes bs => some (bs.map fun b => int b.toNat)
  | list items => some items
  | tuple items => some items
  | set items => some items
  | mapping entries => some (entries.map fun e => text e.1)
  | record _ fields extras => some ((fields ++ extras).map fun e => tuple [text e.1, e.2])
  | _ => none

/-- The pair that an item of a sequence is. -/
def pairAt (index : Nat) (item : Value) : Except PairFault (Value × Value) :=
  match item.items? with
  | none => .error (.notSequence index)
  | some [key, value] =>
    match key.keyFault? with
    | some cause => .error (.badKey cause)
    | none => .ok (key, value)
  | some items => .error (.wrongLength index items.length)

/-- The pairs that the items of a sequence are. -/
def pairsFrom (index : Nat) : List Value → Except PairFault (List (Value × Value))
  | [] => .ok []
  | item :: rest => do
    let pair ← pairAt index item
    let more ← pairsFrom (index + 1) rest
    return pair :: more

/-- The pairs of a mapping, of a record, or of a sequence of pairs. -/
def pairs : Value → Except PairFault (List (Value × Value))
  | mapping entries => .ok (entries.map fun e => (text e.1, e.2))
  | record _ fields extras => .ok ((fields ++ extras).map fun e => (text e.1, e.2))
  | v =>
    match v.items? with
    | some items => pairsFrom 0 items
    | none => .error (.notIterable v.kindName)

/-- The entries among pairs, whose keys are texts. -/
def textEntries (pairs : List (Value × Value)) : Entries Value :=
  Entries.ofList (pairs.filterMap fun p =>
    match p.1 with
    | text key => some (key, p.2)
    | _ => none)

/-- Whether all keys of pairs are texts. -/
def haveTextKeys (pairs : List (Value × Value)) : Bool :=
  pairs.all fun p =>
    match p.1 with
    | text _ => true
    | _ => false

/-- The keys of pairs, each once. -/
def keysOf (pairs : List (Value × Value)) : List Value := distinctKeys (pairs.map (·.1))

end Value

end InvoiceForms
