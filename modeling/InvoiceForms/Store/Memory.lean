import InvoiceForms.Json.Printer
import InvoiceForms.Store.Basic

/-!
# Stores in memory

A `MemoryStore` is a mapping from ids to templates and a pointer. The pointer can only be set to an
id that is stored, and deleting the default template takes it back.
-/

namespace InvoiceForms

/-- Templates by id, without their flags, and the id of the default. -/
structure MemoryStore where
  templates : List (String × Template) := []
  pointer : Option String := none
deriving DecidableEq, Inhabited

namespace MemoryStore

/-- A stored template with its flag. -/
def materialize (s : MemoryStore) (t : Template) : Template :=
  { t with isDefault := s.pointer = some t.id }

/-- The template with an id. -/
def get (s : MemoryStore) (id : String) : Option Template :=
  (Entries.get? id s.templates).map s.materialize

/-- The default template. -/
def getDefault (s : MemoryStore) : Option Template := s.pointer.bind s.get

/-- Stores a template under its id. -/
def upsert (s : MemoryStore) (t : Template) : MemoryStore :=
  { s with templates := Entries.set t.id { t with isDefault := false } s.templates }

/-- Points to a stored template. -/
def setDefault (s : MemoryStore) (id : String) : Except StoreFault MemoryStore :=
  if (Entries.get? id s.templates).isSome then .ok { s with pointer := some id }
  else .error (.notFound id)

/-- Removes the template with an id, if there is one. -/
def delete (s : MemoryStore) (id : String) : Bool × MemoryStore :=
  if (Entries.get? id s.templates).isSome then
    (true, {
      templates := Entries.erase id s.templates
      pointer := if s.pointer = some id then none else s.pointer })
  else (false, s)

/-- All templates in the order of their ids. -/
def list (s : MemoryStore) : List Template :=
  (Json.sortEntries s.templates).map fun e => s.materialize e.2

/-- Stores one template, as the default if it is flagged. -/
def add (s : MemoryStore) (t : Template) : MemoryStore :=
  let s := s.upsert t
  if t.isDefault then { s with pointer := some t.id } else s

/-- The store of templates, put in from left to right. -/
def ofList (ts : List Template) : MemoryStore := ts.foldl add {}

/-- A store in memory with its journal, as the state of its operations. -/
abbrev Session := StateM (MemoryStore × List JournalEntry)

/-- An operation that only looks at the store. -/
def look {α : Type} (f : MemoryStore → α) : ExceptT StoreFault Session α := do
  return f (← MonadState.get).1

/-- The operations of a store in memory. -/
def operations : TemplateStore Session where
  get id := look (·.get id)
  getDefault := look (·.getDefault)
  defaultId := look (·.pointer)
  upsert t := do
    modify fun (s, journal) => (s.upsert t, journal)
    look (·.materialize t)
  setDefault id := do
    let (s, journal) ← MonadState.get
    match s.setDefault id with
    | .ok s => set (s, journal)
    | .error e => throw e
  delete id := do
    let (s, journal) ← MonadState.get
    let (removed, s) := s.delete id
    set (s, journal)
    return removed
  list := look (·.list)
  report entry := modify fun (s, journal) => (s, journal ++ [entry])

end MemoryStore

end InvoiceForms
