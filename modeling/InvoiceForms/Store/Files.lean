import InvoiceForms.Json.Everywhere
import InvoiceForms.Json.Printer
import InvoiceForms.Store.Basic
import InvoiceForms.Store.Program

/-!
# Stores in a directory

A `FileStore` keeps one JSON document for each template and one for the pointer. Writers hold a lock
for the template and, to move the pointer, a lock for it as well; readers take no locks, since a
document is replaced in one step. The flag inside a document does not count: the pointer alone says
which template is the default.
-/

namespace InvoiceForms

open InvoiceForms.Record InvoiceForms.Text

/-- A directory that holds templates. -/
structure FileStore where
  root : Path
deriving DecidableEq, Repr, Inhabited

/-- Programs that may end in a fault of a store. -/
abbrev StoreProgram := ExceptT StoreFault Program

namespace StoreProgram

variable {α : Type}

/-- Performs an action. -/
def perform (action : Action α) : StoreProgram α := ExceptT.lift (Program.perform action)

/-- Performs an action on files; its failure becomes a fault of the store. -/
def attempt (fault : FileFault → StoreFault) (action : Action (Except FileFault α)) :
    StoreProgram α := do
  match ← perform action with
  | .ok a => return a
  | .error e => throw (fault e)

/-- Reports to the journal. -/
def report (entry : JournalEntry) : StoreProgram Unit := perform (.report entry)

end StoreProgram

namespace FileStore

open StoreProgram

/-- The directory of the documents. -/
def templatesPath (s : FileStore) : Path := s.root ++ ["templates"]

/-- The directory of the lock files. -/
def locksPath (s : FileStore) : Path := s.root ++ [".locks"]

/-- The end of a document's file name. -/
def suffix : String := ".json"

/-- The document of a template. -/
def templatePath (s : FileStore) (id : String) : Path := s.templatesPath ++ [id ++ suffix]

/-- The document of the pointer. -/
def pointerPath (s : FileStore) : Path := s.root ++ ["default.json"]

/-- The lock file of a name. -/
def lockPath (s : FileStore) (name : String) : Path := s.locksPath ++ [name ++ ".lock"]

/-- The name of a template's lock. -/
def templateLock (id : String) : String := "template-" ++ id

/-- The name of the pointer's lock. -/
def pointerLock : String := "default"

/-- A journal entry of the store. -/
def entry (level : Level) (message : String) (details : Entries Json) : JournalEntry :=
  { level := level, origin := "invoice_templates.backends.templates_storage",
    message := message, details := details }

/-- A fault of access. -/
def noAccess (e : FileFault) : StoreFault := .unavailable (.noAccess e)

/-- Makes the directories of the store and the file of a lock, and takes the lock. -/
def takeLock (s : FileStore) (name : String) : StoreProgram Unit := do
  attempt noAccess (.makeDirectories s.templatesPath)
  attempt noAccess (.makeDirectories s.locksPath)
  attempt noAccess (.touch (s.lockPath name))
  match ← perform (.acquire (s.lockPath name)) with
  | .acquired => return ()
  | .busy => throw (.unavailable (.lockTimeout name))
  | .failed e => throw (noAccess e)

/-- Runs a program under a lock, which is given back however the program ends. -/
def locked {α : Type} (s : FileStore) (name : String) (body : StoreProgram α) :
    StoreProgram α := do
  s.takeLock name
  let outcome ← ExceptT.lift body.run
  perform (.release (s.lockPath name))
  match outcome with
  | .ok a => return a
  | .error e => throw e

/-- The text of a document as it is written. -/
def documentText (document : Json) : String :=
  Json.print .document document.sortMembers ++ "\n"

/-- Replaces a file in one step: the content is written beside it first, under a name of its own,
and that file is removed when something fails. -/
def replaceFile (directory : Path) (stem : String) (target : Path) (content : ByteArray) :
    Program (Except FileFault Unit) := do
  match ← Program.perform (.makeDirectories directory) with
  | .error e => return .error e
  | .ok _ =>
    match ← Program.perform (.makeTemporary directory stem) with
    | .error e => return .error e
    | .ok temporary =>
      let written ← Program.perform (.write temporary content)
      let moved ← match written with
        | .ok _ => Program.perform (.rename temporary target)
        | .error e => pure (.error e)
      match moved with
      | .ok _ => return .ok ()
      | .error e =>
        let _ ← Program.perform (.unlink temporary)
        return .error e

/-- Replaces the document in a file. -/
def replaceDocument (fault : FileFault → StoreFault) (directory : Path) (stem : String)
    (target : Path) (document : Json) : StoreProgram Unit := do
  match ← ExceptT.lift (replaceFile directory stem target (encode (documentText document))) with
  | .ok _ => return ()
  | .error e => throw (fault e)

/-- The result of reading a document. -/
inductive Reading
  | absent
  | unreadable (cause : FileFault)
  | malformed (cause : Json.ParseFault)
  | found (document : Json)

/-- The reading that the content of a file gives. -/
def readingOf (content : ByteArray) : Except StoreFault Reading :=
  match decodeLines content with
  | .error e => .error (.undecodable e)
  | .ok source =>
    match Json.parse source with
    | .ok document => .ok (.found document)
    | .error (.tooManyDigits count) => .error (.oversizedInteger (some count))
    | .error e => .ok (.malformed e)

/-- Reads a document. -/
def readDocument (p : Path) : StoreProgram Reading := do
  match ← perform (.read p) with
  | .ok content => MonadExcept.ofExcept (readingOf content)
  | .error e => return if e.cause = .missing then .absent else .unreadable e

/-- The id that a pointer names. -/
def pointedId? (members : Entries Json) : Option String :=
  match members.get? "templateId" with
  | some (.text id) => if id = "" then none else some id
  | _ => none

/-- The id of the default template. A pointer that is no JSON object is ignored. -/
def defaultId (s : FileStore) : StoreProgram (Option String) := do
  match ← readDocument s.pointerPath with
  | .absent => return none
  | .unreadable e => throw (.unavailable (.readPointer e))
  | .malformed _ =>
    report (entry .warning ("Ignoring unreadable default pointer " ++ s.pointerPath.shown) [])
    return none
  | .found (.object members) => return pointedId? members
  | .found _ =>
    report (entry .warning ("Ignoring malformed default pointer " ++ s.pointerPath.shown) [])
    return none

/-- The template that the members of a document describe; the id of its file stands in for a missing
one. -/
def templateOf (id : String) (isDefault : Bool) (members : Entries Json) :
    Except StoreFault Template :=
  let given : Entries Value := Value.ofMembers members
  let entries := if given.has "id" then given else given.set "id" (.text id)
  match Template.ofDocument (.mapping entries) isDefault with
  | .ok t => .ok t
  | .error (.invalid cause) => .error (.configuration (.invalid id cause))
  | .error (.misuse cause) => .error (.misuse cause)
  | .error (.unusable _) => .error (.configuration (.notObject id))

/-- Loads the template of a file, with the flag given from outside. -/
def load (s : FileStore) (id : String) (isDefault : Bool) : StoreProgram (Option Template) := do
  if TemplateId.isValid id then
    match ← readDocument (s.templatePath id) with
    | .absent => return none
    | .unreadable e => throw (.unavailable (.readTemplate id e))
    | .malformed e => throw (.configuration (.notJson id e))
    | .found (.object members) =>
      return some (← MonadExcept.ofExcept (templateOf id isDefault members))
    | .found _ => throw (.configuration (.notObject id))
  else return none

/-- The template with an id. -/
def get (s : FileStore) (id : String) : StoreProgram (Option Template) := do
  let pointer ← s.defaultId
  s.load id (pointer = some id)

/-- The default template. -/
def getDefault (s : FileStore) : StoreProgram (Option Template) := do
  match ← s.defaultId with
  | none => return none
  | some id =>
    let t ← s.load id true
    if t.isNone then
      report (entry .warning ("Default pointer names missing template " ++ id) [])
    return t

/-- Replaces the document of a template. One that cannot be written leaves it as it is. -/
def writeTemplate (s : FileStore) (t : Template) : StoreProgram Unit :=
  match Template.schema.undecodable? t with
  | some e => throw (.undecodable e)
  | none =>
    if t.toDocument.hasReadableIntegers then
      replaceDocument (fun e => .unavailable (.writeTemplate t.id e)) s.templatesPath t.id
        (s.templatePath t.id) t.toDocument
    else throw (.oversizedInteger none)

/-- Stores a template under its id. -/
def upsert (s : FileStore) (t : Template) : StoreProgram Template := do
  s.locked (templateLock t.id) (s.writeTemplate t)
  report (entry .info "Saved invoice template" [("template", .text t.id)])
  let pointer ← s.defaultId
  return { t with isDefault := pointer = some t.id }

/-- The document of a pointer. -/
def pointerDocument (id : String) : Json := .object [("templateId", .text id)]

/-- Points to a stored template. -/
def setDefault (s : FileStore) (id : String) : StoreProgram Unit := do
  if TemplateId.isValid id then
    s.locked (templateLock id) <| s.locked pointerLock do
      if ← perform (.has (s.templatePath id)) then
        replaceDocument (fun e => .unavailable (.writePointer e)) s.root "default" s.pointerPath
          (pointerDocument id)
      else throw (.notFound id)
  else throw (.notFound id)

/-- Takes the pointer back if it names a template. -/
def clearPointer (s : FileStore) (id : String) : StoreProgram Unit :=
  s.locked pointerLock do
    if (← s.defaultId) = some id then
      match ← perform (.unlink s.pointerPath) with
      | .ok _ => return ()
      | .error e => if e.cause = .missing then return () else throw (.file e)

/-- Removes the document of a template and, if it was the default, the pointer. -/
def removeTemplate (s : FileStore) (id : String) : StoreProgram Bool := do
  match ← perform (.unlink (s.templatePath id)) with
  | .ok _ =>
    s.clearPointer id
    return true
  | .error e =>
    if e.cause = .missing then return false else throw (.unavailable (.deleteTemplate id e))

/-- Removes the template with an id, if there is one. -/
def delete (s : FileStore) (id : String) : StoreProgram Bool := do
  if TemplateId.isValid id then
    let removed ← s.locked (templateLock id) (s.removeTemplate id)
    if removed then
      report (entry .info "Deleted invoice template" [("template", .text id)])
    return removed
  else return false

/-- The id that a file name stands for, when it is the name of a document. -/
def stem? (name : String) : Option String :=
  let cs := name.toList
  let ending := suffix.toList
  if ending.isSuffixOf cs ∧ ending.length < cs.length then
    some (String.ofList (cs.take (cs.length - ending.length)))
  else none

/-- The names of files among names in the directory of documents. -/
def filesAmong (s : FileStore) : List String → StoreProgram (List String)
  | [] => return []
  | name :: rest => do
    let isFile ← perform (.hasFile (s.templatesPath ++ [name]))
    let more ← s.filesAmong rest
    return if isFile then name :: more else more

/-- The ids of all documents in the order of their file names. -/
def storedIds (s : FileStore) : StoreProgram (List String) := do
  if ← perform (.has s.templatesPath) then
    let names ← s.filesAmong (← attempt .file (.list s.templatesPath))
    return (names.mergeSort fun a b => decide (a ≤ b)).filterMap stem?
  else return []

/-- Loads the templates of files; one that is no use is reported and left out. -/
def loadAll (s : FileStore) (pointer : Option String) : List String → StoreProgram (List Template)
  | [] => return []
  | id :: rest => do
    match ← ExceptT.lift (s.load id (pointer = some id)).run with
    | .ok (some t) => return t :: (← s.loadAll pointer rest)
    | .ok none => s.loadAll pointer rest
    | .error (.configuration e) =>
      report (entry .warning ("Skipping template " ++ id ++ ": " ++ e.message) [])
      s.loadAll pointer rest
    | .error e => throw e

/-- All templates that can be loaded, in the order of their file names. -/
def list (s : FileStore) : StoreProgram (List Template) := do
  let pointer ← s.defaultId
  s.loadAll pointer (← s.storedIds)

/-- The operations of a store in a directory. -/
def operations (s : FileStore) : TemplateStore Program where
  get := s.get
  getDefault := s.getDefault
  defaultId := s.defaultId
  upsert := s.upsert
  setDefault := s.setDefault
  delete := s.delete
  list := s.list
  report entry := Program.perform (.report entry)

end FileStore

end InvoiceForms
