import InvoiceForms.Invoice.Sample
import InvoiceForms.Service.Audit
import InvoiceForms.Service.Generation
import InvoiceForms.Service.Settings
import InvoiceForms.Store.Governor
import InvoiceForms.Value.Shown

/-!
# Tools

The operations that assistants call: listing, reading, validating, storing and deleting templates,
choosing the default, and rendering documents. Each is a program that ends in a JSON answer or in a
`Failure`. Tools that write do nothing unless writing is switched on, and every attempt is recorded
before anything else happens.
-/

namespace InvoiceForms

open InvoiceForms.Calendar InvoiceForms.Record InvoiceForms.Text

/-- Programs of the service. -/
abbrev ServiceProgram := ExceptT Failure Program

namespace ServiceProgram

variable {α : Type}

/-- Runs an operation of the store; its fault becomes a failure. -/
def onStore (failure : StoreFault → Failure) (p : StoreProgram α) : ServiceProgram α :=
  Generator.onStore failure p

/-- Reports to the journal. -/
def report (entry : JournalEntry) : ServiceProgram Unit :=
  ExceptT.lift (Program.perform (.report entry))

/-- Goes on with a result, or ends in a failure. -/
def lift {ε : Type} (failure : ε → Failure) (result : Except ε α) : ServiceProgram α :=
  Generator.lift failure result

end ServiceProgram

namespace Settings

/-- The validator of the service. -/
def validator (s : Settings) : Validator := { policy := s.policy }

/-- The resolver of the service. -/
def resolver (s : Settings) : Resolver Program := ⟨s.store.operations, s.validator⟩

/-- The governor of the service. -/
def governor (s : Settings) : Governor Program := ⟨s.store.operations, s.validator⟩

/-- The generator of the service. -/
def generator (s : Settings) : Generator Program := ⟨s.resolver, { validator := s.validator }⟩

end Settings

namespace Tools

open ServiceProgram

/-- The refusal when the store cannot be used. -/
def refuseUnavailable (start : String) : StoreFault → Failure
  | .unavailable cause => .refusal (start ++ cause.message)
  | e => .store e

/-- How refusals begin when the store cannot be used. -/
def storeUnavailable : String := "Template store unavailable: "

/-- Refuses to write while that is switched off. -/
def requireWrites (s : Settings) : ServiceProgram Unit :=
  if s.writes then return () else throw .writesDisabled

/-- Records an attempt to write. -/
def recordAttempt (s : Settings) (tool templateId : String) : ServiceProgram Unit :=
  ExceptT.lift (Audit.record s.audit tool templateId)

/-- The id that a value stands for. A value that cannot be written out stands for none. -/
def normalId (v : Value) : Except Failure String :=
  let id := match v with
    | .null => ""
    | v => trimBlank v.plain
  if !v.isWritable then .error (.oversizedInteger none)
  else if id = "" then .error (.refusal "template_id is required")
  else if TemplateId.isValid id then .ok id
  else .error (.refusal ("Invalid template_id: " ++ quoted id))

/-- The id that a value stands for, or a failure. -/
def takeId (v : Value) : ServiceProgram String := lift id (normalId v)

/-- The stored template with an id. -/
def stored (s : Settings) (id : Value) : ServiceProgram Template := do
  let id ← takeId id
  let found ← onStore
    (fun e => match e with
      | .configuration _ => .refusal ("Template " ++ id ++ " is invalid")
      | e => refuseUnavailable storeUnavailable e)
    (s.store.get id)
  match found with
  | some t => return t
  | none => throw (.refusal ("Template " ++ id ++ " not found"))

/-- A listing of summaries. -/
def listing (pointer : Option String) (ts : List Template) : Json := .object [
  ("count", .ofNat ts.length), ("default_id", .ofText? pointer),
  ("templates", .list (ts.map (·.summary.toJson)))]

/-- All templates of the store and the id of the default. -/
def listed (s : Settings) : StoreProgram (List Template × Option String) := do
  let ts ← s.store.list
  return (ts, ← s.store.defaultId)

/-- Lists the stored templates. -/
def listTemplates (s : Settings) : ServiceProgram Json := do
  let (ts, pointer) ← onStore (refuseUnavailable storeUnavailable) (listed s)
  return listing pointer ts

/-- Gives a template and its issues. -/
def getTemplate (s : Settings) (id : Value) : ServiceProgram Json := do
  let t ← stored s id
  let issues ← lift .unchecked (s.validator.validate t)
  return .object [("template", t.dump), ("issues", Issue.listToJson issues)]

/-- A report of issues. -/
def issueReport (t : Template) (issues : List Issue) : Json := .object [
  ("template_id", .text t.id), ("valid", .bool (!Issue.hasErrors issues)),
  ("issues", Issue.listToJson issues)]

/-- Validates a given template, or a stored one. -/
def validateTemplate (s : Settings) (given : Option Template) (id : Value) :
    ServiceProgram Json := do
  let t ← match given with
    | some t => pure t
    | none => stored s id
  return issueReport t (← lift .unchecked (s.validator.validate t))

/-- The refusal of a template with errors. -/
def errorsRefusal (t : Template) (issues : List Issue) : Failure :=
  .refusal ("Template " ++ t.id ++ " has validation errors: " ++
    joinWith "; " ((Issue.errors issues).map fun i => i.path ++ ": " ++ i.message))

/-- The refusal when a template cannot be saved. -/
def saveRefusal : StoreFault → Failure
  | .configuration cause => .refusal cause.message
  | .notFound id => .refusal (StoreFault.notFound id).message
  | e => refuseUnavailable "Failed to save template: " e

/-- Stores a template without errors. -/
def upsertTemplate (s : Settings) (t : Template) : ServiceProgram Json := do
  requireWrites s
  recordAttempt s "upsert_template" t.id
  let issues ← lift .unchecked (s.validator.validate t)
  if Issue.hasErrors issues then throw (errorsRefusal t issues)
  let saved ← onStore saveRefusal (s.governor.save t)
  return .object [("template", saved.dump), ("issues", Issue.listToJson issues),
    ("template_path", .text (s.store.templatePath saved.id).shown)]

/-- Deletes a template that is not the default. -/
def deleteTemplate (s : Settings) (id : Value) : ServiceProgram Json := do
  requireWrites s
  let id ← takeId id
  recordAttempt s "delete_template" id
  let failed := refuseUnavailable "Failed to delete template: "
  if (← onStore failed s.store.defaultId) = some id then
    throw (.refusal ("Template " ++ id ++ " is the default template and cannot be deleted. " ++
      "Set another default first."))
  if ← onStore failed (s.store.delete id) then
    return .object [("deleted", .bool true), ("template_id", .text id)]
  else throw (.refusal ("Template " ++ id ++ " not found"))

/-- The refusal when a template cannot become the default. -/
def defaultRefusal (id : String) : StoreFault → Failure
  | .notFound _ => .refusal ("Template " ++ id ++ " not found")
  | .configuration cause => .refusal cause.message
  | e => refuseUnavailable "Failed to set default template: " e

/-- Makes a stored template the default. -/
def setDefaultTemplate (s : Settings) (id : Value) : ServiceProgram Json := do
  requireWrites s
  let id ← takeId id
  recordAttempt s "set_default_template" id
  onStore (defaultRefusal id) (s.governor.setDefault id)
  return .object [("default_id", .text id)]

/-- Renders the document of a request. -/
def renderDocument (s : Settings) (request : RenderRequest) : ServiceProgram RenderedDocument := do
  let r ← s.generator.resolve request.templateId
  let company := request.company.getD r.template.company
  let ctx ← lift .invoice
    (Context.ofInvoice company request.customer request.order request.invoice)
  s.generator.assemble r.template ctx (some r.source)

/-- Turns the failures of rendering into refusals. -/
def refuseRendering : Failure → Failure
  | .render e =>
    match e.invariant? with
    | some invariant => .refusal ("Rendering failed (" ++ invariant ++ "): " ++ e.message)
    | none => .render e
  | .store e => refuseUnavailable storeUnavailable e
  | e => e

/-- Runs a program whose failures of rendering are refusals. -/
def refusing {α : Type} (p : ServiceProgram α) : ServiceProgram α := do
  match ← ExceptT.lift p.run with
  | .ok a => return a
  | .error e => throw (refuseRendering e)

/-- Renders the document of a request. -/
def renderInvoiceDocument (s : Settings) (request : RenderRequest) : ServiceProgram Json := do
  return (← refusing (renderDocument s request)).toJson

/-- Renders a template with sample data, in the language that data names. -/
def previewDocument (s : Settings) (id : Option String) (language : Value) :
    ServiceProgram RenderedDocument := do
  let r ← s.generator.resolve id
  let invoice ← lift .data (Sample.invoice s.today language)
  let ctx ← lift .invoice (Sample.context s.today r.template.company invoice)
  s.generator.assemble r.template ctx (some r.source)

/-- The journal entry of a preview of another template than the one asked for. -/
def fallbackEntry (requested : String) (source : Option SourceKind) : JournalEntry where
  level := .info
  origin := "invoice_templates.backends.templates"
  message := "Preview fell back from requested template"
  details := [("requested", .text requested), ("source", .ofText? (source.map (·.word)))]

/-- The id that data asks for, if any. What is no text is only found out in the store, which looks
for the default template first. -/
def requestedId (s : Settings) (id : Value) : ServiceProgram (Option String) := do
  if id.isTruthy then
    match takeText id with
    | .ok id => return some id
    | .error e =>
      let _ ← onStore .store s.store.defaultId
      throw (.data (.misuse e))
  else return none

/-- Renders a template with sample data. -/
def previewTemplate (s : Settings) (id language : Value) : ServiceProgram Json := do
  let (requested, d) ← refusing do
    let requested ← requestedId s id
    return (requested, ← previewDocument s requested language)
  match requested with
  | some id => if d.sourceKind ≠ some .explicit then report (fallbackEntry id d.sourceKind)
  | none => pure ()
  return d.toJson

/-- Lists the variables of content strings. -/
def listVariables : Json := Catalogue.standard.toJson

/-- The builtin template under another id, and a sample request. -/
def sampleInput : Json := .object [
  ("template", { Builtin.template with id := "standard" }.toDocument),
  ("render_request", Sample.request)]

end Tools

end InvoiceForms
