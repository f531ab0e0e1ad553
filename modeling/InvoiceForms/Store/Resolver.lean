import InvoiceForms.Json.Printer
import InvoiceForms.Render.Document
import InvoiceForms.Store.Basic
import InvoiceForms.Template.Builtin

/-!
# Resolving templates

`Resolver.resolve` finds the template of a document: the one asked for, else the default, else the
builtin one. A template that is missing, no use, or has errors is reported and passed over; only a
store that fails otherwise ends the search, and a template that cannot be validated.
-/

namespace InvoiceForms

universe u

/-- A template and how it was found. -/
structure Resolved where
  template : Template
  source : SourceKind
deriving DecidableEq, Inhabited

/-- A store and what its templates are held to. -/
structure Resolver (m : Type → Type u) where
  store : TemplateStore m
  validator : Validator := {}

namespace Resolver

variable {m : Type → Type u} [Monad m]

/-- A journal entry of resolving. -/
def entry (level : Level) (message : String) (details : Entries Json) : JournalEntry :=
  { level := level, origin := "invoice_templates.rendering.resolver",
    message := message, details := details }

/-- Reports to the journal. -/
def report (r : Resolver m) (e : JournalEntry) : ExceptT StoreFault m Unit :=
  ExceptT.lift (r.store.report e)

/-- The rules that errors among issues broke, in order and each once. -/
def brokenRules (issues : List Issue) : List String :=
  (((Issue.errors issues).map (·.rule)).mergeSort fun a b => decide (a ≤ b)).eraseDups

/-- The label of the search for the default template. -/
def defaultLabel : String := "default"

/-- The template that a search gives, if it can be used. -/
def usable (r : Resolver m) (label : String) (fetch : ExceptT StoreFault m (Option Template)) :
    ExceptT StoreFault m (Option Template) := do
  match ← ExceptT.lift fetch.run with
  | .error (.configuration e) =>
    r.report (entry .warning ("Template " ++ label ++ " could not be loaded: " ++ e.message)
      [("template", .text label)])
    return none
  | .error e => throw e
  | .ok none =>
    if label ≠ defaultLabel then
      r.report (entry .warning ("Template " ++ label ++ " not found; falling back") [])
    return none
  | .ok (some t) =>
    match r.validator.validate t with
    | .error e => throw (.unchecked e)
    | .ok issues =>
      if Issue.hasErrors issues then
        r.report (entry .warning ("Template " ++ t.id ++ " failed validation; falling back")
          [("template", .text t.id), ("rules", .ofTexts (brokenRules issues))])
        return none
      else return some t

/-- The default template, else the builtin one. -/
def resolveDefault (r : Resolver m) : ExceptT StoreFault m Resolved := do
  match ← r.usable defaultLabel r.store.getDefault with
  | some t => return ⟨t, .default⟩
  | none =>
    r.report (entry .info "Using builtin invoice template" [])
    return ⟨Builtin.template, .builtin⟩

/-- The template to use when one may be asked for; the empty id asks for none. -/
def resolve (r : Resolver m) (requested : Option String) : ExceptT StoreFault m Resolved := do
  match requested.filter (· ≠ "") with
  | none => r.resolveDefault
  | some id =>
    match ← r.usable id (r.store.get id) with
    | some t => return ⟨t, .explicit⟩
    | none => r.resolveDefault

end Resolver

end InvoiceForms
