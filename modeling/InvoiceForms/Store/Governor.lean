import InvoiceForms.Store.Basic
import InvoiceForms.Validation.Check

/-!
# Governing the default

A `Governor` lets only usable templates become the default. A template that is flagged is refused
before anything is written, and otherwise stored first and pointed to then.
-/

namespace InvoiceForms

universe u

/-- A store and what its default template is held to. -/
structure Governor (m : Type → Type u) where
  store : TemplateStore m
  validator : Validator := {}

namespace Governor

variable {m : Type → Type u} [Monad m]

/-- Refuses a template that has errors or cannot be validated. -/
def checkUsable (g : Governor m) (t : Template) : ExceptT StoreFault m Unit :=
  match g.validator.validate t with
  | .error e => throw (.unchecked e)
  | .ok issues =>
    if Issue.hasErrors issues then throw (.configuration (.notUsable t.id issues)) else return ()

/-- Makes a stored template the default. -/
def setDefault (g : Governor m) (id : String) : ExceptT StoreFault m Unit := do
  match ← g.store.get id with
  | none => throw (.notFound id)
  | some t =>
    g.checkUsable t
    let previous ← g.store.defaultId
    g.store.setDefault id
    ExceptT.lift (g.store.report
      { level := .info, origin := "invoice_templates.rendering.governor",
        message := "Default invoice template changed",
        details := [("previous", .ofText? previous), ("template", .text id)] })

/-- Stores a template; a flagged one becomes the default. -/
def save (g : Governor m) (t : Template) : ExceptT StoreFault m Template := do
  if t.isDefault then g.checkUsable t
  let stored ← g.store.upsert t
  if t.isDefault then
    g.setDefault t.id
    return (← g.store.get t.id).getD stored
  else return stored

end Governor

end InvoiceForms
