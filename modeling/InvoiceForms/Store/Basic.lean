import InvoiceForms.Journal.Entry
import InvoiceForms.Store.Fault
import InvoiceForms.Template.Basic

/-!
# Template stores

What resolving and governing need of a store, in any monad. A store holds templates by id and one
pointer to the default template; the flag of a template that a store returns reflects the pointer.
-/

namespace InvoiceForms

/-- The operations of a store. Nothing stored under an id, or no default, is no fault. -/
structure TemplateStore (m : Type → Type u) where
  get : String → ExceptT StoreFault m (Option Template)
  getDefault : ExceptT StoreFault m (Option Template)
  defaultId : ExceptT StoreFault m (Option String)
  upsert : Template → ExceptT StoreFault m Template
  setDefault : String → ExceptT StoreFault m Unit
  delete : String → ExceptT StoreFault m Bool
  list : ExceptT StoreFault m (List Template)
  report : JournalEntry → m Unit

end InvoiceForms
