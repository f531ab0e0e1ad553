import InvoiceForms.Service.Failure
import InvoiceForms.Store.Resolver

/-!
# Generating documents

A `Generator` joins a resolver and an assembler: it finds the template of a document and renders it
with the data of one invoice, over any store.
-/

namespace InvoiceForms

universe u

/-- A resolver and an assembler. -/
structure Generator (m : Type → Type u) where
  resolver : Resolver m
  assembler : Assembler

namespace Generator

variable {m : Type → Type u} [Monad m]

/-- Runs an operation of the store; its fault becomes a failure. -/
def onStore {α : Type} (failure : StoreFault → Failure) (p : ExceptT StoreFault m α) :
    ExceptT Failure m α := do
  match ← ExceptT.lift p.run with
  | .ok a => return a
  | .error e => throw (failure e)

/-- Goes on with a result, or ends in a failure. -/
def lift {ε α : Type} (failure : ε → Failure) : Except ε α → ExceptT Failure m α
  | .ok a => return a
  | .error e => throw (failure e)

/-- Reports entries to the journal, in order. -/
def reportAll (g : Generator m) : List JournalEntry → m Unit
  | [] => return ()
  | e :: rest => do
    g.resolver.store.report e
    g.reportAll rest

/-- Finds the template to use when one may be asked for. -/
def resolve (g : Generator m) (id : Option String) : ExceptT Failure m Resolved :=
  onStore .store (g.resolver.resolve id)

/-- Assembles a document and reports how it went. -/
def assemble (g : Generator m) (t : Template) (ctx : Context) (source : Option SourceKind) :
    ExceptT Failure m RenderedDocument := do
  ExceptT.lift (g.reportAll (g.assembler.journal t ctx source))
  lift .render (g.assembler.assemble t ctx source)

/-- Renders the document of a context with the template that is asked for. -/
def generate (g : Generator m) (ctx : Context) (id : Option String) :
    ExceptT Failure m RenderedDocument := do
  let r ← g.resolve id
  g.assemble r.template ctx (some r.source)

end Generator

end InvoiceForms
