import InvoiceForms.Service.Tools

/-!
# The smoke run

A short run through the whole library: it stores the builtin template under another name as the
default, renders the sample order with it, and tells what came out.
-/

namespace InvoiceForms.Smoke

open ServiceProgram

/-- The company of the run. -/
def company : Company where
  name := "Smoke Manufaktur"
  taxInfo := { taxNumber := some "12/345/67890", vatId := some "DE123456789" }

/-- The template of the run. -/
def template : Template :=
  { Builtin.template with
    id := "smoke", name := "Smoke Template", company := company, isDefault := true }

/-- What is told of a section. -/
def sectionLine (s : RenderedSection) : String :=
  "[smoke] " ++ toString s.position ++ ". " ++ s.type ++ ": " ++ toString s.fields.length ++
    " fields, " ++ toString s.rows.length ++ " rows"

/-- What is told of a warning. -/
def warningLine (w : Warning) : String := "[smoke] warning " ++ w.code ++ ": " ++ w.message

/-- What is told of a document. -/
def lines (root : String) (d : RenderedDocument) : List String :=
  ["[smoke] INVOICE_TEMPLATES_ROOT=" ++ root,
    "[smoke] Template: " ++ d.templateId ++ " (" ++
      (d.sourceKind.map (·.word)).getD "None" ++ ")"] ++
    d.sections.map sectionLine ++ d.warnings.map warningLine ++ ["[smoke] Done."]

/-- The run, and what it tells. -/
def run (s : Settings) : ServiceProgram (List String) := do
  let _ ← onStore .store (s.governor.save template)
  let invoice ← lift .data (Sample.invoice s.today (.text Language.de.tag))
  let ctx ← lift .invoice (Sample.context s.today company invoice)
  let d ← s.generator.generate ctx none
  return lines s.store.root.shown d

end InvoiceForms.Smoke
