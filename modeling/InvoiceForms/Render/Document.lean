import InvoiceForms.Render.Section
import InvoiceForms.Validation.Check

/-!
# Rendering documents

`Assembler.assemble` validates a template and renders its enabled sections in the order of their
positions. Errors of validation stop it, and so does a template that cannot be validated or of which
nothing is rendered; warnings of validation come first among the warnings of the document.
-/

namespace InvoiceForms

open InvoiceForms.Record

/-- Why there is no document: the template cannot be validated or has errors, nothing of it is
rendered, a section cannot be rendered, or the document would hold what it cannot. -/
inductive RenderFault
  | unchecked (cause : ValidationFault)
  | invalid (templateId : String) (first : Issue) (issues : List Issue)
  | empty (templateId : String)
  | broken (cause : SectionFault)
  | rejected (cause : DataFault)
deriving DecidableEq, Repr

namespace RenderFault

/-- The reason in words. -/
def message : RenderFault → String
  | unchecked cause => cause.message
  | invalid id first _ => "Template " ++ id ++ " is invalid: " ++ first.message
  | empty id => "Template " ++ id ++ " produced no renderable sections"
  | broken cause => cause.message
  | rejected cause => cause.message

/-- What was violated: a validation rule, or that a document has sections. -/
def invariant? : RenderFault → Option String
  | invalid _ first _ => some first.rule
  | empty _ => some "renderable_sections"
  | _ => none

/-- The issues that come with a fault. -/
def issues : RenderFault → List Issue
  | invalid _ _ issues => issues
  | _ => []

end RenderFault

/-- What a template is held to and what is rendered of it. -/
structure Assembler where
  validator : Validator := {}
  renderer : Renderer := {}
deriving Inhabited

namespace Assembler

/-- The enabled sections in the order of their positions. -/
def ordered (t : Template) : List Section :=
  t.enabledSections.mergeSort fun a b => decide (a.position ≤ b.position)

/-- Renders sections one after another. -/
def renderAll (r : Renderer) (ctx : Context) :
    List Section → Except SectionFault (List RenderedSection)
  | [] => .ok []
  | s :: rest => do
    let rendered ← r.render s ctx
    return rendered :: (← renderAll r ctx rest)

/-- An issue among the warnings of a document. -/
def issueWarning (issue : Issue) : Warning :=
  { code := "validation." ++ issue.rule, message := issue.message, path := issue.path }

/-- Assembles the document of a template. -/
def assemble (a : Assembler) (t : Template) (ctx : Context) (source : Option SourceKind) :
    Except RenderFault RenderedDocument :=
  match a.validator.validate t with
  | .error e => .error (.unchecked e)
  | .ok issues =>
    match Issue.errors issues with
    | first :: _ => .error (.invalid t.id first issues)
    | [] =>
      match renderAll a.renderer ctx (ordered t) with
      | .error e => .error (.broken e)
      | .ok rendered =>
        let sections := rendered.filter fun s => !s.skipped
        if sections.isEmpty then .error (.empty t.id)
        else
          .ok {
            templateId := t.id
            templateName := t.name
            sourceKind := source
            layout := t.layout
            sections := sections
            warnings := issues.map issueWarning ++ rendered.flatMap (·.warnings) }

/-- Assembles the document of a template, with data that says how the template was found. Data that
does not is a fault of the document. -/
def assembleNamed (a : Assembler) (t : Template) (ctx : Context) (source : Value) :
    Except RenderFault RenderedDocument := do
  let d ← a.assemble t ctx none
  match SourceKind.codec.read source with
  | .ok kind => return { d with sourceKind := kind }
  | .error e => throw (.rejected ((e.under (.key "source_kind")).forRecord "RenderedDocument"))

/-- The sections that are rendered before one cannot be. -/
def renderedBeforeFault (r : Renderer) (ctx : Context) : List Section → List RenderedSection
  | [] => []
  | s :: rest =>
    match r.render s ctx with
    | .error _ => []
    | .ok rendered => rendered :: renderedBeforeFault r ctx rest

/-- What the journal says of a document. -/
def documentEntry (d : RenderedDocument) : JournalEntry where
  level := .debug
  origin := "invoice_templates.rendering.assembler"
  message := "Assembled document from template " ++ d.templateId
  details := [("sections", .ofNat d.sections.length),
    ("source", .ofText? (d.sourceKind.map (·.word))), ("warnings", .ofNat d.warnings.length)]

/-- What the journal says of an assembly. -/
def journal (a : Assembler) (t : Template) (ctx : Context) (source : Option SourceKind) :
    List JournalEntry :=
  if a.validator.isUsable t then
    (renderedBeforeFault a.renderer ctx (ordered t)).flatMap Renderer.journal ++
      match a.assemble t ctx source with
      | .ok d => [documentEntry d]
      | .error _ => []
  else []

end Assembler

end InvoiceForms
