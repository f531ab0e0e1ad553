import InvoiceForms.Proofs.Content.Variables
import InvoiceForms.Proofs.Render.Positions
import InvoiceForms.Proofs.Render.Sections
import InvoiceForms.Proofs.Validation.Arranged

/-!
# What the legal check promises

The German policy looks at a template alone: does an enabled footer or legal section refer to the tax
number or the VAT id? When it is content, and the template has no errors, the invoice shows one of
the two in such a section, whatever the rest of the data.
-/

namespace InvoiceForms

open InvoiceForms.Results

namespace LegalPolicy

/-- Without the warning, a legal section refers to a tax variable. -/
theorem hasTaxReference_of_check {t : Template}
    (content : ∀ i ∈ german.check t, i.rule ≠ "legal_tax_reference") : hasTaxReference t = true := by
  by_contra missing
  rw [Bool.not_eq_true] at missing
  refine content (missingReference t) ?_ rfl
  simp [check, missing]

/-- The sections, fields and variables that the policy goes through. -/
theorem exists_of_hasTaxReference {t : Template} (refers : hasTaxReference t = true) :
    ∃ s ∈ t.sections, s.enabled = true ∧ s.type ∈ legalTypes ∧ ∃ field ∈ s.content,
      ∃ name ∈ (Shape.ofContent field.2).variableNames, name ∈ taxVariables := by
  obtain ⟨s, legal, refers⟩ := List.any_eq_true.mp refers
  obtain ⟨name, listed, isTax⟩ := List.any_eq_true.mp refers
  obtain ⟨field, inside, listed⟩ := List.mem_flatMap.mp listed
  obtain ⟨enabled, isLegal⟩ := List.mem_filter.mp legal
  obtain ⟨member, on⟩ := List.mem_filter.mp enabled
  exact ⟨s, member, on, of_decide_eq_true isLegal, field, inside, name, listed,
    of_decide_eq_true isTax⟩

/-- Legal sections are rendered by a renderer for all kinds. -/
theorem supports_of_mem_legalTypes {type : String} (legal : type ∈ legalTypes) :
    Renderer.supports {} type = true := by
  simp only [legalTypes, List.mem_cons, List.not_mem_nil, or_false] at legal
  rcases legal with rfl | rfl <;> decide

end LegalPolicy

namespace Validator

/-- In a section without errors, no loop of a content string is left open. -/
theorem unterminatedLoops_of_sectionErrors {s : Section} (clean : sectionErrors s = [])
    {field : String × String} (member : field ∈ s.content) :
    (Shape.ofContent field.2).unterminatedLoops = [] := by
  have noErrors := (sectionErrors_eq_nil_iff.mp clean).2 field member
  by_contra opened
  simp [checkLoops, opened, Issue.errors, loopIssue, Issue.isError] at noErrors

end Validator

namespace Renderer

/-- Each content string of an enabled section of a supported type is expanded into a field. -/
theorem exists_field_of_render {r : Renderer} {s : Section} {ctx : Context} {x : RenderedSection}
    (rendered : r.render s ctx = .ok x) (on : s.enabled = true) (supported : r.supports s.type = true)
    {field : String × String} (member : field ∈ s.content) :
    ∃ e, Expansion.ofContent ctx.lookup field.2 = .ok e ∧ (field.1, e.text) ∈ x.fields := by
  rw [render, on, supported, Bool.not_true, if_neg Bool.false_ne_true, if_neg Bool.false_ne_true]
    at rendered
  obtain ⟨expansions, filled, rest⟩ := bind_eq_ok.mp rendered
  obtain ⟨loose, -, made⟩ := bind_eq_ok.mp rest
  rw [return_eq_ok] at made
  subst made
  obtain ⟨each, rfl⟩ := expandFields_eq_ok.mp (mapError_eq_ok.mp filled)
  obtain ⟨e, expanded⟩ := each field member
  have same : expansionOf ctx.lookup field.2 = e := by rw [expansionOf, expanded]; rfl
  refine ⟨e, expanded, List.mem_map.mpr ⟨(field.1, e), ?_, rfl⟩⟩
  exact List.mem_map.mpr ⟨field, member, by rw [same]⟩

end Renderer

/-- What a variable is filled in with is the text of its value. -/
theorem made_of_resolve {lookup : Lookup} {path s : String} {value : Value} {w : Warned String}
    (found : lookup path = .ok value) (text : value.contentText? = some s)
    (resolved : resolve lookup path = .ok w) : w.made = s := by
  rw [resolve, found] at resolved
  change textOrWarn path value = .ok w at resolved
  rw [textOrWarn, text] at resolved
  dsimp only at resolved
  split at resolved
  · cases resolved
    rfl
  · cases resolved

namespace Assembler

/-- Among sections that are rendered together, each has its rendering. -/
theorem exists_of_mem_renderAll {r : Renderer} {ctx : Context} {sections : List Section}
    {rendered : List RenderedSection} (given : renderAll r ctx sections = .ok rendered) {s : Section}
    (member : s ∈ sections) : ∃ x ∈ rendered, r.render s ctx = .ok x := by
  induction renderAll_eq_ok.mp given with
  | nil => cases member
  | cons first tail ih =>
    rcases List.mem_cons.mp member with rfl | later
    · exact ⟨_, List.mem_cons_self, first⟩
    · obtain ⟨x, inside, made⟩ := ih (renderAll_eq_ok.mpr tail) later
      exact ⟨x, List.mem_cons_of_mem _ inside, made⟩

/-- A document holds what is rendered of each enabled section of a supported type. -/
theorem exists_rendered_of_assemble {a : Assembler} {t : Template} {ctx : Context}
    {source : Option SourceKind} {d : RenderedDocument} (made : a.assemble t ctx source = .ok d)
    {s : Section} (member : s ∈ t.sections) (on : s.enabled = true)
    (supported : a.renderer.supports s.type = true) :
    ∃ x ∈ d.sections, a.renderer.render s ctx = .ok x := by
  simp only [assemble] at made
  split at made
  · cases made
  split at made
  · cases made
  split at made
  · cases made
  next rendered given =>
    split at made
    · cases made
    · cases made
      obtain ⟨x, inside, shown⟩ := exists_of_mem_renderAll given (mem_ordered.mpr ⟨member, on⟩)
      refine ⟨x, List.mem_filter.mpr ⟨inside, ?_⟩, shown⟩
      rw [Renderer.skipped_of_render shown, on, supported]
      rfl

/-- The legal check means what it says. Where the German policy gives no warning about the reference
to a tax variable, and validation finds no error, every document of the template shows the tax number
or the VAT id in a field of a footer or a legal section, provided that the data has a text for both. -/
theorem assemble_shows_tax_reference (v w : Validator) (german : v.policy = .german) (t : Template)
    {issues : List Issue} (validated : v.validate t = .ok issues) (clean : Issue.errors issues = [])
    (silent : ∀ i ∈ issues, i.rule ≠ "legal_tax_reference") (ctx : Context)
    {number vatId : Value} {number' vatId' : String}
    (found : ctx.lookup "company.taxInfo.taxNumber" = .ok number)
    (found' : ctx.lookup "company.taxInfo.vatId" = .ok vatId)
    (text : number.contentText? = some number') (text' : vatId.contentText? = some vatId')
    {source : Option SourceKind} {d : RenderedDocument}
    (made : assemble { validator := w } t ctx source = .ok d) :
    ∃ x ∈ d.sections, x.type ∈ ["footer", "legalInfo"] ∧ ∃ field ∈ x.fields,
      number'.toList <:+: field.2.toList ∨ vatId'.toList <:+: field.2.toList := by
  have refers : LegalPolicy.hasTaxReference t = true := by
    refine LegalPolicy.hasTaxReference_of_check fun i member => silent i ?_
    rw [(Validator.validate_eq_ok_iff.mp validated).2, Validator.findings, german]
    exact List.mem_append_right _ member
  obtain ⟨s, member, on, legal, field, inside, name, listed, isTax⟩ :=
    LegalPolicy.exists_of_hasTaxReference refers
  have supported := LegalPolicy.supports_of_mem_legalTypes legal
  obtain ⟨x, shown, rendered⟩ := exists_rendered_of_assemble made member on supported
  obtain ⟨e, expanded, filled⟩ := Renderer.exists_field_of_render rendered on supported inside
  have sections := (Validator.structuralErrors_eq_nil_iff.mp
    (Validator.errors_of_validate validated ▸ clean)).2.2
  have closed := Validator.unterminatedLoops_of_sectionErrors (sections s member) inside
  obtain ⟨made, resolved, within⟩ := Expansion.exists_resolved_of_mem expanded closed listed
  have sameType := (Renderer.render_keeps rendered).1
  refine ⟨x, shown, sameType ▸ legal, _, filled, ?_⟩
  simp only [LegalPolicy.taxVariables, List.mem_cons, List.not_mem_nil, or_false] at isTax
  rcases isTax with rfl | rfl
  · exact .inl (made_of_resolve found text resolved ▸ within)
  · exact .inr (made_of_resolve found' text' resolved ▸ within)

/-- A footer with a loop that is never run, since there are no products, and the VAT id behind it. -/
def imprint : Template where
  id := "imprint"
  name := "Imprint"
  company := { name := "Atelier" }
  sections := [{
    variant := .plain .footer
    content := [("line", "{{loop:order.products}}{{name}}" ++
      "{{/loop}} VAT {{ company.taxInfo.vatId }}")] }]

/-- Its document shows the VAT id. -/
theorem imprint_shows_tax_reference :
    let ctx : Context := { company := [("taxInfo", .mapping
      [("taxNumber", .text "21/815/08150"), ("vatId", .text "DE136695976")])] }
    ∃ issues, Validator.validate {} imprint = .ok issues ∧ Issue.errors issues = [] ∧
      (∀ i ∈ issues, i.rule ≠ "legal_tax_reference") ∧
      ∃ d, assemble {} imprint ctx none = .ok d ∧
        ∃ x ∈ d.sections, x.type ∈ ["footer", "legalInfo"] ∧ ∃ field ∈ x.fields,
          "21/815/08150".toList <:+: field.2.toList ∨ "DE136695976".toList <:+: field.2.toList := by
  intro ctx
  have usable : Validator.isUsable {} imprint = true := by
    rw [Validator.isUsable_iff, Validator.structuralErrors_eq_nil_iff]
    decide
  obtain ⟨issues, validated, clean⟩ := Validator.isUsable_eq_true_iff.mp usable
  have silent : ∀ i ∈ issues, i.rule ≠ "legal_tax_reference" := by
    have positions : Validator.sharedPositions imprint = [] :=
      Validator.sharedPositions_eq_nil_iff.mpr (by decide)
    rw [(Validator.validate_eq_ok_iff.mp validated).2, Validator.findings, positions]
    decide
  have renders : ∀ s ∈ imprint.sections, ∃ x, Renderer.render {} s ctx = .ok x := by
    have all : ∀ s ∈ imprint.sections, (Renderer.render {} s ctx).toOption.isSome = true := by
      decide
    intro s member
    obtain ⟨x, rendered⟩ := Option.isSome_iff_exists.mp (all s member)
    exact ⟨x, toOption_eq_some.mp rendered⟩
  have number : ctx.lookup "company.taxInfo.taxNumber" = .ok (.text "21/815/08150") := by
    decide
  have vatId : ctx.lookup "company.taxInfo.vatId" = .ok (.text "DE136695976") := by decide
  have outcome := assemble_of_each (a := {}) usable renders none
  rw [if_neg (by decide)] at outcome
  obtain ⟨d, made, -⟩ := outcome
  exact ⟨issues, validated, clean, silent, d, made, assemble_shows_tax_reference {} {} rfl imprint
    validated clean silent ctx number vatId rfl rfl made⟩

end Assembler

end InvoiceForms
