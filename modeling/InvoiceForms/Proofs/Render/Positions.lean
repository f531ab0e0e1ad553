import Mathlib.Data.List.Nodup
import InvoiceForms.Proofs.Content.Warnings
import InvoiceForms.Proofs.Render.Assembly

/-!
# Sections in the order of their positions

A template without errors has its enabled sections at positions of their own. So there is one order
in which they can stand in a document, whatever the order in the template, and the document holds
exactly the renderings of those that are supported, with the warnings of all.
-/

namespace InvoiceForms

open InvoiceForms.Results

variable {r : Renderer} {a : Assembler} {s : Section} {t u : Template} {ctx : Context}
  {x : RenderedSection}

namespace Warning

/-- A warning that names no section is put in one. -/
theorem sectionType_inSection {w : Warning} (type : String) (none : w.sectionType = none) :
    (w.inSection type).sectionType = some type := by
  simp [inSection, none]

end Warning

namespace Renderer

/-- The warnings about rows are of one kind. -/
theorem exists_of_mem_rowsWarnings {columns : List Column} {number : Nat} {cells : List (List String)}
    {w : Warning} (member : w ∈ rowsWarnings columns number cells) :
    ∃ row count, w = .rowShape row count columns.length := by
  induction cells generalizing number with
  | nil => cases member
  | cons row rest ih =>
    rcases List.mem_append.mp member with here | later
    · unfold rowWarnings at here
      split at here
      · cases here
      · exact ⟨number, row.length, List.mem_singleton.mp here⟩
    · exact ih later

theorem of_mem_expandFields {lookup : Lookup} {content : Entries String}
    {expansions : List (String × Expansion)} (given : expandFields lookup content = .ok expansions)
    {e : String × Expansion} (member : e ∈ expansions) :
    ∃ text, Expansion.ofContent lookup text = .ok e.2 := by
  induction content generalizing expansions with
  | nil =>
    cases given
    simp at member
  | cons field rest ih =>
    obtain ⟨first, firstGiven, others⟩ := bind_eq_ok.mp given
    obtain ⟨tail, tailGiven, made⟩ := bind_eq_ok.mp others
    rw [return_eq_ok] at made
    subst made
    rcases List.mem_cons.mp member with rfl | later
    · exact ⟨_, firstGiven⟩
    · exact ih tailGiven later

/-- An enabled section of a supported type keeps its type and its position, and every warning about
it names the type. -/
theorem renderEnabled_keeps (rendered : renderEnabled s ctx = .ok x) :
    x.type = s.type ∧ x.position = s.position ∧ ∀ w ∈ x.warnings, w.sectionType = some s.type := by
  obtain ⟨expansions, filled, rest⟩ := bind_eq_ok.mp rendered
  obtain ⟨loose, -, made⟩ := bind_eq_ok.mp rest
  rw [return_eq_ok] at made
  subst made
  refine ⟨rfl, rfl, ?_⟩
  intro w member
  simp only [List.mem_map, List.mem_append, List.mem_flatMap] at member
  obtain ⟨v, ⟨e, inside, arose⟩ | short, rfl⟩ := member
  · obtain ⟨text, expanded⟩ := of_mem_expandFields (mapError_eq_ok.mp filled) inside
    exact v.sectionType_inSection _ (Expansion.ofContent_of_mem_warnings expanded arose).sectionType
  · obtain ⟨row, count, rfl⟩ := exists_of_mem_rowsWarnings short
    exact Warning.sectionType_inSection _ rfl

/-- What is rendered of a section, or left of a skipped one, keeps its type and its position, and
every warning about it names the type. -/
theorem render_keeps (rendered : r.render s ctx = .ok x) :
    x.type = s.type ∧ x.position = s.position ∧ ∀ w ∈ x.warnings, w.sectionType = some s.type := by
  unfold render at rendered
  split at rendered
  · cases rendered
    simp [skip, Warning.inSection, Warning.disabledSection]
  · split at rendered
    · cases rendered
      simp [skip, Warning.inSection, Warning.unsupportedSection]
    · exact renderEnabled_keeps rendered

end Renderer

namespace Assembler

/-- The sections of a template without errors stand at ascending positions. -/
theorem pairwise_lt_ordered (distinct : (t.enabledSections.map (·.position)).Nodup) :
    (ordered t).Pairwise fun s u => s.position < u.position := by
  have apart : (ordered t).Pairwise fun s u => s.position ≠ u.position := by
    have moved := ((ordered_perm t).map (·.position)).nodup_iff.mpr distinct
    exact List.pairwise_map.mp moved
  apply List.Pairwise.imp₂ _ (pairwise_ordered t) apart
  intro s u below other
  omega

/-- Sections at positions of their own stand in one order, however they are listed. -/
theorem ordered_of_perm (same : u.sections.Perm t.sections)
    (distinct : (t.enabledSections.map (·.position)).Nodup) : ordered u = ordered t := by
  have perm : (ordered u).Perm (ordered t) :=
    (ordered_perm u).trans ((same.filter _).trans (ordered_perm t).symm)
  apply perm.eq_of_pairwise _ (pairwise_ordered u) (pairwise_ordered t)
  intro s v inside inside' below above
  have member := (ordered_perm t).mem_iff.mp (perm.mem_iff.mp inside)
  have member' := (ordered_perm t).mem_iff.mp inside'
  exact List.inj_on_of_nodup_map distinct member member' (Int.le_antisymm below above)

/-- Of the sections that were gone through, those of a supported type are left. -/
theorem forall₂_supported {sections : List Section} {rendered : List RenderedSection}
    (enabled : ∀ s ∈ sections, s.enabled = true)
    (each : List.Forall₂ (fun s x => r.render s ctx = .ok x) sections rendered) :
    List.Forall₂ (fun s x => r.render s ctx = .ok x)
      (sections.filter fun s => r.supports s.type) (rendered.filter fun x => !x.skipped) := by
  induction each with
  | nil => exact .nil
  | @cons s x sections rendered first tail ih =>
    rw [List.forall_mem_cons] at enabled
    have skipped : (!x.skipped) = r.supports s.type := by
      rw [Renderer.skipped_of_render first, enabled.1, Bool.true_and, Bool.not_not]
    rw [List.filter_cons, List.filter_cons, skipped]
    split
    · exact .cons first (ih enabled.2)
    · exact ih enabled.2

/-- Renderings stand at the positions of their sections. -/
theorem pairwise_lt_of_forall₂ {sections : List Section} {rendered : List RenderedSection}
    (each : List.Forall₂ (fun s x => r.render s ctx = .ok x) sections rendered)
    (ascending : sections.Pairwise fun s u => s.position < u.position) :
    rendered.Pairwise fun x y => x.position < y.position := by
  have positions : rendered.map (·.position) = sections.map (·.position) := by
    induction each with
    | nil => rfl
    | cons first tail ih =>
      rw [List.map_cons, List.map_cons, (Renderer.render_keeps first).2.1, ih ascending.of_cons]
  rw [← List.pairwise_map (f := fun x : RenderedSection => x.position), positions,
    List.pairwise_map]
  exact ascending

/-- What a document of a template holds: the enabled sections in strictly ascending order of their
positions are gone through once each, those of a supported type are its sections, and its warnings
are the issues of the template followed by the warnings of all sections gone through. -/
structure DocumentOf (a : Assembler) (t : Template) (ctx : Context) (issues : List Issue)
    (order : List Section) (rendered : List RenderedSection) (d : RenderedDocument) : Prop where
  perm : order.Perm t.enabledSections
  ascending : order.Pairwise fun s u => s.position < u.position
  each : List.Forall₂ (fun s x => a.renderer.render s ctx = .ok x) order rendered
  sections : List.Forall₂ (fun s x => a.renderer.render s ctx = .ok x)
    (order.filter fun s => a.renderer.supports s.type) d.sections
  positions : d.sections.Pairwise fun x y => x.position < y.position
  validated : a.validator.validate t = .ok issues
  warnings : d.warnings = issues.map (fun i =>
    { code := "validation." ++ i.rule, message := i.message, path := i.path }) ++
      rendered.flatMap (·.warnings)
  named : List.Forall₂ (fun s x => ∀ w ∈ x.warnings, w.sectionType = some s.type) order rendered

/-- Assembling is gathering what is rendered of the sections in order. -/
theorem assemble_of_renderAll {issues : List Issue}
    (validated : a.validator.validate t = .ok issues) (clean : Issue.errors issues = []) {rendered : List RenderedSection} (given : renderAll a.renderer ctx (ordered t) = .ok rendered)
    (source : Option SourceKind) : a.assemble t ctx source =
      if (rendered.filter fun x => !x.skipped).isEmpty then .error (.empty t.id)
      else .ok {
        templateId := t.id, templateName := t.name, sourceKind := source, layout := t.layout,
        sections := rendered.filter fun x => !x.skipped,
        warnings := issues.map issueWarning ++ rendered.flatMap (·.warnings) } := by
  simp only [assemble, validated, clean, given]

/-- A template without errors whose enabled sections can be rendered is empty exactly when none of
them is of a supported type, and becomes a document otherwise. The document holds the renderings of
the enabled sections of a supported type, each once and at strictly ascending positions, and listing
the sections of the template in another order does not change them. Its warnings are those of
validation in the order of the issues, then those of the sections in the order of their positions,
and each of the latter names the type of its section. -/
theorem assemble_by_position {issues : List Issue} (validated : a.validator.validate t = .ok issues)
    (usable : Issue.hasErrors issues = false)
    (each : ∀ s ∈ t.enabledSections, ∃ x, a.renderer.render s ctx = .ok x)
    (source : Option SourceKind) :
    (a.assemble t ctx source = .error (.empty t.id) ↔
        ∀ s ∈ t.enabledSections, a.renderer.supports s.type = false) ∧
      (a.assemble t ctx source = .error (.empty t.id) ∨
        ∃ d order rendered, a.assemble t ctx source = .ok d ∧
          a.DocumentOf t ctx issues order rendered d) ∧
      ∀ sections : List Section, sections.Perm t.sections →
        (a.assemble { t with sections := sections } ctx source).map (·.sections) =
          (a.assemble t ctx source).map (·.sections) := by
  have clean := (Issue.hasErrors_eq_false_iff _).mp usable
  have structural : Validator.structuralErrors t = [] := by
    rw [← Validator.errors_of_validate validated, clean]
  have distinct := (Validator.structuralErrors_eq_nil_iff.mp structural).2.1
  obtain ⟨rendered, given⟩ : ∃ rendered, renderAll a.renderer ctx (ordered t) = .ok rendered :=
    renderAll_of_each fun s member => each s ((ordered_perm t).mem_iff.mp member)
  have gathered := assemble_of_renderAll validated clean given source
  have empty_iff : (rendered.filter fun x => !x.skipped).isEmpty = true ↔
      ∀ s ∈ t.enabledSections, a.renderer.supports s.type = false := by
    rw [List.isEmpty_iff, all_skipped_iff given]
    simp [Template.enabledSections]
  refine ⟨?_, ?_, ?_⟩
  · rw [gathered, ← empty_iff]
    split <;> simp_all
  · by_cases empty : (rendered.filter fun x => !x.skipped).isEmpty = true
    · left
      rw [gathered, if_pos empty]
    · right
      have gone := renderAll_eq_ok.mp given
      have enabled : ∀ s ∈ ordered t, s.enabled = true := fun s h => (mem_ordered.mp h).2
      have ascending := pairwise_lt_ordered distinct
      have left := forall₂_supported enabled gone
      refine ⟨_, ordered t, rendered, by rw [gathered, if_neg empty], ordered_perm t, ascending,
        gone, left, pairwise_lt_of_forall₂ left (ascending.filter _), validated, rfl, ?_⟩
      exact gone.imp fun s x first => (Renderer.render_keeps first).2.2
  · intro sections same
    obtain ⟨issues', validated', clean'⟩ :
        ∃ issues', a.validator.validate { t with sections := sections } = .ok issues' ∧
          Issue.errors issues' = [] := by
      rw [← Validator.isUsable_eq_true_iff, Validator.isUsable_iff]
      exact Validator.structuralErrors_eq_nil_of_perm same structural
    have given' : renderAll a.renderer ctx (ordered { t with sections := sections }) =
        .ok rendered := by
      rw [ordered_of_perm same distinct, given]
    rw [gathered, assemble_of_renderAll validated' clean' given' source]
    split <;> rfl

/-- A template whose sections stand in another order than their positions, one of them of a type that
nobody knows. -/
def scattered : Template where
  id := "scattered"
  name := "Scattered"
  company := { name := "Atelier" }
  sections := [
    { variant := .plain .footer, position := 7, content := [("line", "Thanks")] },
    { variant := .unsupported "stamp" [], position := 3 },
    { variant := .plain .header, position := -1, content := [("title", "\x7b\x7bnobody\x7d\x7d")] }]

/-- Its document is the same when its sections are listed backwards. -/
theorem scattered_by_position :
    ∃ issues, Validator.validate {} scattered = .ok issues ∧ Issue.hasErrors issues = false ∧
      (∀ s ∈ scattered.enabledSections, ∃ x, Renderer.render {} s {} = .ok x) ∧
      (∃ d order rendered, assemble {} scattered {} none = .ok d ∧
        DocumentOf {} scattered {} issues order rendered d) ∧
      (assemble {} { scattered with sections := scattered.sections.reverse } {} none).map
        (·.sections) = (assemble {} scattered {} none).map (·.sections) := by
  obtain ⟨issues, validated, clean⟩ :
      ∃ issues, Validator.validate {} scattered = .ok issues ∧ Issue.errors issues = [] := by
    rw [← Validator.isUsable_eq_true_iff, Validator.isUsable_iff,
      Validator.structuralErrors_eq_nil_iff]
    decide
  have usable := (Issue.hasErrors_eq_false_iff issues).mpr clean
  have each : ∀ s ∈ scattered.enabledSections, ∃ x, Renderer.render {} s {} = .ok x := by
    have all : ∀ s ∈ scattered.enabledSections,
        (Renderer.render {} s {}).toOption.isSome = true := by decide
    intro s member
    obtain ⟨x, rendered⟩ := Option.isSome_iff_exists.mp (all s member)
    exact ⟨x, toOption_eq_some.mp rendered⟩
  obtain ⟨empty, made, moved⟩ := assemble_by_position (a := {}) validated usable each none
  refine ⟨issues, validated, usable, each, made.resolve_left ?_, moved _ (List.reverse_perm _)⟩
  rw [empty]
  decide

end Assembler

end InvoiceForms
