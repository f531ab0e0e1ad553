import Mathlib.Data.List.Forall2
import InvoiceForms.Proofs.Results
import InvoiceForms.Proofs.Validation.Errors
import InvoiceForms.Render.Document

/-!
# What assembling gives

A template without errors is assembled section by section: it becomes a document as soon as one of
its enabled sections is of a supported type, and it is empty otherwise, provided that each section
can be rendered.
-/

namespace InvoiceForms

open InvoiceForms.Results

namespace Renderer

/-- A rendered section is skipped when it is switched off or not supported. -/
theorem skipped_of_render {r : Renderer} {s : Section} {ctx : Context} {x : RenderedSection}
    (rendered : r.render s ctx = .ok x) : x.skipped = !(s.enabled && r.supports s.type) := by
  unfold render at rendered
  split at rendered
  · next off =>
    cases rendered
    simp only [skip, Bool.not_eq_true'] at off ⊢
    rw [off]
    rfl
  · next on =>
    simp only [Bool.not_eq_true', Bool.not_eq_false] at on
    split at rendered
    · next unsupported =>
      cases rendered
      simp only [skip, Bool.not_eq_true'] at unsupported ⊢
      rw [on, unsupported]
      rfl
    · next supported =>
      simp only [Bool.not_eq_true', Bool.not_eq_false] at supported
      obtain ⟨_, -, rest⟩ := bind_eq_ok.mp rendered
      obtain ⟨_, -, made⟩ := bind_eq_ok.mp rest
      cases made
      rw [on, supported]
      rfl

end Renderer

namespace Assembler

/-- Sections are rendered together when each of them is. -/
theorem renderAll_eq_ok {r : Renderer} {ctx : Context} {sections : List Section}
    {rendered : List RenderedSection} :
    renderAll r ctx sections = .ok rendered ↔
      List.Forall₂ (fun s x => r.render s ctx = .ok x) sections rendered := by
  induction sections generalizing rendered with
  | nil =>
    rw [List.forall₂_nil_left_iff, renderAll]
    exact ⟨fun h => by cases h; rfl, fun h => by rw [h]⟩
  | cons s rest ih =>
    rw [List.forall₂_cons_left_iff, renderAll, bind_eq_ok]
    constructor
    · rintro ⟨x, first, others⟩
      obtain ⟨xs, tail, made⟩ := bind_eq_ok.mp others
      exact ⟨x, xs, first, ih.mp tail, (return_eq_ok.mp made).symm⟩
    · rintro ⟨x, xs, first, tail, rfl⟩
      exact ⟨x, first, bind_eq_ok.mpr ⟨xs, ih.mpr tail, rfl⟩⟩

theorem renderAll_of_each {r : Renderer} {ctx : Context} {sections : List Section}
    (each : ∀ s ∈ sections, ∃ x, r.render s ctx = .ok x) :
    ∃ rendered, renderAll r ctx sections = .ok rendered := by
  induction sections with
  | nil => exact ⟨[], rfl⟩
  | cons s rest ih =>
    obtain ⟨x, first⟩ := each s List.mem_cons_self
    obtain ⟨xs, tail⟩ := ih fun s member => each s (List.mem_cons_of_mem _ member)
    exact ⟨x :: xs, renderAll_eq_ok.mpr (.cons first (renderAll_eq_ok.mp tail))⟩

/-- The sections in order are the enabled ones. -/
theorem mem_ordered {t : Template} {s : Section} :
    s ∈ ordered t ↔ s ∈ t.sections ∧ s.enabled = true := by
  rw [ordered, List.mem_mergeSort, Template.enabledSections, List.mem_filter]

/-- The sections in order are a permutation of the enabled ones. -/
theorem ordered_perm (t : Template) : (ordered t).Perm t.enabledSections :=
  List.mergeSort_perm t.enabledSections _

/-- The sections in order have ascending positions. -/
theorem pairwise_ordered (t : Template) :
    (ordered t).Pairwise fun a b => a.position ≤ b.position := by
  have trans (a b c : Section) : decide (a.position ≤ b.position) = true →
      decide (b.position ≤ c.position) = true → decide (a.position ≤ c.position) = true := by
    simp only [decide_eq_true_iff]
    exact Int.le_trans
  have total (a b : Section) :
      (decide (a.position ≤ b.position) || decide (b.position ≤ a.position)) = true := by
    simp only [Bool.or_eq_true, decide_eq_true_iff]
    exact Int.le_total a.position b.position
  exact (List.pairwise_mergeSort trans total t.enabledSections).imp fun h => decide_eq_true_iff.mp h

/-- Which of the rendered sections are skipped. -/
theorem skipped_of_renderAll {r : Renderer} {ctx : Context} {sections : List Section}
    {rendered : List RenderedSection} (given : renderAll r ctx sections = .ok rendered) :
    rendered.map (·.skipped) = sections.map fun s => !(s.enabled && r.supports s.type) := by
  induction renderAll_eq_ok.mp given with
  | nil => rfl
  | cons first tail ih =>
    rw [List.map_cons, List.map_cons, Renderer.skipped_of_render first,
      ih (renderAll_eq_ok.mpr tail)]

/-- What is rendered of a template is all skipped when none of its enabled sections is of a
supported type. -/
theorem all_skipped_iff {r : Renderer} {ctx : Context} {t : Template}
    {rendered : List RenderedSection} (given : renderAll r ctx (ordered t) = .ok rendered) :
    (rendered.filter fun x => !x.skipped) = [] ↔
      ∀ s ∈ t.sections, s.enabled = true → r.supports s.type = false := by
  have flags := skipped_of_renderAll given
  have all : (rendered.filter fun x => !x.skipped) = [] ↔
      ∀ b ∈ rendered.map (·.skipped), b = true := by
    simp
  rw [all, flags]
  constructor
  · intro skipped s member on
    have flag := skipped _ (List.mem_map_of_mem (mem_ordered.mpr ⟨member, on⟩))
    simpa [on] using flag
  · intro none b member
    obtain ⟨s, present, rfl⟩ := List.mem_map.mp member
    obtain ⟨member, on⟩ := mem_ordered.mp present
    rw [none s member on, Bool.and_false]
    rfl

/-- Of a template without errors there is only no document if a section cannot be rendered or none is. -/
theorem assemble_eq_error {a : Assembler} {t : Template} {ctx : Context} {source : Option SourceKind}
    {e : RenderFault} (usable : a.validator.isUsable t = true)
    (failed : a.assemble t ctx source = .error e) :
    (∃ cause, e = .broken cause) ∨ e = .empty t.id := by
  obtain ⟨issues, validated, clean⟩ := Validator.isUsable_eq_true_iff.mp usable
  simp only [assemble, validated, clean] at failed
  cases rendered : renderAll a.renderer ctx (ordered t) with
  | error cause =>
    rw [rendered] at failed
    cases failed
    exact .inl ⟨cause, rfl⟩
  | ok sections =>
    rw [rendered] at failed
    dsimp only at failed
    split at failed
    · cases failed
      exact .inr rfl
    · cases failed

/-- When its sections can be rendered, a template without errors is empty or becomes a document. -/
theorem assemble_of_each {a : Assembler} {t : Template} {ctx : Context}
    (usable : a.validator.isUsable t = true)
    (each : ∀ s ∈ t.sections, ∃ x, a.renderer.render s ctx = .ok x) (source : Option SourceKind) :
    if ∀ s ∈ t.sections, s.enabled = true → a.renderer.supports s.type = false
    then a.assemble t ctx source = .error (.empty t.id)
    else ∃ d, a.assemble t ctx source = .ok d ∧ d.templateId = t.id ∧ d.sourceKind = source := by
  obtain ⟨issues, validated, clean⟩ := Validator.isUsable_eq_true_iff.mp usable
  obtain ⟨rendered, given⟩ : ∃ rendered, renderAll a.renderer ctx (ordered t) = .ok rendered :=
    renderAll_of_each fun s member => each s (mem_ordered.mp member).1
  simp only [assemble, validated, clean, given, List.isEmpty_iff, all_skipped_iff given]
  split
  · rfl
  · exact ⟨_, rfl, rfl, rfl⟩

end Assembler

end InvoiceForms
