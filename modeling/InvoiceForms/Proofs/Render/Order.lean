import Mathlib.Data.List.Nodup
import InvoiceForms.Proofs.Render.Assembly
import InvoiceForms.Proofs.Render.Sections
import InvoiceForms.Proofs.Template.Documents

/-!
# Assembling templates that were sorted

A template comes back from a store with its sections in the order of their types, and each section
sorted. Positions decide where sections stand in a document, so their order there is not lost; it
decides which rule is reported when several are broken. `Template.KeepsOrder` says exactly when the
template that comes back is assembled like the one that was stored.
-/

namespace InvoiceForms

open InvoiceForms.Results
open Renderer (rendering)
open Validator (brokenRule?)

variable {p : Json → Bool} {r : Renderer} {a : Assembler} {ctx : Context} {s : Section} {t : Template}

namespace Renderer

/-- What an enabled section is rendered to, when it is. -/
def outcomeOf (r : Renderer) (ctx : Context) (s : Section) : RenderedSection :=
  if r.supports s.type then rendering ctx s else skip s (.unsupportedSection s.type)

theorem render_eq_ok (on : s.enabled = true) (data : ∀ e ∈ s.extras, ∃ j, e.2 = Value.ofJson j)
    {x : RenderedSection} : r.render s ctx = .ok x ↔
      (r.supports s.type = true → s.Renders ctx) ∧ x = outcomeOf r ctx s := by
  have switched : (!s.enabled) = false := by rw [on]; rfl
  unfold render outcomeOf
  rw [switched, if_neg Bool.false_ne_true]
  by_cases supported : r.supports s.type = true
  · have known : (!r.supports s.type) = false := by rw [supported]; rfl
    rw [known, if_neg Bool.false_ne_true, if_pos supported, Section.renderEnabled_eq_ok data]
    exact ⟨fun h => ⟨fun _ => h.1, h.2⟩, fun h => ⟨h.1 supported, h.2⟩⟩
  · have unknown : (!r.supports s.type) = true := by
      rw [eq_false_of_ne_true supported]
      rfl
    rw [if_pos unknown, if_neg supported]
    exact ⟨fun h => by cases h; exact ⟨fun h => absurd h supported, rfl⟩, fun h => by rw [h.2]⟩

end Renderer

namespace Assembler

/-- What a reader sees of the outcome of assembling: the sections apart from their warnings, or
which invariant is violated. -/
def seen : Except RenderFault RenderedDocument → Except (Option String) (List RenderedSection)
  | .ok d => .ok (d.sections.map (·.bare))
  | .error e => .error e.invariant?

/-- Two outcomes of assembling look the same: either both fail with the same invariant, or both are
documents with the same sections, each with the same fields, rows and columns in the same order. -/
def RendersAlike (x y : Except RenderFault RenderedDocument) : Prop := seen x = seen y

/-- All sections of a template that are to be rendered can be. -/
def AllRender (r : Renderer) (ctx : Context) (t : Template) : Prop :=
  ∀ s ∈ ordered t, r.supports s.type = true → s.Renders ctx

/-- The rendered sections of a template. -/
def shown (r : Renderer) (ctx : Context) (t : Template) : List RenderedSection :=
  ((ordered t).filter fun s => r.supports s.type).map fun s => (rendering ctx s).bare

/-- Nothing unknown stands in the sections of a template but data. -/
def HoldsData (t : Template) : Prop := ∀ s ∈ t.sections, ∀ e ∈ s.extras, ∃ j, e.2 = Value.ofJson j

theorem renderAll_enabled {sections : List Section} (on : ∀ s ∈ sections, s.enabled = true)
    (data : ∀ s ∈ sections, ∀ e ∈ s.extras, ∃ j, e.2 = Value.ofJson j)
    {rendered : List RenderedSection} : renderAll r ctx sections = .ok rendered ↔
      (∀ s ∈ sections, r.supports s.type = true → s.Renders ctx) ∧
        rendered = sections.map (Renderer.outcomeOf r ctx) := by
  induction sections generalizing rendered with
  | nil =>
    rw [renderAll]
    exact ⟨fun h => by cases h; exact ⟨List.forall_mem_nil _, rfl⟩, fun h => by rw [h.2]; rfl⟩
  | cons s rest ih =>
    rw [List.forall_mem_cons] at on data
    rw [renderAll, bind_eq_ok, List.forall_mem_cons]
    constructor
    · rintro ⟨x, first, others⟩
      obtain ⟨xs, tail, made⟩ := bind_eq_ok.mp others
      obtain ⟨renders, rfl⟩ := (Renderer.render_eq_ok on.1 data.1).mp first
      obtain ⟨each, rfl⟩ := (ih on.2 data.2).mp tail
      exact ⟨⟨renders, each⟩, (return_eq_ok.mp made).symm⟩
    · rintro ⟨⟨renders, each⟩, rfl⟩
      have first := (Renderer.render_eq_ok on.1 data.1).mpr ⟨renders, rfl⟩
      have tail := (ih on.2 data.2).mpr ⟨each, rfl⟩
      exact ⟨_, first, bind_eq_ok.mpr ⟨_, tail, rfl⟩⟩

/-- Of the sections that were gone through, those of a supported type are left. -/
theorem filter_outcomes (sections : List Section) :
    (sections.map (Renderer.outcomeOf r ctx)).filter (fun x => !x.skipped) =
      (sections.filter fun s => r.supports s.type).map (rendering ctx) := by
  induction sections with
  | nil => rfl
  | cons s rest ih =>
    rw [List.map_cons, List.filter_cons, List.filter_cons, ih, Renderer.outcomeOf]
    by_cases supported : r.supports s.type = true
    · rw [if_pos supported, if_pos supported, List.map_cons]
      rfl
    · rw [if_neg supported, if_neg supported]
      rfl

/-- A template that cannot be validated is refused for no rule. -/
theorem seen_of_unwritable (a : Assembler) (ctx : Context) (shares : t.SharesUnwritable) :
    seen (a.assemble t ctx none) = .error none := by
  unfold assemble
  rw [Validator.validate_of_unwritable shares]
  rfl

/-- Any other template that breaks a rule is refused for it. -/
theorem seen_of_rule (a : Assembler) (ctx : Context) {rule : String}
    (writable : ¬ t.SharesUnwritable) (broken : brokenRule? t = some rule) :
    seen (a.assemble t ctx none) = .error (some rule) := by
  rw [← Validator.head?_structuralErrors, ← Validator.errors_findings a.validator] at broken
  obtain ⟨first, head, rfl⟩ := Option.map_eq_some_iff.mp broken
  obtain ⟨rest, errors⟩ := List.head?_eq_some_iff.mp head
  unfold assemble
  rw [Validator.validate_of_writable writable]
  dsimp only
  rw [errors]
  rfl

theorem isUsable_of_clean (clean : brokenRule? t = none) : a.validator.isUsable t = true := by
  rw [← Validator.head?_structuralErrors] at clean
  exact Validator.isUsable_iff.mpr (List.head?_eq_none_iff.mp (Option.map_eq_none_iff.mp clean))

section Clean

variable (clean : brokenRule? t = none) (data : HoldsData t)

include clean data

theorem seen_of_fault (fails : ¬ AllRender a.renderer ctx t) :
    seen (a.assemble t ctx none) = .error none := by
  obtain ⟨issues, validated, none⟩ :=
    Validator.isUsable_eq_true_iff.mp (isUsable_of_clean (a := a) clean)
  unfold assemble
  rw [validated]
  dsimp only
  rw [none]
  dsimp only
  cases given : renderAll a.renderer ctx (ordered t) with
  | error e => rfl
  | ok rendered =>
    have each := (renderAll_enabled (fun s h => (mem_ordered.mp h).2)
      fun s h => data s (mem_ordered.mp h).1).mp given
    exact absurd each.1 fails

/-- A template whose sections can be rendered becomes a document as soon as there are any. -/
theorem seen_of_allRender (renders : AllRender a.renderer ctx t) :
    seen (a.assemble t ctx none) =
      if (shown a.renderer ctx t).isEmpty then .error (some "renderable_sections")
      else .ok (shown a.renderer ctx t) := by
  have given := (renderAll_enabled (fun s h => (mem_ordered.mp h).2)
    fun s h => data s (mem_ordered.mp h).1).mpr ⟨renders, rfl⟩
  obtain ⟨issues, validated, none⟩ :=
    Validator.isUsable_eq_true_iff.mp (isUsable_of_clean (a := a) clean)
  unfold assemble shown
  rw [validated]
  dsimp only
  rw [none, given]
  dsimp only
  rw [filter_outcomes, List.isEmpty_map, List.isEmpty_map]
  by_cases nothing : ((ordered t).filter fun s => a.renderer.supports s.type).isEmpty = true
  · rw [if_pos nothing, if_pos nothing]
    rfl
  · rw [if_neg nothing, if_neg nothing, seen, List.map_map]
    rfl

end Clean

/-- What is seen of a template tells whether it breaks a rule, and which. -/
theorem brokenRule?_of_seen (data : HoldsData t) {rule : String} (rule_ne : rule ≠ "renderable_sections")
    (given : seen (a.assemble t ctx none) = .error (some rule)) : brokenRule? t = some rule := by
  have writable : ¬ t.SharesUnwritable := by
    intro shares
    rw [seen_of_unwritable a ctx shares] at given
    cases given
  cases broken : brokenRule? t with
  | some other =>
    rw [seen_of_rule a ctx writable broken] at given
    cases given
    rfl
  | none =>
    by_cases renders : AllRender a.renderer ctx t
    · rw [seen_of_allRender broken data renders] at given
      split at given
      · cases given
        exact absurd rfl rule_ne
      · cases given
    · rw [seen_of_fault broken data renders] at given
      cases given

theorem brokenRule?_of_rendersAlike {u : Template} (writable : ¬ t.SharesUnwritable)
    (writable' : ¬ u.SharesUnwritable) (data : HoldsData t) (data' : HoldsData u)
    (alike : RendersAlike (a.assemble u ctx none) (a.assemble t ctx none)) :
    brokenRule? u = brokenRule? t := by
  unfold RendersAlike at alike
  cases broken : brokenRule? t with
  | some rule =>
    have rule_ne : rule ≠ "renderable_sections" := by
      rintro rfl
      exact Validator.brokenRule?_ne_renderable t broken
    exact brokenRule?_of_seen data' rule_ne (alike.trans (seen_of_rule a ctx writable broken))
  | none =>
    cases other : brokenRule? u with
    | none => rfl
    | some rule =>
      have rule_ne : rule ≠ "renderable_sections" := by
        rintro rfl
        exact Validator.brokenRule?_ne_renderable u other
      have same :=
        brokenRule?_of_seen data rule_ne (alike.symm.trans (seen_of_rule a ctx writable' other))
      rw [broken] at same
      cases same

end Assembler

namespace Template

open Assembler

/-- A template looks as before when it is sorted: the rule that it breaks first stays the first, and
where it is assembled, the order in each section that is rendered is kept. -/
structure KeepsOrder (a : Assembler) (ctx : Context) (t : Template) : Prop where
  rule : brokenRule? (t.arrange .sorted) = brokenRule? t
  sections : (∃ d, a.assemble t ctx none = .ok d) → ∀ s ∈ t.sections, s.enabled = true →
    a.renderer.supports s.type = true → s.KeepsOrder ctx

/-- A rule that a section breaks does not depend on the order of content and columns that stand in
the order of their keys already. -/
theorem sectionRule?_arrange (content : s.content.Pairwise fun a b => a.1 ≤ b.1)
    (columns : s.columns.Pairwise fun a b => a.1 ≤ b.1) :
    Validator.sectionRule? (s.arrange .sorted) = Validator.sectionRule? s := by
  have sameContent : (s.arrange .sorted).content = s.content :=
    Arrangement.sorted.of_of_pairwise content
  have sameColumns : (s.arrange .sorted).columns = s.columns := by
    rw [Section.columns_arrange, Arrangement.sorted.of_of_pairwise columns]
  unfold Validator.sectionRule? Validator.sectionErrors Validator.checkColumns
  rw [sameContent, sameColumns, Section.type_arrange]

/-- The order is kept in a template whose sections, and whose content and columns in each of them,
stand in the order of their keys already. -/
theorem keepsOrder_of_pairwise (types : t.sections.Pairwise fun a b => a.type ≤ b.type)
    (each : ∀ s ∈ t.sections, s.content.Pairwise (fun a b => a.1 ≤ b.1) ∧
      s.columns.Pairwise fun a b => a.1 ≤ b.1) : t.KeepsOrder a ctx := by
  have sections : (t.arrange .sorted).sections = t.sections.map (Section.arrange .sorted) := by
    show (Arrangement.sorted.of (t.sections.map fun s => (s.type, s.arrange .sorted))).map _ = _
    rw [Arrangement.sorted.of_of_pairwise (List.pairwise_map.mpr types), List.map_map]
    rfl
  have enabled : (t.arrange .sorted).enabledSections =
      t.enabledSections.map (Section.arrange .sorted) := by
    unfold enabledSections
    rw [sections, List.filter_map]
    rfl
  have nothing : (t.arrange .sorted).enabledSections = [] ↔ t.enabledSections = [] := by
    rw [enabled, List.map_eq_nil_iff]
  have positions : (t.arrange .sorted).enabledSections.map (·.position) =
      t.enabledSections.map (·.position) := by
    rw [enabled, List.map_map]
    rfl
  have rules : (t.arrange .sorted).sections.findSome? Validator.sectionRule? =
      t.sections.findSome? Validator.sectionRule? := by
    rw [sections, List.findSome?_map, ← List.head?_filterMap, ← List.head?_filterMap]
    congr 1
    exact List.filterMap_congr fun s member =>
      sectionRule?_arrange (each s member).1 (each s member).2
  refine ⟨?_, fun _ s member _ _ =>
    Section.keepsOrder_of_pairwise (each s member).1 (each s member).2⟩
  unfold brokenRule?
  simp only [nothing, positions, rules]

theorem enabledSections_arrange_perm (σ : Arrangement) (t : Template) :
    (t.arrange σ).enabledSections.Perm (t.enabledSections.map (Section.arrange σ)) := by
  have moved := (sections_arrange_perm σ t).filter (·.enabled)
  rw [List.filter_map] at moved
  exact moved

/-- A template that cannot be validated cannot be when it is arranged either. -/
theorem sharesUnwritable_arrange_iff (σ : Arrangement) (t : Template) :
    (t.arrange σ).SharesUnwritable ↔ t.SharesUnwritable := by
  have moved := (enabledSections_arrange_perm σ t).map (·.position)
  rw [List.map_map] at moved
  exact sharesUnwritable_congr moved

/-- Sections at positions of their own stand in the same order in a document, however they are
stored. -/
theorem ordered_arrange (σ : Arrangement) (distinct : (t.enabledSections.map (·.position)).Nodup) :
    ordered (t.arrange σ) = (ordered t).map (·.arrange σ) := by
  have perm : (ordered (t.arrange σ)).Perm ((ordered t).map (·.arrange σ)) :=
    (ordered_perm _).trans ((enabledSections_arrange_perm σ t).trans ((ordered_perm t).symm.map _))
  refine perm.eq_of_pairwise ?_ (pairwise_ordered _) ((pairwise_ordered t).map _ fun _ _ h => h)
  intro a b inside inside' below above
  have inside := perm.mem_iff.mp inside
  obtain ⟨c, member, rfl⟩ := List.mem_map.mp inside
  obtain ⟨d, member', rfl⟩ := List.mem_map.mp inside'
  have same : c.position = d.position := Int.le_antisymm below above
  rw [ordered, List.mem_mergeSort] at member member'
  rw [List.inj_on_of_nodup_map distinct member member' same]

section Accepted

variable (accepted : t.Accepted .sorted p)

include accepted

theorem Accepted.holdsData : HoldsData t := fun s member => (accepted.sections s member).data_extras

omit accepted in
theorem holdsData_sorted (t : Template) : HoldsData (t.arrange .sorted) := by
  intro s member
  obtain ⟨u, -, rfl⟩ := List.mem_map.mp ((sections_arrange_perm .sorted t).mem_iff.mp member)
  exact u.data_extras_sorted

theorem Accepted.allRender_sorted (distinct : (t.enabledSections.map (·.position)).Nodup) :
    AllRender r ctx (t.arrange .sorted) ↔ AllRender r ctx t := by
  unfold AllRender
  rw [ordered_arrange .sorted distinct, List.forall_mem_map]
  refine forall_congr' fun s => forall_congr' fun member => ?_
  rw [Section.type_arrange, (accepted.sections s (mem_ordered.mp member).1).renders_sorted]

omit accepted in
theorem shown_sorted (distinct : (t.enabledSections.map (·.position)).Nodup) :
    shown r ctx (t.arrange .sorted) = ((ordered t).filter fun s => r.supports s.type).map
      fun s => (rendering ctx (s.arrange .sorted)).bare := by
  have types : ((fun s : Section => r.supports s.type) ∘ Section.arrange .sorted) =
      fun s : Section => r.supports s.type :=
    funext fun s => congrArg r.supports (s.type_arrange .sorted)
  rw [shown, ordered_arrange .sorted distinct, List.filter_map, List.map_map, types]
  rfl

/-- The sections of a template are rendered as before exactly when the order in each is kept. -/
theorem Accepted.shown_sorted_iff (distinct : (t.enabledSections.map (·.position)).Nodup)
    (renders : AllRender r ctx t) : shown r ctx (t.arrange .sorted) = shown r ctx t ↔
      ∀ s ∈ t.sections, s.enabled = true → r.supports s.type = true → s.KeepsOrder ctx := by
  rw [shown_sorted distinct, shown, List.map_inj_left]
  constructor
  · intro each s member on supported
    have inside : s ∈ ordered t := mem_ordered.mpr ⟨member, on⟩
    exact (Section.bare_rendering_sorted_iff (accepted.sections s member).distinct
      (renders s inside supported)).mp (each s (List.mem_filter.mpr ⟨inside, supported⟩))
  · intro each s chosen
    obtain ⟨inside, supported⟩ := List.mem_filter.mp chosen
    obtain ⟨member, on⟩ := mem_ordered.mp inside
    exact (Section.bare_rendering_sorted_iff (accepted.sections s member).distinct
      (renders s inside supported)).mpr (each s member on supported)

omit accepted in
theorem nodup_of_clean (clean : brokenRule? t = none) :
    (t.enabledSections.map (·.position)).Nodup := by
  unfold brokenRule? at clean
  by_cases none : t.enabledSections = []
  · rw [if_pos none] at clean
    cases clean
  · by_cases distinct : (t.enabledSections.map (·.position)).Nodup
    · exact distinct
    · rw [if_neg none, if_neg distinct] at clean
      cases clean

omit accepted in
/-- Where nothing is rendered, only the rule counts. -/
theorem keepsOrder_of_fault (rule : brokenRule? (t.arrange .sorted) = brokenRule? t)
    {invariant : Option String} (fault : seen (a.assemble t ctx none) = .error invariant) :
    t.KeepsOrder a ctx := by
  refine ⟨rule, ?_⟩
  rintro ⟨d, made⟩
  rw [made] at fault
  cases fault

theorem Accepted.rendersAlike_of_allRender (clean : brokenRule? t = none)
    (clean' : brokenRule? (t.arrange .sorted) = none) (renders : AllRender a.renderer ctx t) :
    RendersAlike (a.assemble (t.arrange .sorted) ctx none) (a.assemble t ctx none) ↔
      t.KeepsOrder a ctx := by
  have distinct := nodup_of_clean clean
  have before := seen_of_allRender clean accepted.holdsData renders
  have after := seen_of_allRender clean' (holdsData_sorted t)
    ((accepted.allRender_sorted distinct).mpr renders)
  have sections := accepted.shown_sorted_iff distinct renders
  have both : (shown a.renderer ctx (t.arrange .sorted)).isEmpty =
      (shown a.renderer ctx t).isEmpty := by
    rw [shown_sorted distinct, shown, List.isEmpty_map, List.isEmpty_map]
  rw [both] at after
  by_cases nothing : (shown a.renderer ctx t).isEmpty = true
  · rw [if_pos nothing] at before after
    exact ⟨fun _ => keepsOrder_of_fault (clean'.trans clean.symm) before,
      fun _ => after.trans before.symm⟩
  · rw [if_neg nothing] at before after
    obtain ⟨d, made⟩ : ∃ d, a.assemble t ctx none = .ok d := by
      cases outcome : a.assemble t ctx none with
      | ok d => exact ⟨d, rfl⟩
      | error e =>
        rw [outcome] at before
        cases before
    rw [RendersAlike, before, after, Except.ok.injEq, sections]
    exact ⟨fun each => ⟨clean'.trans clean.symm, fun _ => each⟩, fun keeps => keeps.sections ⟨d, made⟩⟩

/-- A template and the one that comes back from a store are assembled alike exactly when the order
is kept. -/
theorem Accepted.rendersAlike_sorted_iff (flag' : Bool) :
    RendersAlike (a.assemble (t.sorted flag') ctx none) (a.assemble t ctx none) ↔
      t.KeepsOrder a ctx := by
  have data := accepted.holdsData
  have data' := holdsData_sorted t
  -- The flag is not looked at.
  change RendersAlike (a.assemble (t.arrange .sorted) ctx none) (a.assemble t ctx none) ↔ _
  by_cases shares : t.SharesUnwritable
  · have shares' := (sharesUnwritable_arrange_iff .sorted t).mpr shares
    have rule := (Validator.brokenRule?_of_unwritable shares').trans
      (Validator.brokenRule?_of_unwritable shares).symm
    have refused := seen_of_unwritable a ctx shares
    have refused' := seen_of_unwritable a ctx shares'
    exact ⟨fun _ => keepsOrder_of_fault rule refused, fun _ => refused'.trans refused.symm⟩
  have shares' : ¬ (t.arrange .sorted).SharesUnwritable :=
    fun h => shares ((sharesUnwritable_arrange_iff .sorted t).mp h)
  by_cases rule : brokenRule? (t.arrange .sorted) = brokenRule? t
  · cases broken : brokenRule? t with
    | some name =>
      have refused := seen_of_rule a ctx shares broken
      have refused' := seen_of_rule a ctx shares' (rule.trans broken)
      exact ⟨fun _ => keepsOrder_of_fault rule refused, fun _ => refused'.trans refused.symm⟩
    | none =>
      by_cases renders : AllRender a.renderer ctx t
      · exact accepted.rendersAlike_of_allRender broken (rule.trans broken) renders
      · have renders' : ¬ AllRender a.renderer ctx (t.arrange .sorted) :=
          fun h => renders ((accepted.allRender_sorted (nodup_of_clean broken)).mp h)
        have fault := seen_of_fault broken data renders
        have fault' := seen_of_fault (rule.trans broken) data' renders'
        exact ⟨fun _ => keepsOrder_of_fault rule fault, fun _ => fault'.trans fault.symm⟩
  · exact ⟨fun alike => absurd (brokenRule?_of_rendersAlike shares shares' data data' alike) rule,
      fun keeps => absurd keeps.rule rule⟩

end Accepted

end Template

end InvoiceForms
