import InvoiceForms.Proofs.Number.Whole
import InvoiceForms.Proofs.Render.Order
import InvoiceForms.Proofs.Validation.Errors

/-!
# Errors of arranged templates

A template that comes back from a store has its sections, and the content and columns of each, in
another order. That makes no error of it as long as the widths of its columns are whole numbers: the
sum of other widths can be rounded up or down, as the order has it.
-/

namespace InvoiceForms

open InvoiceForms.Number

/-- Whether the widths of all columns are whole numbers. -/
def Template.HasWholeWidths (t : Template) : Prop :=
  ∀ s ∈ t.sections, ∀ column ∈ s.columns, column.2.widthPercent.IsWhole

namespace Validator

/-- Whether columns are too wide together depends on their order only where widths are no whole
numbers. -/
theorem lt_tableWidth_congr {columns others : Entries Column} (same : columns.Perm others)
    (whole : ∀ column ∈ columns, column.2.widthPercent.IsWhole) :
    maxTableWidth.lt (tableWidth columns) = maxTableWidth.lt (tableWidth others) := by
  refine Double.hundred_lt_sum_congr (((same.map _).filter _).map _) fun x member => ?_
  obtain ⟨column, enabled, rfl⟩ := List.mem_map.mp member
  obtain ⟨e, inside, rfl⟩ := List.mem_map.mp (List.mem_filter.mp enabled).1
  exact whole e inside

theorem errors_checkColumns_eq_nil_iff {s : Section} : Issue.errors (checkColumns s) = [] ↔
    s.columns = [] ∨ maxTableWidth.lt (tableWidth s.columns) = false := by
  unfold checkColumns
  by_cases none : s.columns = []
  · rw [none]
    exact ⟨fun _ => .inl rfl, fun _ => rfl⟩
  · have some : s.columns.isEmpty = false := List.isEmpty_eq_false_iff.mpr none
    rw [some, if_neg Bool.false_ne_true]
    dsimp only
    cases wide : maxTableWidth.lt (tableWidth s.columns) with
    | true =>
      rw [if_pos rfl]
      exact ⟨nofun, fun given => given.elim (fun empty => absurd empty none) nofun⟩
    | false =>
      rw [if_neg Bool.false_ne_true]
      refine ⟨fun _ => .inr rfl, fun _ => ?_⟩
      split <;> rfl

/-- A section has no errors when its columns are not too wide and no content string has any. -/
theorem sectionErrors_eq_nil_iff {s : Section} : sectionErrors s = [] ↔
    (s.columns = [] ∨ maxTableWidth.lt (tableWidth s.columns) = false) ∧
      ∀ field ∈ s.content, Issue.errors (checkLoops (Shape.ofContent field.2)
        ("sections." ++ s.type ++ ".content." ++ field.1)) = [] := by
  rw [sectionErrors, List.append_eq_nil_iff, errors_checkColumns_eq_nil_iff, List.flatMap_eq_nil_iff]

theorem sectionErrors_arrange {s : Section} (σ : Arrangement)
    (whole : ∀ column ∈ s.columns, column.2.widthPercent.IsWhole) (clean : sectionErrors s = []) :
    sectionErrors (s.arrange σ) = [] := by
  rw [sectionErrors_eq_nil_iff] at clean ⊢
  obtain ⟨narrow, content⟩ := clean
  have moved : (s.arrange σ).columns.Perm s.columns := s.columns_arrange σ ▸ σ.of_perm s.columns
  refine ⟨?_, fun field member => ?_⟩
  · rw [← lt_tableWidth_congr moved.symm whole]
    exact narrow.imp_left fun empty => (empty ▸ moved).eq_nil
  · rw [Section.type_arrange]
    exact content field ((σ.of_perm s.content).mem_iff.mp member)

/-- Arranging makes no error of a template whose columns have whole widths. -/
theorem structuralErrors_arrange {t : Template} (σ : Arrangement) (whole : t.HasWholeWidths)
    (clean : structuralErrors t = []) : structuralErrors (t.arrange σ) = [] := by
  have moved := Template.sections_arrange_perm σ t
  have enabled := Template.enabledSections_arrange_perm σ t
  rw [structuralErrors_eq_nil_iff] at clean ⊢
  obtain ⟨some, distinct, sections⟩ := clean
  refine ⟨fun none => ?_, ?_, fun s member => ?_⟩
  · rw [none] at enabled
    exact some (List.map_eq_nil_iff.mp enabled.symm.eq_nil)
  · refine ((enabled.map _).nodup_iff).mpr ?_
    rw [List.map_map]
    exact distinct
  · obtain ⟨u, inside, rfl⟩ := List.mem_map.mp (moved.mem_iff.mp member)
    exact sectionErrors_arrange σ (whole u inside) (sections u inside)

end Validator

end InvoiceForms
