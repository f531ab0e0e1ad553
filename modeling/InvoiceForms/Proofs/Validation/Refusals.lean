import InvoiceForms.Proofs.Content.Blocks
import InvoiceForms.Proofs.Validation.Arranged

/-!
# What validation refuses

An error is found exactly when a template cannot be used: nothing of it is enabled, two enabled
sections are at one position, a table is wider than a page, or the loop blocks of a content string
are tangled. But a position that is shared and has too many digits to stand in the message ends
validation, and no error is reported at all. Where sections stand in their list changes no rule that
is broken, and what a template is held to changes no error.
-/

namespace InvoiceForms

open InvoiceForms.Number InvoiceForms.Results

/-- Whether a template cannot be used: no section is enabled, two enabled sections share a position,
the enabled columns of a table are too wide together, or the loop blocks of some content are
tangled. -/
def Template.Unusable (t : Template) : Prop :=
  (∀ s ∈ t.sections, s.enabled = false) ∨ t.SharesPosition ∨
    (∃ s ∈ t.sections, s.isTable = true ∧ (Double.ofInt 100).lt (Double.sum
      ((s.columns.values.filter (·.enabled)).map (·.widthPercent))) = true) ∨
    ∃ s ∈ t.sections, ∃ field ∈ s.content, Tangled (Token.scan field.2)

namespace Validator

/-- Loops are found at fault when the blocks of the content are tangled. -/
theorem errors_checkLoops_eq_nil_iff (content path : String) :
    Issue.errors (checkLoops (Shape.ofContent content) path) = [] ↔
      ¬ Tangled (Token.scan content) := by
  have nested (names : List String) (message : String → String) :
      Issue.errors (names.map fun name => loopIssue .warning (message name) path) = [] := by
    apply Issue.errors_eq_nil
    intro i member
    obtain ⟨name, -, rfl⟩ := List.mem_map.mp member
    rfl
  have single (c : Prop) [Decidable c] (message : String) :
      Issue.errors (if c then [loopIssue .error message path] else []) = [] ↔ ¬ c := by
    split
    · next holds => exact iff_of_false (List.cons_ne_nil _ _) (not_not_intro holds)
    · next fails => exact iff_of_true rfl fails
  rw [← hasLoopFault_iff_tangled, checkLoops, Issue.errors_append, Issue.errors_append, nested,
    List.append_nil, List.append_eq_nil_iff, single, single, Shape.HasLoopFault,
    Bool.toNat_false, Nat.add_zero, not_or, not_or, not_or]

/-- A table is at fault when it is wider than a page; a table without columns is not. -/
theorem errors_checkColumns_ne_nil_iff {s : Section} : Issue.errors (checkColumns s) ≠ [] ↔
    s.isTable = true ∧ maxTableWidth.lt (tableWidth s.columns) = true := by
  have narrow : maxTableWidth.lt (tableWidth []) = false := by decide +kernel
  rw [Ne, errors_checkColumns_eq_nil_iff, not_or, Bool.not_eq_false]
  constructor
  · rintro ⟨some, wide⟩
    refine ⟨?_, wide⟩
    cases variant : s.variant <;> simp_all [Section.columns, Section.isTable]
  · rintro ⟨-, wide⟩
    refine ⟨fun none => ?_, wide⟩
    rw [none, narrow] at wide
    cases wide

/-- A section is at fault for its columns or for its content. -/
theorem sectionErrors_ne_nil_iff {s : Section} : sectionErrors s ≠ [] ↔
    (s.isTable = true ∧ maxTableWidth.lt (tableWidth s.columns) = true) ∨
      ∃ field ∈ s.content, Tangled (Token.scan field.2) := by
  rw [← errors_checkColumns_ne_nil_iff, sectionErrors, Ne, List.append_eq_nil_iff, not_and_or,
    List.flatMap_eq_nil_iff]
  simp only [errors_checkLoops_eq_nil_iff, not_forall, not_not, exists_prop]

/-- A template has errors exactly when it cannot be used. -/
theorem structuralErrors_ne_nil_iff {t : Template} : structuralErrors t ≠ [] ↔ t.Unusable := by
  have off : t.enabledSections = [] ↔ ∀ s ∈ t.sections, s.enabled = false := by
    rw [Template.enabledSections, List.filter_eq_nil_iff]
    simp only [Bool.not_eq_true]
  have sections : ¬ (∀ s ∈ t.sections, sectionErrors s = []) ↔
      (∃ s ∈ t.sections, s.isTable = true ∧ maxTableWidth.lt (tableWidth s.columns) = true) ∨
        ∃ s ∈ t.sections, ∃ field ∈ s.content, Tangled (Token.scan field.2) := by
    simp only [not_forall, exists_prop, ← Ne.eq_def, sectionErrors_ne_nil_iff, and_or_left, exists_or]
  rw [Ne, structuralErrors_eq_nil_iff, not_and_or, not_and_or, Ne, not_not, off,
    Template.nodup_positions_iff, not_not, sections]
  exact Iff.rfl

/-- The rules that are broken, one for each error. -/
def brokenRules (v : Validator) (t : Template) : Except ValidationFault (List String) :=
  (v.validate t).map fun issues => (Issue.errors issues).map (·.rule)

section Order

variable {sections others : List Section} (same : sections.Perm others)

include same

/-- Where sections stand in a list does not change which positions they have. -/
theorem positionsOf_congr : positionsOf sections = positionsOf others := by
  have ascending (list : List Section) :
      ((list.map (·.position)).mergeSort (· ≤ ·)).Pairwise (· ≤ ·) :=
    (List.pairwise_mergeSort (fun a b c => by simpa using Int.le_trans)
      (fun a b => by simpa using Int.le_total a b) _).imp of_decide_eq_true
  have sorted : (sections.map (·.position)).mergeSort (· ≤ ·) =
      (others.map (·.position)).mergeSort (· ≤ ·) :=
    List.Perm.eq_of_pairwise (fun _ _ _ _ => Int.le_antisymm) (ascending sections)
      (ascending others) ((List.mergeSort_perm _ _).trans
        ((same.map _).trans (List.mergeSort_perm _ _).symm))
  rw [positionsOf, sorted, positionsOf]

/-- Nor does it change at which of them several stand. -/
theorem rules_sharedPosition_congr (position : Int) :
    (sharedPosition sections position).map (·.rule) =
      (sharedPosition others position).map (·.rule) := by
  have rules (list : List Section) : (sharedPosition list position).map (·.rule) =
      if (typesAt list position).length ≤ 1 then [] else ["unique_positions"] := by
    split
    · next alone => rw [sharedPosition_eq_nil_iff.mpr alone, List.map_nil]
    · next shared =>
      unfold sharedPosition
      split
      · rfl
      · next one =>
        match types : typesAt list position with
        | [] => simp [types] at shared
        | [type] => simp [types] at shared
        | first :: second :: rest => exact absurd types (one first second rest)
  rw [rules, rules, length_typesAt, length_typesAt, (same.map _).count_eq]

end Order

/-- However the sections are listed, the same rules are broken, each as often. -/
theorem rules_structuralErrors_perm {t u : Template} (same : u.sections.Perm t.sections) :
    ((structuralErrors u).map (·.rule)).Perm ((structuralErrors t).map (·.rule)) := by
  have enabled : u.enabledSections.Perm t.enabledSections := same.filter _
  have nothing : checkEnabled u = checkEnabled t := by
    rw [checkEnabled, checkEnabled, enabled.isEmpty_eq]
  have positions : (sharedPositions u).map (·.rule) = (sharedPositions t).map (·.rule) := by
    rw [sharedPositions, sharedPositions, List.map_flatMap, List.map_flatMap,
      positionsOf_congr enabled, funext (rules_sharedPosition_congr enabled)]
  rw [structuralErrors, structuralErrors, List.map_append, List.map_append, List.map_append,
    List.map_append, nothing, positions]
  exact ((same.flatMap_right sectionErrors).map _).append_left _

/-- Nor does it matter for whether there are any to be told. -/
theorem brokenRules_perm (v : Validator) {t u : Template} (same : u.sections.Perm t.sections) :
    Agree List.Perm (v.brokenRules u) (v.brokenRules t) := by
  have enabled : u.enabledSections.Perm t.enabledSections := same.filter _
  have positions := Template.sharesUnwritable_congr (enabled.map (·.position))
  unfold brokenRules
  by_cases shares : t.SharesUnwritable
  · rw [validate_of_unwritable shares, validate_of_unwritable (positions.mpr shares)]
    exact .fault _
  · have shares' : ¬ u.SharesUnwritable := fun h => shares (positions.mp h)
    rw [validate_of_writable shares, validate_of_writable shares']
    refine .result ?_
    dsimp only
    rw [errors_findings, errors_findings]
    exact rules_structuralErrors_perm same

/-- Validation refuses exactly the templates that cannot be used, except that it fails itself, and
reports nothing, where enabled sections share a position that is too long to be written out. -/
theorem refuses_exactly_unusable (catalogue : Catalogue) (t : Template) :
    (∀ policy : LegalPolicy,
      Gives (validate ⟨policy, catalogue⟩ t) (¬ t.SharesUnwritable)
          (fun issues => (∃ i ∈ issues, i.severity = .error) ↔ t.Unusable) ∧
        (t.SharesUnwritable → t.Unusable ∧
          validate ⟨policy, catalogue⟩ t = .error .unwritablePosition)) ∧
    (validate ⟨.german, catalogue⟩ t).map Issue.errors =
      (validate ⟨.none, catalogue⟩ t).map Issue.errors ∧
    ∀ (policy : LegalPolicy) (sections : List Section), sections.Perm t.sections →
      Agree List.Perm (brokenRules ⟨policy, catalogue⟩ { t with sections := sections })
        (brokenRules ⟨policy, catalogue⟩ t) := by
  refine ⟨fun policy => ⟨?_, fun shares => ?_⟩, ?_, fun policy sections same => ?_⟩
  · refine (validate_gives _ t).imp Iff.rfl ?_
    rintro _ rfl
    rw [← structuralErrors_ne_nil_iff, ← errors_findings ⟨policy, catalogue⟩, Issue.errors, Ne,
      List.filter_eq_nil_iff]
    simp [Issue.isError]
  · exact ⟨.inr (.inl shares.sharesPosition), validate_of_unwritable shares⟩
  · by_cases shares : t.SharesUnwritable
    · rw [validate_of_unwritable shares, validate_of_unwritable shares]
    · rw [validate_of_writable shares, validate_of_writable shares, Except.map, Except.map,
        errors_findings, errors_findings]
  · exact brokenRules_perm _ same

end Validator

namespace Template

/-- Data of a template with a header and a footer at one position. -/
def stackedPayload (position : Int) : Entries Json := [
  ("id", .text "stacked"), ("name", .text "Stacked"), ("companyInfo", .object [("name", .text "Quarry")]),
  ("sections", .object [("header", .object [("position", .int position)]),
    ("footer", .object [("position", .int position)])])]

/-- The template of this data. -/
def stacked (position : Int) : Template where
  id := "stacked"
  name := "Stacked"
  company := { name := "Quarry" }
  sections := [{ variant := .plain .header, position := position },
    { variant := .plain .footer, position := position }]

/-- However far down it is, such a template is accepted. -/
theorem validate_stackedPayload : schema.validate (.ofJson (.object (stackedPayload (10 ^ 4300)))) =
    .ok (stacked (10 ^ 4300)) :=
  toOption_eq_some.mp (by decide +kernel)

theorem sharesAt_stacked (position : Int) : (stacked position).SharesAt position :=
  ⟨0, 1, _, _, Nat.zero_ne_one, rfl, rfl, rfl, rfl, rfl, rfl⟩

/-- Whether the position can be written out is all that matters. -/
theorem sharesUnwritable_stacked_iff {position : Int} :
    (stacked position).SharesUnwritable ↔ (Value.int position).isWritable = false := by
  constructor
  · rintro ⟨other, ⟨m, n, s, u, -, first, -, -, -, here, -⟩, long⟩
    have same : s.position = position := by
      have member := List.mem_of_getElem? first
      simp only [stacked, List.mem_cons, List.not_mem_nil, or_false] at member
      rcases member with rfl | rfl <;> rfl
    rw [← same, here]
    exact long
  · exact fun long => ⟨position, sharesAt_stacked position, long⟩

theorem sharesUnwritable_far : (stacked (10 ^ 4300)).SharesUnwritable :=
  sharesUnwritable_stacked_iff.mpr (by decide +kernel)

end Template

namespace Validator

open Template (stacked stackedPayload)

/-- A header and a footer at one position are refused, and the other way round as well; at a position
that is too long they end validation. -/
theorem refuses_header_at_footer :
    (∃ issues, validate ⟨.none, .standard⟩ (stacked 1) = .ok issues ∧
      ∃ i ∈ issues, i.severity = .error) ∧
    (stacked 1).sections.reverse.Perm (stacked 1).sections ∧
    Agree List.Perm
      (brokenRules ⟨.none, .standard⟩ { stacked 1 with sections := (stacked 1).sections.reverse })
      (brokenRules ⟨.none, .standard⟩ (stacked 1)) ∧
    (stacked (10 ^ 4300)).SharesUnwritable ∧
    validate ⟨.none, .standard⟩ (stacked (10 ^ 4300)) = .error .unwritablePosition := by
  have short : ¬ (stacked 1).SharesUnwritable := by
    rw [Template.sharesUnwritable_stacked_iff]
    decide
  have long := Template.sharesUnwritable_far
  have turned : (stacked 1).sections.reverse.Perm (stacked 1).sections := List.reverse_perm _
  obtain ⟨refused, -, permuted⟩ := refuses_exactly_unusable .standard (stacked 1)
  obtain ⟨issues, validated⟩ := (refused .none).1.exists_iff.mpr short
  have unusable : (stacked 1).Unusable := .inr (.inl ⟨1, Template.sharesAt_stacked 1⟩)
  have failed := ((refuses_exactly_unusable .standard (stacked (10 ^ 4300))).1 .none).2 long
  exact ⟨⟨issues, validated, ((refused .none).1.each issues validated).mpr unusable⟩, turned,
    permuted .none _ turned, long, failed.2⟩

/-- No error is reported of a header and a footer at a position that is too long, though the data of
the template is accepted and the template cannot be used. -/
theorem far_header_at_footer_not_reported :
    Template.schema.validate (.ofJson (.object (stackedPayload (10 ^ 4300)))) =
      .ok (stacked (10 ^ 4300)) ∧
    (stacked (10 ^ 4300)).Unusable ∧
    ∀ policy : LegalPolicy, ¬ ∃ issues, validate ⟨policy, .standard⟩ (stacked (10 ^ 4300)) = .ok issues ∧
      ∃ i ∈ issues, i.severity = .error := by
  have long := Template.sharesUnwritable_far
  refine ⟨Template.validate_stackedPayload, .inr (.inl long.sharesPosition), ?_⟩
  rintro policy ⟨issues, validated, -⟩
  rw [validate_of_unwritable long] at validated
  cases validated

end Validator

end InvoiceForms
