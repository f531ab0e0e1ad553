import Mathlib.Data.List.NodupEquivFin
import InvoiceForms.Proofs.Results
import InvoiceForms.Template.Builtin
import InvoiceForms.Validation.Check

/-!
# Errors of validation

Validation of a template fails exactly when enabled sections share a position that cannot be written
out, and otherwise gives its `Validator.findings`. What makes a template unusable does not depend on
what it is held to: the legal policy and the catalogue of variables only give warnings.
`Validator.structuralErrors` lists the errors without them.
-/

namespace InvoiceForms

open InvoiceForms.Results

namespace Template

/-- Whether two enabled sections, at different places of the list, are at a position. -/
def SharesAt (t : Template) (position : Int) : Prop :=
  ∃ (m n : Nat) (s u : Section), m ≠ n ∧ t.sections[m]? = some s ∧ t.sections[n]? = some u ∧
    s.enabled = true ∧ u.enabled = true ∧ s.position = position ∧ u.position = position

/-- Whether two enabled sections, at different places of the list, share a position. -/
def SharesPosition (t : Template) : Prop := ∃ position, t.SharesAt position

/-- Whether they share one that has too many digits to be written out. -/
def SharesUnwritable (t : Template) : Prop :=
  ∃ position, t.SharesAt position ∧ (Value.int position).isWritable = false

/-- Whether a section is enabled and at a position. -/
def standsAt (position : Int) (s : Section) : Bool := s.enabled && decide (s.position = position)

/-- A section of the list stands at a position. -/
theorem getElem?_standsAt {t : Template} {position : Int} {n : Nat} :
    (t.sections.map (standsAt position))[n]? = some true ↔
      ∃ s, t.sections[n]? = some s ∧ s.enabled = true ∧ s.position = position := by
  rw [List.getElem?_map, Option.map_eq_some_iff]
  simp only [standsAt, Bool.and_eq_true, decide_eq_true_eq]

/-- A position is shared when the positions of the enabled sections name it more than once. -/
theorem sharesAt_iff {t : Template} {position : Int} :
    t.SharesAt position ↔ 2 ≤ (t.enabledSections.map (·.position)).count position := by
  have count : (t.enabledSections.map (·.position)).count position =
      (t.sections.map (standsAt position)).count true := by
    rw [enabledSections, List.count, List.countP_map, List.countP_filter, List.count, List.countP_map]
    apply List.countP_congr
    intro s _
    simp [standsAt, and_comm]
  rw [count, ← List.duplicate_iff_two_le_count, List.duplicate_iff_exists_distinct_get]
  constructor
  · rintro ⟨m, n, s, u, apart, first, second, on, on', here, there⟩
    obtain ⟨inM, atM⟩ := List.getElem?_eq_some_iff.mp (getElem?_standsAt.mpr ⟨s, first, on, here⟩)
    obtain ⟨inN, atN⟩ := List.getElem?_eq_some_iff.mp (getElem?_standsAt.mpr ⟨u, second, on', there⟩)
    rcases Nat.lt_or_gt_of_ne apart with before | behind
    · exact ⟨⟨m, inM⟩, ⟨n, inN⟩, before, atM.symm, atN.symm⟩
    · exact ⟨⟨n, inN⟩, ⟨m, inM⟩, behind, atN.symm, atM.symm⟩
  · rintro ⟨⟨m, inM⟩, ⟨n, inN⟩, before, atM, atN⟩
    obtain ⟨s, first, on, here⟩ := getElem?_standsAt.mp (List.getElem?_eq_some_iff.mpr ⟨inM, atM.symm⟩)
    obtain ⟨u, second, on', there⟩ := getElem?_standsAt.mp (List.getElem?_eq_some_iff.mpr ⟨inN, atN.symm⟩)
    exact ⟨m, n, s, u, Nat.ne_of_lt before, first, second, on, on', here, there⟩

/-- No position is shared exactly when the positions of the enabled sections are distinct. -/
theorem nodup_positions_iff {t : Template} :
    (t.enabledSections.map (·.position)).Nodup ↔ ¬ t.SharesPosition := by
  rw [List.nodup_iff_count, SharesPosition, not_exists]
  refine forall_congr' fun position => ?_
  rw [sharesAt_iff, Nat.not_le, Nat.lt_succ_iff]

/-- What is shared and cannot be written out is shared. -/
theorem SharesUnwritable.sharesPosition {t : Template} (shares : t.SharesUnwritable) :
    t.SharesPosition := by
  obtain ⟨position, shared, -⟩ := shares
  exact ⟨position, shared⟩

/-- Where sections stand in the list does not matter, nor what else is in them. -/
theorem sharesUnwritable_congr {t u : Template}
    (same : (t.enabledSections.map (·.position)).Perm (u.enabledSections.map (·.position))) :
    t.SharesUnwritable ↔ u.SharesUnwritable := by
  refine exists_congr fun position => and_congr_left fun _ => ?_
  rw [sharesAt_iff, sharesAt_iff, same.count_eq]

end Template

namespace Issue

@[simp] theorem errors_append (a b : List Issue) : errors (a ++ b) = errors a ++ errors b :=
  List.filter_append ..

theorem errors_flatMap {α : Type} (f : α → List Issue) (xs : List α) :
    errors (xs.flatMap f) = xs.flatMap fun x => errors (f x) := by
  induction xs with
  | nil => rfl
  | cons x xs ih => rw [List.flatMap_cons, errors_append, ih, List.flatMap_cons]

/-- There is an error among issues when their errors are not nothing. -/
theorem hasErrors_eq_false_iff (issues : List Issue) :
    hasErrors issues = false ↔ errors issues = [] := by
  rw [hasErrors, errors, List.any_eq_false, List.filter_eq_nil_iff]

/-- Warnings are no errors. -/
theorem errors_eq_nil {issues : List Issue} (warnings : ∀ i ∈ issues, i.severity = .warning) :
    errors issues = [] := by
  rw [errors, List.filter_eq_nil_iff]
  intro i member
  simp [isError, warnings i member]

end Issue

namespace LegalPolicy

/-- A legal policy gives warnings only. -/
theorem severity_of_mem_check {policy : LegalPolicy} {t : Template} {i : Issue}
    (member : i ∈ policy.check t) : i.severity = .warning := by
  cases policy with
  | none => simp [check] at member
  | german =>
    simp only [check, List.mem_append] at member
    rcases member with reference | identity
    · split at reference
      · simp at reference
      · rw [List.mem_singleton] at reference
        rw [reference, missingReference]
    · split at identity
      · simp at identity
      · rw [List.mem_singleton] at identity
        rw [identity, missingIdentity]

end LegalPolicy

namespace Validator

/-- The errors of a section: of its columns, and of the loops of its content. -/
def sectionErrors (s : Section) : List Issue :=
  Issue.errors (checkColumns s) ++ s.content.flatMap fun field =>
    Issue.errors (checkLoops (Shape.ofContent field.2) ("sections." ++ s.type ++ ".content." ++ field.1))

/-- The positions that enabled sections share. -/
def sharedPositions (t : Template) : List Issue :=
  (positionsOf t.enabledSections).flatMap (sharedPosition t.enabledSections)

/-- The errors of a template, whatever it is held to. -/
def structuralErrors (t : Template) : List Issue :=
  checkEnabled t ++ sharedPositions t ++ t.sections.flatMap sectionErrors

/-- What there is to find about a template, could any position be written out. -/
def findings (v : Validator) (t : Template) : List Issue :=
  checkEnabled t ++ sharedPositions t ++ t.sections.flatMap v.checkSection ++ v.policy.check t

/-- Unknown variables are no errors. -/
theorem errors_checkVariables (v : Validator) (shape : Shape) (path : String) :
    Issue.errors (v.checkVariables shape path) = [] := by
  apply Issue.errors_eq_nil
  intro i member
  obtain ⟨name, -, rfl⟩ := List.mem_map.mp member
  rfl

/-- An unknown type is no error. -/
theorem errors_checkType (s : Section) : Issue.errors (checkType s) = [] := by
  apply Issue.errors_eq_nil
  intro i member
  unfold checkType at member
  split at member
  · simp at member
  · rw [List.mem_singleton] at member
    rw [member]

/-- A template without enabled sections is in error. -/
theorem errors_checkEnabled (t : Template) : Issue.errors (checkEnabled t) = checkEnabled t := by
  unfold checkEnabled
  split <;> rfl

/-- Shared positions are errors. -/
theorem errors_sharedPositions (t : Template) :
    Issue.errors (sharedPositions t) = sharedPositions t := by
  have each : ∀ position, Issue.errors (sharedPosition t.enabledSections position) =
      sharedPosition t.enabledSections position := by
    intro position
    unfold sharedPosition
    split <;> rfl
  rw [sharedPositions, Issue.errors_flatMap, funext each]

theorem errors_checkSection (v : Validator) (s : Section) :
    Issue.errors (v.checkSection s) = sectionErrors s := by
  have each : ∀ field : String × String, Issue.errors (v.checkField s.type field) =
      Issue.errors (checkLoops (Shape.ofContent field.2)
        ("sections." ++ s.type ++ ".content." ++ field.1)) := by
    intro field
    rw [checkField, Issue.errors_append, errors_checkVariables, List.append_nil]
  rw [checkSection, Issue.errors_append, Issue.errors_append, errors_checkType, List.nil_append,
    Issue.errors_flatMap, funext each, sectionErrors]

/-- The errors of a template are the same for every policy and every catalogue. -/
theorem errors_findings (v : Validator) (t : Template) :
    Issue.errors (v.findings t) = structuralErrors t := by
  have policy : Issue.errors (v.policy.check t) = [] :=
    Issue.errors_eq_nil fun _ member => LegalPolicy.severity_of_mem_check member
  rw [findings, Issue.errors_append, Issue.errors_append, Issue.errors_append, errors_checkEnabled,
    errors_sharedPositions, policy, List.append_nil, Issue.errors_flatMap,
    funext (errors_checkSection v), structuralErrors]

/-- At a position stand the types of as many sections as have it. -/
theorem length_typesAt (sections : List Section) (position : Int) :
    (typesAt sections position).length = (sections.map (·.position)).count position := by
  rw [typesAt, List.length_map, ← List.countP_eq_length_filter, List.count, List.countP_map]
  apply List.countP_congr
  intro s _
  simp

theorem sharedPosition_eq_nil_iff {sections : List Section} {position : Int} :
    sharedPosition sections position = [] ↔ (typesAt sections position).length ≤ 1 := by
  unfold sharedPosition
  split
  · next shared =>
    rw [shared]
    simp
  · next alone =>
    refine ⟨fun _ => ?_, fun _ => rfl⟩
    match types : typesAt sections position with
    | [] => exact Nat.zero_le 1
    | [type] => exact Nat.le_refl 1
    | first :: second :: rest => exact absurd types (alone first second rest)

/-- A position is reported exactly when two enabled sections are there. -/
theorem sharedPosition_ne_nil_iff {t : Template} {position : Int} :
    sharedPosition t.enabledSections position ≠ [] ↔ t.SharesAt position := by
  rw [Ne, sharedPosition_eq_nil_iff, length_typesAt, Template.sharesAt_iff, Nat.not_le]
  exact Iff.rfl

/-- A position that is shared is one of those that are looked at. -/
theorem mem_positionsOf {t : Template} {position : Int} (shared : t.SharesAt position) :
    position ∈ positionsOf t.enabledSections := by
  rw [positionsOf, List.mem_eraseDups, List.mem_mergeSort]
  exact List.count_pos_iff.mp (Nat.lt_of_lt_of_le Nat.zero_lt_two (Template.sharesAt_iff.mp shared))

/-- Nothing is reported exactly when the positions of the enabled sections are distinct. -/
theorem sharedPositions_eq_nil_iff {t : Template} :
    sharedPositions t = [] ↔ (t.enabledSections.map (·.position)).Nodup := by
  rw [sharedPositions, List.flatMap_eq_nil_iff, Template.nodup_positions_iff]
  constructor
  · rintro alone ⟨position, shared⟩
    exact sharedPosition_ne_nil_iff.mpr shared (alone position (mem_positionsOf shared))
  · intro distinct position _
    by_contra reported
    exact distinct ⟨position, sharedPosition_ne_nil_iff.mp reported⟩

section Faults

/-- A position can be checked unless it is shared and cannot be written out. -/
theorem checkPosition_gives (sections : List Section) (position : Int) :
    Gives (checkPosition sections position)
      (sharedPosition sections position = [] ∨ (Value.int position).isWritable = true)
      (· = sharedPosition sections position) := by
  unfold checkPosition
  dsimp only
  split
  · next passes =>
    rw [Bool.or_eq_true, List.isEmpty_iff] at passes
    exact .ok passes rfl
  · next refused =>
    rw [Bool.or_eq_true, List.isEmpty_iff] at refused
    exact .error refused

/-- A list of positions can be checked when each of them can. -/
theorem checkEach_gives (sections : List Section) (positions : List Int) :
    Gives (checkEach sections positions)
      (∀ position ∈ positions,
        sharedPosition sections position = [] ∨ (Value.int position).isWritable = true)
      (· = positions.flatMap (sharedPosition sections)) := by
  induction positions with
  | nil => exact .ok (List.forall_mem_nil _) rfl
  | cons position rest ih =>
    rw [List.forall_mem_cons, List.flatMap_cons]
    refine (checkPosition_gives sections position).both ih ?_
    rintro _ _ rfl rfl
    rfl

/-- The positions of a template can be checked unless one is shared that cannot be written out. -/
theorem checkPositions_gives (t : Template) :
    Gives (checkPositions t) (¬ t.SharesUnwritable) (· = sharedPositions t) := by
  refine (checkEach_gives _ _).imp ?_ fun _ given => given
  constructor
  · rintro each ⟨position, shared, long⟩
    rcases each position (mem_positionsOf shared) with alone | written
    · exact sharedPosition_ne_nil_iff.mpr shared alone
    · exact Bool.false_ne_true (long.symm.trans written)
  · intro none position _
    by_contra refused
    obtain ⟨reported, long⟩ := not_or.mp refused
    exact none ⟨position, sharedPosition_ne_nil_iff.mp reported, Bool.not_eq_true _ ▸ long⟩

/-- Validation gives the findings, unless a position is shared that cannot be written out. -/
theorem validate_gives (v : Validator) (t : Template) :
    Gives (v.validate t) (¬ t.SharesUnwritable) (· = v.findings t) := by
  have steps : v.validate t = (checkPositions t).map fun shared =>
      checkEnabled t ++ shared ++ t.sections.flatMap v.checkSection ++ v.policy.check t := by
    unfold validate
    cases checkPositions t <;> rfl
  rw [steps]
  refine (checkPositions_gives t).map ?_
  rintro _ rfl
  rfl

variable {v : Validator} {t : Template}

theorem validate_eq_ok_iff {issues : List Issue} :
    v.validate t = .ok issues ↔ ¬ t.SharesUnwritable ∧ issues = v.findings t := by
  obtain ⟨given, each⟩ := v.validate_gives t
  constructor
  · intro validated
    exact ⟨given.mp ⟨issues, validated⟩, each issues validated⟩
  · rintro ⟨none, rfl⟩
    obtain ⟨issues, validated⟩ := given.mpr none
    exact each issues validated ▸ validated

/-- It fails for no other reason. -/
theorem validate_eq_error_iff {e : ValidationFault} :
    v.validate t = .error e ↔ t.SharesUnwritable := by
  cases e
  cases validated : v.validate t with
  | ok issues => exact iff_of_false nofun (validate_eq_ok_iff.mp validated).1
  | error e =>
    cases e
    refine iff_of_true rfl (of_not_not fun none => ?_)
    obtain ⟨issues, given⟩ := (v.validate_gives t).exists_iff.mpr none
    cases validated.symm.trans given

theorem validate_of_writable (writable : ¬ t.SharesUnwritable) : v.validate t = .ok (v.findings t) :=
  validate_eq_ok_iff.mpr ⟨writable, rfl⟩

theorem validate_of_unwritable (shares : t.SharesUnwritable) :
    v.validate t = .error .unwritablePosition :=
  validate_eq_error_iff.mpr shares

/-- What is found holds the same errors whatever a template is held to. -/
theorem errors_of_validate {issues : List Issue} (validated : v.validate t = .ok issues) :
    Issue.errors issues = structuralErrors t := by
  rw [(validate_eq_ok_iff.mp validated).2, errors_findings]

/-- A template without errors is one that can be validated. -/
theorem not_sharesUnwritable_of_clean (clean : structuralErrors t = []) : ¬ t.SharesUnwritable := by
  rw [structuralErrors, List.append_eq_nil_iff, List.append_eq_nil_iff, sharedPositions_eq_nil_iff,
    Template.nodup_positions_iff] at clean
  exact fun shares => clean.1.2 shares.sharesPosition

/-- A template is usable when validation gives issues and no error is among them. -/
theorem isUsable_eq_true_iff :
    v.isUsable t = true ↔ ∃ issues, v.validate t = .ok issues ∧ Issue.errors issues = [] := by
  unfold isUsable
  cases v.validate t with
  | error e => simp
  | ok issues => simp [← Issue.hasErrors_eq_false_iff]

/-- A template is usable when it has no structural errors. -/
theorem isUsable_iff : v.isUsable t = true ↔ structuralErrors t = [] := by
  rw [isUsable_eq_true_iff]
  constructor
  · rintro ⟨issues, validated, none⟩
    exact (errors_of_validate validated).symm.trans none
  · intro clean
    have validated := validate_of_writable (v := v) (not_sharesUnwritable_of_clean clean)
    exact ⟨_, validated, (errors_of_validate validated).trans clean⟩

end Faults

/-- A template has no errors when it has an enabled section, no two of its enabled sections are at one
position, and none of its sections has an error of its own. -/
theorem structuralErrors_eq_nil_iff {t : Template} : structuralErrors t = [] ↔
    t.enabledSections ≠ [] ∧ (t.enabledSections.map (·.position)).Nodup ∧
      ∀ s ∈ t.sections, sectionErrors s = [] := by
  have enabled : checkEnabled t = [] ↔ t.enabledSections ≠ [] := by
    unfold checkEnabled
    split <;> simp_all
  rw [structuralErrors, List.append_eq_nil_iff, List.append_eq_nil_iff, enabled,
    sharedPositions_eq_nil_iff, List.flatMap_eq_nil_iff, and_assoc]

/-- A template has errors or none, however its sections are listed. -/
theorem structuralErrors_eq_nil_of_perm {t u : Template} (same : u.sections.Perm t.sections)
    (clean : structuralErrors t = []) : structuralErrors u = [] := by
  have enabled : u.enabledSections.Perm t.enabledSections := same.filter _
  rw [structuralErrors_eq_nil_iff] at clean ⊢
  obtain ⟨some, distinct, sections⟩ := clean
  refine ⟨?_, ?_, ?_⟩
  · intro none
    rw [none] at enabled
    exact some enabled.symm.eq_nil
  · exact (enabled.map _).nodup_iff.mpr distinct
  · intro s member
    exact sections s (same.mem_iff.mp member)

theorem rule_of_mem_sharedPositions {t : Template} {i : Issue} (member : i ∈ sharedPositions t) :
    i.rule = "unique_positions" := by
  obtain ⟨position, -, found⟩ := List.mem_flatMap.mp member
  unfold sharedPosition at found
  split at found
  · rw [List.mem_singleton] at found
    rw [found]
  · cases found

theorem rule_of_mem_checkColumns {s : Section} {i : Issue} (member : i ∈ checkColumns s) :
    i.rule = "column_widths" := by
  unfold checkColumns at member
  split at member
  · cases member
  · dsimp only at member
    split at member
    · rw [List.mem_singleton] at member
      rw [member]
    · split at member
      · rw [List.mem_singleton] at member
        rw [member]
      · cases member

theorem rule_of_mem_checkLoops {shape : Shape} {path : String} {i : Issue}
    (member : i ∈ checkLoops shape path) : i.rule = "loop_blocks" := by
  rw [checkLoops, List.mem_append, List.mem_append] at member
  rcases member with (several | unbalanced) | nested
  · split at several
    · rw [List.mem_singleton] at several
      rw [several, loopIssue]
    · cases several
  · split at unbalanced
    · rw [List.mem_singleton] at unbalanced
      rw [unbalanced, loopIssue]
    · cases unbalanced
  · obtain ⟨path, -, rfl⟩ := List.mem_map.mp nested
    rfl

/-- The rule that a section breaks first. -/
def sectionRule? (s : Section) : Option String := (sectionErrors s).head?.map (·.rule)

theorem sectionRule?_eq_some {s : Section} {rule : String} (broken : sectionRule? s = some rule) :
    rule = "column_widths" ∨ rule = "loop_blocks" := by
  obtain ⟨i, first, rfl⟩ := Option.map_eq_some_iff.mp broken
  have member := List.mem_of_head? first
  rw [sectionErrors, List.mem_append] at member
  rcases member with columns | content
  · exact .inl (rule_of_mem_checkColumns (List.mem_filter.mp columns).1)
  · obtain ⟨field, -, loops⟩ := List.mem_flatMap.mp content
    exact .inr (rule_of_mem_checkLoops (List.mem_filter.mp loops).1)

/-- The rule that a template breaks first. -/
def brokenRule? (t : Template) : Option String :=
  if t.enabledSections = [] then some "enabled_sections"
  else if (t.enabledSections.map (·.position)).Nodup then t.sections.findSome? sectionRule?
  else some "unique_positions"

/-- It is the rule of the first error. -/
theorem head?_structuralErrors (t : Template) :
    (structuralErrors t).head?.map (·.rule) = brokenRule? t := by
  unfold brokenRule? structuralErrors checkEnabled
  by_cases none : t.enabledSections = []
  · rw [if_pos none, none]
    rfl
  · have some : t.enabledSections.isEmpty = false := List.isEmpty_eq_false_iff.mpr none
    rw [if_neg none, some, if_neg Bool.false_ne_true, List.nil_append]
    by_cases distinct : (t.enabledSections.map (·.position)).Nodup
    · rw [if_pos distinct, sharedPositions_eq_nil_iff.mpr distinct, List.nil_append,
        List.head?_flatMap, List.map_findSome?]
      rfl
    · have shared : sharedPositions t ≠ [] := fun h => distinct (sharedPositions_eq_nil_iff.mp h)
      obtain ⟨first, rest, found⟩ := List.exists_cons_of_ne_nil shared
      have rule :=
        rule_of_mem_sharedPositions (found ▸ List.mem_cons_self : first ∈ sharedPositions t)
      rw [if_neg distinct, found]
      exact congrArg Option.some rule

/-- A position that cannot be written out breaks the same rule as any other that is shared. -/
theorem brokenRule?_of_unwritable {t : Template} (shares : t.SharesUnwritable) :
    brokenRule? t = some "unique_positions" := by
  obtain ⟨position, shared, -⟩ := shares
  have some : t.enabledSections ≠ [] := by
    intro none
    rw [Template.sharesAt_iff, none] at shared
    cases shared
  have shared : ¬ (t.enabledSections.map (·.position)).Nodup :=
    fun distinct => Template.nodup_positions_iff.mp distinct ⟨position, shared⟩
  rw [brokenRule?, if_neg some, if_neg shared]

/-- That a document has sections is no rule of validation. -/
theorem brokenRule?_ne_renderable (t : Template) : brokenRule? t ≠ some "renderable_sections" := by
  unfold brokenRule?
  split
  · decide
  · split
    · intro broken
      obtain ⟨s, -, found⟩ := List.exists_of_findSome?_eq_some broken
      rcases sectionRule?_eq_some found with rule | rule <;> exact absurd rule (by decide)
    · decide

/-- The builtin template has no structural errors. -/
theorem structuralErrors_builtin : structuralErrors Builtin.template = [] := by
  have enabled : checkEnabled Builtin.template = [] := by decide
  have positions : sharedPositions Builtin.template = [] :=
    sharedPositions_eq_nil_iff.mpr (by decide +kernel)
  have sections : ∀ s ∈ Builtin.template.sections, sectionErrors s = [] := by decide +kernel
  rw [structuralErrors, enabled, positions, List.flatMap_eq_nil_iff.mpr sections]
  rfl

/-- The builtin template can be used, whatever the law asks for. -/
theorem isUsable_builtin (v : Validator) : v.isUsable Builtin.template = true :=
  isUsable_iff.mpr structuralErrors_builtin

end Validator

end InvoiceForms
