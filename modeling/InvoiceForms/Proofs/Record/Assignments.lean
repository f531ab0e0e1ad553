import InvoiceForms.Proofs.Record.Records
import InvoiceForms.Record.Assignment

/-!
# What assignments make of a record

A field that refuses a value leaves the record as it is. A value that a field takes stays in the record,
whether the check of the whole then passes or not: what the check asks for survives a run of assignments
exactly when none of them spoils it (`Schema.Guards.survives_iff`).
-/

namespace InvoiceForms.Record

open InvoiceForms.Results

universe u

namespace Schema

variable {ρ : Type} {s : Schema ρ} {holds : ρ → Prop} {spoils : ρ → String → Value → Prop} {name : String}
  {v : Value} {change : ρ → ρ} {r : Edited ρ}

/-- The field with a name takes a value: it reads it as a change of the record. -/
def Takes (s : Schema ρ) (name : String) (v : Value) (change : ρ → ρ) : Prop :=
  ∃ f, s.fields.find? (·.name = name) = some f ∧ f.read v = .ok change

theorem Takes.exists_field (taken : s.Takes name v change) :
    ∃ f ∈ s.fields, f.name = name ∧ f.read v = .ok change := by
  obtain ⟨f, found, read⟩ := taken
  exact ⟨f, List.mem_of_find?_eq_some found, by simpa using List.find?_some found, read⟩

/-- A kind of record whose fields read what is assigned to them, with nothing else to assign to, and whose
check of the whole is for a property. What spoils the property of a record is that a field takes a value that
breaks it. -/
structure Guards (s : Schema ρ) (holds : ρ → Prop) (spoils : ρ → String → Value → Prop) : Prop where
  reads : s.assignsRead = true
  free : s.frozen = false
  forbids : s.extras = .forbid
  assignable : ∀ f ∈ s.fields, f.name ∉ s.constants ∧ f.name.toList.head? ≠ some '_' ∧
    f.name ∉ s.derived ++ commonDerived
  check_iff : ∀ r, s.check r = .ok () ↔ holds r
  spoils_iff : ∀ r name v, holds r →
    (spoils r name v ↔ ∃ change, s.Takes name v change ∧ ¬ holds (change r))

/-- An assignment of a run: what is assigned, and what comes of it. -/
structure Step (ρ : Type) where
  before : Edited ρ
  name : String
  value : Value
  outcome : Assignment ρ

/-- The record behind an assignment. -/
def Step.after (step : Step ρ) : Edited ρ := step.outcome.result

/-- The assignments of a run, one after another. One that is refused does not keep the next one from being
made. -/
def steps (s : Schema ρ) : Edited ρ → List (String × Value) → List (Step ρ)
  | _, [] => []
  | r, (name, v) :: rest =>
    ⟨r, name, v, s.assign r name v⟩ :: steps s (s.assign r name v).result rest

/-- A property holds behind every assignment of a run, and one that is refused leaves the record exactly as
it was. -/
def Survives (s : Schema ρ) (holds : ρ → Prop) (r : Edited ρ) (edits : List (String × Value)) : Prop :=
  ∀ step ∈ s.steps r edits, holds step.after.record ∧
    (step.outcome.refusal.isSome = true → step.after = step.before)

namespace Guards

variable (guards : s.Guards holds spoils)

include guards

theorem checked_eq (r : ρ) (kept : holds r) : s.checked r = .ok r := by
  rw [checked, (guards.check_iff r).mpr kept]

theorem checked_eq_error (r : ρ) (broken : ¬ holds r) : ∃ e, s.checked r = .error e := by
  unfold checked
  split
  · next passed => exact absurd ((guards.check_iff r).mp passed) broken
  · exact ⟨_, rfl⟩

/-- A record that is let through has the property. -/
theorem holds_of_validate {r : ρ} (given : s.validate v = .ok r) : holds r :=
  (guards.check_iff r).mp (check_of_validate given)

/-- Nothing stands against assigning to a field but its reading and the check of the whole. -/
theorem assign_of_field {f : RecordField ρ} (found : s.fields.find? (·.name = name) = some f) (r : Edited ρ)
    (v : Value) : s.assign r name v = s.assignField r f v := by
  have isField : f ∈ s.fields := List.mem_of_find?_eq_some found
  obtain rfl : f.name = name := by simpa using List.find?_some found
  obtain ⟨noConstant, noUnderscore, noDerived⟩ := guards.assignable f isField
  rw [assign, if_neg noConstant, if_neg noUnderscore, guards.free, if_neg Bool.false_ne_true,
    if_neg noDerived, assignName, found, guards.reads]

/-- A value that its field takes is in the record afterwards; it is refused when the property is broken. -/
theorem assign_of_takes (taken : s.Takes name v change) (r : Edited ρ) :
    (s.assign r name v).result = { r with record := change r.record } ∧
      ((s.assign r name v).refusal = none ↔ holds (change r.record)) := by
  obtain ⟨f, found, read⟩ := taken
  rw [guards.assign_of_field found, assignField, read]
  dsimp only
  by_cases kept : holds (change r.record)
  · rw [guards.checked_eq _ kept]
    exact ⟨rfl, iff_of_true rfl kept⟩
  · obtain ⟨e, refused⟩ := guards.checked_eq_error _ kept
    rw [refused]
    exact ⟨rfl, iff_of_false nofun kept⟩

/-- Whatever else is assigned leaves the record as it is. -/
theorem result_of_untaken (untaken : ∀ change, ¬ s.Takes name v change) (r : Edited ρ) :
    (s.assign r name v).result = r := by
  cases found : s.fields.find? (·.name = name) with
  | some f =>
    rw [guards.assign_of_field found, assignField]
    cases read : f.read v with
    | ok change => exact absurd ⟨f, found, read⟩ (untaken change)
    | error e => rfl
  | none =>
    unfold assign
    split
    · rfl
    · split
      · rfl
      · rw [guards.free, if_neg Bool.false_ne_true]
        split
        · rfl
        · rw [assignName, found, guards.reads]
          dsimp only
          rw [assignExtra, guards.forbids]
          rfl

/-- One assignment keeps the property, and leaves no trace when it is refused, unless it spoils the
property. -/
theorem step_iff (kept : holds r.record) (name : String) (v : Value) :
    (holds (s.assign r name v).result.record ∧
      ((s.assign r name v).refusal.isSome = true → (s.assign r name v).result = r)) ↔
      ¬ spoils r.record name v := by
  rw [guards.spoils_iff r.record name v kept]
  constructor
  · rintro ⟨still, -⟩ ⟨change, taken, broken⟩
    rw [(guards.assign_of_takes taken r).1] at still
    exact broken still
  · intro harmless
    by_cases some : ∃ change, s.Takes name v change
    · obtain ⟨change, taken⟩ := some
      obtain ⟨result, refusal⟩ := guards.assign_of_takes taken r
      have still : holds (change r.record) := not_not.mp fun broken => harmless ⟨change, taken, broken⟩
      rw [result, refusal.mpr still]
      exact ⟨still, nofun⟩
    · rw [guards.result_of_untaken (not_exists.mp some) r]
      exact ⟨kept, fun _ => rfl⟩

/-- A run of assignments keeps the property, and leaves no trace of those that are refused, exactly when
none of them spoils the property. -/
theorem survives_iff (kept : holds r.record) (edits : List (String × Value)) :
    s.Survives holds r edits ↔
      ∀ step ∈ s.steps r edits, ¬ spoils step.before.record step.name step.value := by
  induction edits generalizing r with
  | nil => exact iff_of_true nofun nofun
  | cons edit rest ih =>
    obtain ⟨name, v⟩ := edit
    rw [Survives, steps, List.forall_mem_cons, List.forall_mem_cons]
    -- The rest of the run starts from a record that has the property, if the first assignment keeps it.
    exact (and_congr_right fun first => ih first.1).trans (and_congr_left' (guards.step_iff kept name v))

end Guards

/-- Every assignment of a run is made to the record as it is then. -/
theorem outcome_of_mem_steps {step : Step ρ} {edits : List (String × Value)}
    (inside : step ∈ s.steps r edits) : step.outcome = s.assign step.before step.name step.value := by
  induction edits generalizing r with
  | nil => cases inside
  | cons edit rest ih =>
    rcases List.mem_cons.mp inside with rfl | later
    · rfl
    · exact ih later

/-- What a run of assignments makes of a record and of a property that the check of the whole is for. -/
structure Safeguards (s : Schema ρ) (holds : ρ → Prop) (spoils : ρ → String → Value → Prop) (r : ρ)
    (edits : List (String × Value)) : Prop where
  start : holds r
  /-- A value that its field takes stays, and is refused when the property is broken. -/
  taken : ∀ step ∈ s.steps ⟨r, []⟩ edits, ∀ change, s.Takes step.name step.value change →
    step.after = { step.before with record := change step.before.record } ∧
      (step.outcome.refusal = none ↔ holds step.after.record)
  /-- Every other one leaves the record as it is. -/
  untaken : ∀ step ∈ s.steps ⟨r, []⟩ edits, (∀ change, ¬ s.Takes step.name step.value change) →
    step.after = step.before
  survives_iff : s.Survives holds ⟨r, []⟩ edits ↔
    ∀ step ∈ s.steps ⟨r, []⟩ edits, ¬ spoils step.before.record step.name step.value

theorem Guards.safeguards (guards : s.Guards holds spoils) {r : ρ} (given : s.validate v = .ok r)
    (edits : List (String × Value)) : s.Safeguards holds spoils r edits where
  start := guards.holds_of_validate given
  taken step inside change taken := by
    obtain ⟨result, refusal⟩ := guards.assign_of_takes taken step.before
    rw [Step.after, outcome_of_mem_steps inside, result]
    exact ⟨rfl, refusal⟩
  untaken step inside untaken := by
    rw [Step.after, outcome_of_mem_steps inside]
    exact guards.result_of_untaken untaken step.before
  survives_iff := guards.survives_iff (r := ⟨r, []⟩) (guards.holds_of_validate given) edits

end Schema

end InvoiceForms.Record
