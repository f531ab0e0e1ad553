import InvoiceForms.Proofs.Store.Runner
import InvoiceForms.Proofs.Validation.Refusals
import InvoiceForms.Service.Generation

/-!
# Resolving ends in a usable template

Over a store that answers every search with a template, with nothing, or with a template that is no
use, resolving has three stages that fall through to each other and always ends: with the template
asked for, else with the default, else with the builtin one. What it ends in has no errors, so that
assembling it with the same validator is not stopped by one. The one thing that ends the search itself
is a template that comes up and cannot be validated.
-/

namespace InvoiceForms

universe u v

variable {m : Type → Type u} [Monad m] {σ : Type v}

/-- A store whose searches give a template, nothing, or a template that is no use, in every state. -/
structure TemplateStore.Answers (I : Runner m σ) (store : TemplateStore m) : Prop where
  get : ∀ id w e, I.answer (store.get id) w = .error e → ∃ cause, e = .configuration cause
  getDefault : ∀ w e, I.answer store.getDefault w = .error e → ∃ cause, e = .configuration cause

namespace Resolver

/-- A search gives a template that can be validated and has no errors. -/
def Gives (I : Runner m σ) (r : Resolver m) (fetch : ExceptT StoreFault m (Option Template)) (w : σ)
    (t : Template) : Prop :=
  I.answer fetch w = .ok (some t) ∧ r.validator.isUsable t = true

/-- A search gives a template that cannot be validated, since two of its enabled sections share a
position that is too long to be written out. -/
def Breaks (I : Runner m σ) (fetch : ExceptT StoreFault m (Option Template)) (w : σ) : Prop :=
  ∃ t, I.answer fetch w = .ok (some t) ∧ t.SharesUnwritable

/-- The store gives the template that is asked for, without errors. -/
def GivesRequested (I : Runner m σ) (r : Resolver m) (requested : Option String) (w : σ)
    (t : Template) : Prop :=
  ∃ id, requested = some id ∧ id ≠ "" ∧ r.Gives I (r.store.get id) w t

/-- The state in which the default template is searched for: behind the first search, if there is
one. -/
def beforeDefault (I : Runner m σ) (r : Resolver m) (requested : Option String) (w : σ) : σ :=
  match requested.filter (· ≠ "") with
  | none => w
  | some id => I.after (r.usable id (r.store.get id)) w

/-- The store gives a default template without errors. -/
def GivesDefault (I : Runner m σ) (r : Resolver m) (requested : Option String) (w : σ)
    (t : Template) : Prop :=
  r.Gives I r.store.getDefault (r.beforeDefault I requested w) t

/-- A template comes up that cannot be validated: as the one asked for, or as the default where the one
asked for is passed over. -/
def MeetsUnwritable (I : Runner m σ) (r : Resolver m) (requested : Option String) (w : σ) : Prop :=
  (∃ id, requested = some id ∧ id ≠ "" ∧ Breaks I (r.store.get id) w) ∨
    (∀ t, ¬ r.GivesRequested I requested w t) ∧
      Breaks I r.store.getDefault (r.beforeDefault I requested w)

/-- What resolving ends in, stage by stage: the template asked for, else the default, else the builtin
one. -/
inductive EndsIn (I : Runner m σ) (r : Resolver m) (requested : Option String) (w : σ) : Resolved → Prop
  | explicit {t : Template} (given : r.GivesRequested I requested w t) :
    EndsIn I r requested w ⟨t, .explicit⟩
  | default {t : Template} (nothing : ∀ u, ¬ r.GivesRequested I requested w u)
    (given : r.GivesDefault I requested w t) : EndsIn I r requested w ⟨t, .default⟩
  | builtin (nothing : ∀ u, ¬ r.GivesRequested I requested w u)
    (none : ∀ u, ¬ r.GivesDefault I requested w u) : EndsIn I r requested w ⟨Builtin.template, .builtin⟩

variable {I : Runner m σ} {r : Resolver m} {w : σ}

theorem outcome_report {e : JournalEntry} :
    I.outcome (r.report e) w = (.ok (), (I.run (r.store.report e) w).2) :=
  Runner.outcome_lift I (r.store.report e) w

theorem answer_report {e : JournalEntry} : I.answer (r.report e) w = .ok () :=
  congrArg Prod.fst outcome_report

/-- A search gives what is fetched, unless that has errors or is no use; it fails where that cannot be
validated. -/
theorem answer_usable {label : String} {fetch : ExceptT StoreFault m (Option Template)} :
    I.answer (r.usable label fetch) w =
      match I.answer fetch w with
      | .error (.configuration _) | .ok none => .ok none
      | .error e => .error e
      | .ok (some t) =>
        match r.validator.validate t with
        | .error e => .error (.unchecked e)
        | .ok issues => .ok (if Issue.hasErrors issues then none else some t) := by
  have answered : I.answer (ExceptT.lift fetch.run : ExceptT StoreFault m _) w = .ok (I.answer fetch w) :=
    congrArg Prod.fst (Runner.outcome_lift I fetch.run w)
  have told (e : JournalEntry) (w' : σ) :
      I.answer (do r.report e; return (none : Option Template)) w' = .ok none := by
    rw [Runner.answer_bind_of_ok answer_report, Runner.answer_pure]
  unfold usable
  rw [Runner.answer_bind_of_ok answered]
  generalize I.answer fetch w = answer
  rcases answer with e | _ | t
  · cases e with
    | configuration cause => exact told _ _
    | _ => exact I.answer_throw _ _
  · dsimp only
    split
    · exact told _ _
    · exact I.answer_pure _ _
  · dsimp only
    rcases r.validator.validate t with e | issues
    · exact I.answer_throw _ _
    · dsimp only
      split
      · exact told _ _
      · exact I.answer_pure _ _

/-- A template without errors is used. -/
theorem answer_usable_of_gives {label : String} {fetch : ExceptT StoreFault m (Option Template)}
    {t : Template} (given : r.Gives I fetch w t) : I.answer (r.usable label fetch) w = .ok (some t) := by
  obtain ⟨fetched, usable⟩ := given
  obtain ⟨issues, validated, none⟩ := Validator.isUsable_eq_true_iff.mp usable
  rw [answer_usable, fetched]
  dsimp only
  rw [validated]
  dsimp only
  rw [(Issue.hasErrors_eq_false_iff issues).mpr none, if_neg Bool.false_ne_true]

/-- A search that cannot fail otherwise ends at a template that cannot be validated. A template
without errors is used, and any other answer is passed over. -/
theorem usable_answer {I : Runner m σ} (r : Resolver m) (label : String)
    {fetch : ExceptT StoreFault m (Option Template)} {w : σ}
    (harmless : ∀ e, I.answer fetch w = .error e → ∃ cause, e = .configuration cause) :
    Breaks I fetch w ∧ I.answer (r.usable label fetch) w = .error (.unchecked .unwritablePosition) ∨
      ¬ Breaks I fetch w ∧ ∃ found, I.answer (r.usable label fetch) w = .ok found ∧
        ∀ t, found = some t ↔ r.Gives I fetch w t := by
  unfold Gives Breaks
  rw [answer_usable]
  generalize I.answer fetch w = answer at harmless
  rcases answer with e | _ | t
  · obtain ⟨cause, rfl⟩ := harmless e rfl
    exact .inr ⟨by simp, none, rfl, by simp⟩
  · exact .inr ⟨by simp, none, rfl, by simp⟩
  · dsimp only
    cases validated : r.validator.validate t with
    | error e =>
      cases e
      exact .inl ⟨⟨t, rfl, Validator.validate_eq_error_iff.mp validated⟩, rfl⟩
    | ok issues =>
      refine .inr ⟨?_, _, rfl, fun u => ?_⟩
      · rintro ⟨_, ⟨⟩, shares⟩
        exact (Validator.validate_eq_ok_iff.mp validated).1 shares
      · have usable : r.validator.isUsable t = !Issue.hasErrors issues := by
          rw [Validator.isUsable, validated]
        constructor
        · intro used
          split at used
          · cases used
          · next clean =>
            cases used
            exact ⟨rfl, by rw [usable, Bool.not_eq_true'] ; exact Bool.eq_false_iff.mpr clean⟩
        · rintro ⟨⟨⟩, clean⟩
          rw [usable, Bool.not_eq_true'] at clean
          rw [clean, if_neg Bool.false_ne_true]

/-- Behind a search that found nothing stands the default template when it has no errors, else the
builtin one, unless the default cannot be validated. -/
theorem resolveDefault_answer {I : Runner m σ} (r : Resolver m) (answers : r.store.Answers I)
    (requested : Option String) (w : σ) (nothing : ∀ t, ¬ r.GivesRequested I requested w t) :
    Breaks I r.store.getDefault (r.beforeDefault I requested w) ∧
        I.answer r.resolveDefault (r.beforeDefault I requested w) =
          .error (.unchecked .unwritablePosition) ∨
      ¬ Breaks I r.store.getDefault (r.beforeDefault I requested w) ∧
        ∃ found, I.answer r.resolveDefault (r.beforeDefault I requested w) = .ok found ∧
          r.EndsIn I requested w found := by
  unfold resolveDefault
  rcases r.usable_answer defaultLabel (answers.getDefault (r.beforeDefault I requested w)) with
    ⟨breaks, failed⟩ | ⟨whole, found, searched, exact⟩
  · exact .inl ⟨breaks, Runner.answer_bind_of_error failed _⟩
  · refine .inr ⟨whole, ?_⟩
    rw [Runner.answer_bind_of_ok searched]
    cases found with
    | some t => exact ⟨⟨t, .default⟩, I.answer_pure _ _, .default nothing ((exact t).mp rfl)⟩
    | none =>
      refine ⟨⟨Builtin.template, .builtin⟩, ?_, .builtin nothing fun t given => ?_⟩
      · dsimp only
        rw [Runner.answer_bind_of_ok answer_report, Runner.answer_pure]
      · cases (exact t).mpr given

/-- Resolving goes through the stages, unless one of them comes upon a template that cannot be
validated. -/
theorem resolve_answer {I : Runner m σ} (r : Resolver m) (answers : r.store.Answers I)
    (requested : Option String) (w : σ) :
    r.MeetsUnwritable I requested w ∧
        I.answer (r.resolve requested) w = .error (.unchecked .unwritablePosition) ∨
      ¬ r.MeetsUnwritable I requested w ∧
        ∃ found, I.answer (r.resolve requested) w = .ok found ∧ r.EndsIn I requested w found := by
  have default := r.resolveDefault_answer answers requested w
  unfold beforeDefault at default
  unfold resolve MeetsUnwritable beforeDefault
  rcases asked : requested.filter (· ≠ "") with _ | id
  · have notAsked : ∀ id, requested = some id → ¬ id ≠ "" := by
      rintro id rfl nonempty
      simp [Option.filter, nonempty] at asked
    have nothing : ∀ t, ¬ r.GivesRequested I requested w t := by
      rintro t ⟨id, some, nonempty, -⟩
      exact notAsked id some nonempty
    rw [asked] at default
    rcases default nothing with ⟨breaks, failed⟩ | ⟨whole, ends⟩
    · exact .inl ⟨.inr ⟨nothing, breaks⟩, failed⟩
    · refine .inr ⟨?_, ends⟩
      rintro (⟨id, some, nonempty, -⟩ | ⟨-, breaks⟩)
      · exact notAsked id some nonempty
      · exact whole breaks
  · obtain ⟨rfl, nonempty⟩ : requested = some id ∧ id ≠ "" := by
      simpa [Option.filter_eq_some_iff] using asked
    rw [asked] at default
    dsimp only at default ⊢
    rcases r.usable_answer id (answers.get id w) with
      ⟨breaks, failed⟩ | ⟨whole, found, searched, exact⟩
    · exact .inl ⟨.inl ⟨id, rfl, nonempty, breaks⟩, Runner.answer_bind_of_error failed _⟩
    · rw [Runner.answer_bind_of_ok searched]
      cases found with
      | some t =>
        have given : r.GivesRequested I (some id) w t := ⟨id, rfl, nonempty, (exact t).mp rfl⟩
        refine .inr ⟨?_, ⟨t, .explicit⟩, I.answer_pure _ _, .explicit given⟩
        rintro (⟨_, ⟨⟩, -, breaks⟩ | ⟨nothing, -⟩)
        · exact whole breaks
        · exact nothing t given
      | none =>
        have nothing : ∀ t, ¬ r.GivesRequested I (some id) w t := by
          rintro t ⟨_, ⟨⟩, -, given⟩
          cases (exact t).mpr given
        rcases default nothing with ⟨breaks, failed⟩ | ⟨whole', ends⟩
        · exact .inl ⟨.inr ⟨nothing, breaks⟩, failed⟩
        · refine .inr ⟨?_, ends⟩
          rintro (⟨_, ⟨⟩, -, breaks⟩ | ⟨-, breaks⟩)
          · exact whole breaks
          · exact whole' breaks

end Resolver

namespace Generator

/-- The fault of an operation of the store becomes a failure. -/
theorem answer_onStore {α : Type} {I : Runner m σ} (failure : StoreFault → Failure)
    (x : ExceptT StoreFault m α) (w : σ) :
    I.answer (onStore failure x) w = (I.answer x w).mapError failure := by
  have run : I.run x.run w = (I.answer x w, I.after x w) := rfl
  unfold onStore
  rw [Runner.answer, Runner.outcome_bind, Runner.outcome_lift, run]
  cases I.answer x w with
  | ok a => exact I.answer_pure _ _
  | error e => exact I.answer_throw _ _

/-- The fault of a computation becomes a failure. -/
theorem answer_lift {ε α : Type} {I : Runner m σ} (failure : ε → Failure) (x : Except ε α) (w : σ) :
    I.answer (lift failure x) w = x.mapError failure := by
  cases x with
  | ok a => exact I.answer_pure _ _
  | error e => exact I.answer_throw _ _

theorem answer_assemble {I : Runner m σ} (g : Generator m) (t : Template) (ctx : Context)
    (source : Option SourceKind) (w : σ) : I.answer (g.assemble t ctx source) w =
      (g.assembler.assemble t ctx source).mapError .render := by
  unfold assemble
  rw [Runner.answer, Runner.outcome_bind, Runner.outcome_lift]
  exact answer_lift _ _ _

/-- A document is generated by assembling what resolving ends in. -/
theorem generate_answer {I : Runner m σ} (g : Generator m) {ctx : Context}
    {requested : Option String} {w : σ} {t : Template} {source : SourceKind}
    (resolved : I.answer (g.resolver.resolve requested) w = .ok ⟨t, source⟩) :
    I.answer (g.generate ctx requested) w =
      (g.assembler.assemble t ctx (some source)).mapError .render := by
  have found : I.answer (g.resolve requested) w = .ok ⟨t, source⟩ := by
    rw [resolve, answer_onStore, resolved]
    rfl
  unfold generate
  rw [Runner.answer_bind_of_ok found, answer_assemble]

/-- A document of a usable template is refused for no rule of validation. -/
theorem generate_fault {I : Runner m σ} {g : Generator m} {requested : Option String} {w : σ}
    {t : Template} {source : SourceKind} {ctx : Context} {e : RenderFault}
    (resolved : I.answer (g.resolver.resolve requested) w = .ok ⟨t, source⟩)
    (usable : g.assembler.validator.isUsable t = true)
    (failed : I.answer (g.generate ctx requested) w = .error (.render e)) :
    (∃ cause, e = .broken cause) ∨ e = .empty t.id := by
  rw [generate_answer g resolved] at failed
  cases assembled : g.assembler.assemble t ctx (some source) with
  | error fault =>
    rw [assembled] at failed
    cases failed
    exact Assembler.assemble_eq_error usable assembled
  | ok d =>
    rw [assembled] at failed
    cases failed

/-- Whether a template without errors gives nothing to render. -/
theorem generate_empty_iff {I : Runner m σ} {g : Generator m} {requested : Option String} {w : σ}
    {t : Template} {source : SourceKind} {ctx : Context}
    (resolved : I.answer (g.resolver.resolve requested) w = .ok ⟨t, source⟩)
    (usable : g.assembler.validator.isUsable t = true)
    (each : ∀ s ∈ t.sections, ∃ x, g.assembler.renderer.render s ctx = .ok x) :
    ((∃ id, I.answer (g.generate ctx requested) w = .error (.render (.empty id))) ↔
        ∀ s ∈ t.sections, s.enabled = true → g.assembler.renderer.supports s.type = false) ∧
      ((∃ d, I.answer (g.generate ctx requested) w = .ok d) ↔
        ∃ s ∈ t.sections, s.enabled = true ∧ g.assembler.renderer.supports s.type = true) := by
  have assembled := Assembler.assemble_of_each usable each (some source)
  rw [generate_answer g resolved]
  split at assembled
  · next unsupported =>
    rw [assembled]
    refine ⟨⟨fun _ => unsupported, fun _ => ⟨t.id, rfl⟩⟩, ?_, ?_⟩
    · rintro ⟨d, made⟩
      cases made
    · rintro ⟨s, member, on, supported⟩
      rw [unsupported s member on] at supported
      cases supported
  · next some =>
    obtain ⟨d, made, -, -⟩ := assembled
    rw [made]
    refine ⟨⟨?_, fun unsupported => absurd unsupported some⟩, fun _ => ?_, fun _ => ⟨d, rfl⟩⟩
    · rintro ⟨id, empty⟩
      cases empty
    · simp only [not_forall, Bool.not_eq_false] at some
      obtain ⟨s, member, on, supported⟩ := some
      exact ⟨s, member, on, supported⟩

end Generator

namespace Resolver

/-- What generating a document gives when it is validated as resolving validates. -/
def generated (I : Runner m σ) (r : Resolver m) (requested : Option String) (w : σ)
    (renderer : Renderer) (ctx : Context) : Except Failure RenderedDocument :=
  I.answer (Generator.generate ⟨r, ⟨r.validator, renderer⟩⟩ ctx requested) w

/-- Generating documents of the template that resolving ends in is not stopped by a rule of validation.
When the sections of the template can be rendered, it finds nothing to render exactly when no enabled
section is of a supported type. -/
structure Generates (I : Runner m σ) (r : Resolver m) (requested : Option String) (w : σ)
    (t : Template) : Prop where
  validated : ∀ renderer ctx e, r.generated I requested w renderer ctx = .error (.render e) →
    (∃ cause, e = .broken cause) ∨ e = .empty t.id
  empty_iff : ∀ renderer ctx, (∀ s ∈ t.sections, ∃ x, renderer.render s ctx = .ok x) →
    ((∃ id, r.generated I requested w renderer ctx = .error (.render (.empty id))) ↔
      ∀ s ∈ t.sections, s.enabled = true → renderer.supports s.type = false)
  document_iff : ∀ renderer ctx, (∀ s ∈ t.sections, ∃ x, renderer.render s ctx = .ok x) →
    ((∃ d, r.generated I requested w renderer ctx = .ok d) ↔
      ∃ s ∈ t.sections, s.enabled = true ∧ renderer.supports s.type = true)

theorem generates_of_usable {I : Runner m σ} {r : Resolver m} {requested : Option String} {w : σ}
    {t : Template} {source : SourceKind} (resolved : I.answer (r.resolve requested) w = .ok ⟨t, source⟩)
    (usable : r.validator.isUsable t = true) : r.Generates I requested w t where
  validated renderer _ _ failed :=
    Generator.generate_fault (g := ⟨r, ⟨r.validator, renderer⟩⟩) resolved usable failed
  empty_iff renderer _ each :=
    (Generator.generate_empty_iff (g := ⟨r, ⟨r.validator, renderer⟩⟩) resolved usable each).1
  document_iff renderer _ each :=
    (Generator.generate_empty_iff (g := ⟨r, ⟨r.validator, renderer⟩⟩) resolved usable each).2

/-- Resolving ends in a usable template. It is the one asked for exactly when the store gives that one
without errors, else the default exactly when the store gives that one without errors, else the builtin
one. -/
structure EndsUsable (I : Runner m σ) (r : Resolver m) (requested : Option String) (w : σ)
    (t : Template) (source : SourceKind) : Prop where
  resolved : I.answer (r.resolve requested) w = .ok ⟨t, source⟩
  explicit_iff : source = .explicit ↔ ∃ u, r.GivesRequested I requested w u
  explicit : source = .explicit → r.GivesRequested I requested w t
  default_iff : source = .default ↔
    (∀ u, ¬ r.GivesRequested I requested w u) ∧ ∃ u, r.GivesDefault I requested w u
  default : source = .default → r.GivesDefault I requested w t
  builtin_iff : source = .builtin ↔
    (∀ u, ¬ r.GivesRequested I requested w u) ∧ ∀ u, ¬ r.GivesDefault I requested w u
  builtin : source = .builtin → t = Builtin.template
  usable : r.validator.isUsable t = true
  generates : r.Generates I requested w t

/-- What the stages end in is usable, and the stage tells which one it is. -/
theorem EndsIn.endsUsable {I : Runner m σ} {r : Resolver m} {requested : Option String} {w : σ}
    {t : Template} {source : SourceKind} (ends : r.EndsIn I requested w ⟨t, source⟩)
    (resolved : I.answer (r.resolve requested) w = .ok ⟨t, source⟩) :
    r.EndsUsable I requested w t source := by
  cases ends with
  | explicit given =>
    have usable := given.choose_spec.2.2.2
    refine ⟨resolved, ?_, fun _ => given, ?_, nofun, ?_, nofun, usable,
      generates_of_usable resolved usable⟩
    · exact ⟨fun _ => ⟨t, given⟩, fun _ => rfl⟩
    · exact ⟨nofun, fun no => absurd given (no.1 t)⟩
    · exact ⟨nofun, fun no => absurd given (no.1 t)⟩
  | default nothing given =>
    have usable := given.2
    refine ⟨resolved, ?_, nofun, ?_, fun _ => given, ?_, nofun, usable,
      generates_of_usable resolved usable⟩
    · exact ⟨nofun, fun ⟨u, asked⟩ => absurd asked (nothing u)⟩
    · exact ⟨fun _ => ⟨nothing, t, given⟩, fun _ => rfl⟩
    · exact ⟨nofun, fun no => absurd given (no.2 t)⟩
  | builtin nothing none =>
    have usable := r.validator.isUsable_builtin
    refine ⟨resolved, ?_, nofun, ?_, nofun, ?_, fun _ => rfl, usable,
      generates_of_usable resolved usable⟩
    · exact ⟨nofun, fun ⟨u, asked⟩ => absurd asked (nothing u)⟩
    · exact ⟨nofun, fun ⟨_, u, stored⟩ => absurd stored (none u)⟩
    · exact ⟨fun _ => ⟨nothing, none⟩, fun _ => rfl⟩

/-- Resolving ends in a usable template exactly when no template comes up that cannot be validated, the
one asked for or the default behind it. Such a template is not passed over but ends the search. -/
theorem resolve_ends_usable_iff {I : Runner m σ} (r : Resolver m) (answers : r.store.Answers I)
    (requested : Option String) (w : σ) :
    ((∃ t source, r.EndsUsable I requested w t source) ↔ ¬ r.MeetsUnwritable I requested w) ∧
      (r.MeetsUnwritable I requested w →
        I.answer (r.resolve requested) w = .error (.unchecked .unwritablePosition)) := by
  rcases r.resolve_answer answers requested w with
    ⟨meets, failed⟩ | ⟨whole, ⟨t, source⟩, resolved, ends⟩
  · refine ⟨iff_of_false ?_ (not_not_intro meets), fun _ => failed⟩
    rintro ⟨t, source, ended⟩
    cases failed.symm.trans ended.resolved
  · exact ⟨iff_of_true ⟨t, source, ends.endsUsable resolved⟩ whole, fun meets => absurd meets whole⟩

end Resolver

/-- A store in memory answers every search. -/
theorem MemoryStore.answers_session : MemoryStore.operations.Answers Runner.session where
  get _ _ _ failed := by cases failed
  getDefault _ _ failed := by cases failed

namespace Resolver

/-- A search leaves a store in memory as it is. -/
theorem beforeDefault_session (v : Validator) (requested : Option String)
    (w : MemoryStore × List JournalEntry) :
    (beforeDefault Runner.session ⟨MemoryStore.operations, v⟩ requested w).1 = w.1 := by
  unfold beforeDefault
  split
  · rfl
  · next id _ =>
    unfold usable report Runner.after
    simp only [Runner.outcome_bind, Runner.outcome_lift]
    have searched : Runner.session.run (MemoryStore.operations.get id).run w =
        (.ok (w.1.get id), w) := rfl
    rw [searched]
    cases w.1.get id with
    | none =>
      dsimp only
      split <;> rfl
    | some t =>
      dsimp only
      split
      · rfl
      · split <;> rfl

/-- A template with a header only. -/
def headed : Template where
  id := "headed"
  name := "Headed"
  company := { name := "Atelier" }
  sections := [Builtin.header]

/-- A store that holds a template without sections and, as the default, one with a header. -/
def partlyBroken : MemoryStore where
  templates := [("bare", { headed with id := "bare", sections := [] }), ("headed", headed)]
  pointer := some "headed"

/-- A store that was made with a template whose header and footer are at one position, far down. -/
def stackedStore : MemoryStore := .ofList [.stacked (10 ^ 4300)]

/-- The template comes up when it is asked for. -/
theorem meetsUnwritable_stacked (v : Validator) : MeetsUnwritable Runner.session
    ⟨MemoryStore.operations, v⟩ (some "stacked") (stackedStore, []) :=
  .inl ⟨"stacked", rfl, by decide, _, rfl, Template.sharesUnwritable_far⟩

/-- A template without sections is passed over for the default, but not one that cannot be validated. -/
theorem resolve_bare_uses_default :
    MemoryStore.operations.Answers Runner.session ∧
      ¬ MeetsUnwritable Runner.session ⟨MemoryStore.operations, {}⟩ (some "bare") (partlyBroken, []) ∧
      (∃ t, Runner.session.answer (resolve ⟨MemoryStore.operations, {}⟩ (some "bare"))
        (partlyBroken, []) = .ok ⟨t, .default⟩) ∧
      MeetsUnwritable Runner.session ⟨MemoryStore.operations, {}⟩ (some "stacked")
        (stackedStore, []) ∧
      Runner.session.answer (resolve ⟨MemoryStore.operations, {}⟩ (some "stacked"))
        (stackedStore, []) = .error (.unchecked .unwritablePosition) := by
  have before := beforeDefault_session {} (some "bare") (partlyBroken, [])
  have bare : ∀ u, ¬ GivesRequested Runner.session ⟨MemoryStore.operations, {}⟩ (some "bare")
      (partlyBroken, []) u := by
    rintro u ⟨id, ⟨⟩, -, ⟨⟩, usable⟩
    rw [Validator.isUsable_iff, Validator.structuralErrors_eq_nil_iff] at usable
    exact usable.1 rfl
  have fetched : Runner.session.answer MemoryStore.operations.getDefault
      (beforeDefault Runner.session ⟨MemoryStore.operations, {}⟩ (some "bare") (partlyBroken, [])) =
        .ok (some { headed with isDefault := true }) := by
    show Except.ok (MemoryStore.getDefault (Prod.fst _)) = _
    rw [before]
    rfl
  have writable : ∀ t : Template, (t.enabledSections.map (·.position)).Nodup → ¬ t.SharesUnwritable :=
    fun t distinct shares => Template.nodup_positions_iff.mp distinct shares.sharesPosition
  have whole : ¬ MeetsUnwritable Runner.session ⟨MemoryStore.operations, {}⟩ (some "bare")
      (partlyBroken, []) := by
    rintro (⟨id, ⟨⟩, -, t, ⟨⟩, shares⟩ | ⟨-, t, given, shares⟩)
    · exact writable _ (by decide) shares
    · cases fetched.symm.trans given
      exact writable _ (by decide) shares
  have stored : GivesDefault Runner.session ⟨MemoryStore.operations, {}⟩ (some "bare")
      (partlyBroken, []) { headed with isDefault := true } := by
    refine ⟨fetched, ?_⟩
    rw [Validator.isUsable_iff, Validator.structuralErrors_eq_nil_iff]
    decide
  have meets := meetsUnwritable_stacked {}
  obtain ⟨ends, -⟩ := resolve_ends_usable_iff ⟨MemoryStore.operations, {}⟩
    MemoryStore.answers_session (some "bare") (partlyBroken, [])
  obtain ⟨t, source, usable⟩ := ends.mpr whole
  obtain rfl := usable.default_iff.mpr ⟨bare, _, stored⟩
  have failed := (resolve_ends_usable_iff ⟨MemoryStore.operations, {}⟩ MemoryStore.answers_session
    (some "stacked") (stackedStore, [])).2 meets
  exact ⟨MemoryStore.answers_session, whole, ⟨t, usable.resolved⟩, meets, failed⟩

/-- Asked for a template that cannot be validated, though its data is accepted and the store answers every
search, resolving ends in no template at all, whatever the law asks for. -/
theorem far_stacked_ends_in_nothing :
    Template.schema.validate (.ofJson (.object (Template.stackedPayload (10 ^ 4300)))) =
      .ok (.stacked (10 ^ 4300)) ∧
    MemoryStore.operations.Answers Runner.session ∧
    ∀ policy : LegalPolicy, ¬ ∃ found, Runner.session.answer
      (resolve ⟨MemoryStore.operations, ⟨policy, .standard⟩⟩ (some "stacked")) (stackedStore, []) =
        .ok found := by
  refine ⟨Template.validate_stackedPayload, MemoryStore.answers_session, ?_⟩
  rintro policy ⟨found, resolved⟩
  rcases resolve_answer ⟨MemoryStore.operations, ⟨policy, .standard⟩⟩ MemoryStore.answers_session
    (some "stacked") (stackedStore, []) with ⟨-, failed⟩ | ⟨whole, -⟩
  · cases failed.symm.trans resolved
  · exact whole (meetsUnwritable_stacked _)

end Resolver

end InvoiceForms
