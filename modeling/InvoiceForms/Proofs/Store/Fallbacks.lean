import InvoiceForms.Proofs.Store.Files
import InvoiceForms.Proofs.Store.Resolution

/-!
# What resolving reports

When resolving passes over the template that is asked for, its journal has a warning about that one:
that it could not be loaded, that there is none, or that it has errors. The search for the default is
quiet where there is none, and since it is known by its label, so is the search for a template of that id.
-/

namespace InvoiceForms

universe u v

@[simp] theorem World.change_journal (w : World) (x : Except FileFault FileTree) :
    (w.change x).2.journal = w.journal := by
  cases x <;> rfl

/-- An action adds to the journal and takes nothing back. -/
theorem World.perform_journal {α : Type} (w : World) (action : Action α) :
    w.journal <+: (w.perform action).2.journal := by
  cases action with
  | report entry => exact List.prefix_append w.journal [entry]
  | acquire p =>
    show w.journal <+: (w.acquire p).2.journal
    unfold World.acquire
    cases w.tree.append p .empty with
    | error e => exact List.prefix_rfl
    | ok tree => by_cases held : p ∈ w.locked <;> simp [held]
  | makeTemporary directory stem =>
    show w.journal <+: (w.makeTemporary directory stem).2.journal
    unfold World.makeTemporary
    dsimp only
    cases w.tree.write (directory ++ [w.temporaryName stem]) .empty <;> exact List.prefix_rfl
  | _ => simp [World.perform]

/-- A program adds to the journal and takes nothing back. -/
theorem Program.run_journal {α : Type} (p : Program α) (w : World) :
    w.journal <+: (p.run w).2.journal := by
  induction p generalizing w with
  | done a => exact List.prefix_rfl
  | act action next ih => exact (w.perform_journal action).trans (ih _ _)

variable {m : Type → Type u} [Monad m] {σ : Type v} {I : Runner m σ} {journal : σ → List JournalEntry}
  {w : σ} {t : Template} {source : SourceKind}

/-- A store whose states have a journal, to which reports are added at the end. -/
structure TemplateStore.Journals (I : Runner m σ) (store : TemplateStore m)
    (journal : σ → List JournalEntry) : Prop where
  getDefault : ∀ w, journal w <+: journal (I.after store.getDefault w)
  report : ∀ e w, journal (I.run (store.report e) w).2 = journal w ++ [e]

theorem FileStore.journals_program (s : FileStore) :
    s.operations.Journals Runner.program World.journal where
  getDefault w := Program.run_journal _ w
  report _ _ := rfl

namespace Resolver

variable {r : Resolver m} {label id : String} {fetch : ExceptT StoreFault m (Option Template)}
  {found : Option Template} {e : JournalEntry}

/-- Whether a journal entry of resolving warns of the template of a name. -/
structure Warns (name : String) (e : JournalEntry) : Prop where
  level : e.level = .warning
  origin : e.origin = "invoice_templates.rendering.resolver"
  message : ∃ reason, e.message = "Template " ++ name ++ reason

/-- The name of the template that a search is for: that of the one it gives, or else its label. -/
def nameOf (label : String) : Except StoreFault (Option Template) → String
  | .ok (some t) => t.id
  | _ => label

/-- Whether what follows on a search reports no more than that the template of a name is passed over,
and that whenever nothing is found, but for a reason to be quiet. -/
def PassesOver (I : Runner m σ) (journal : σ → List JournalEntry)
    (x : ExceptT StoreFault m (Option Template)) (w : σ) (name : String) (quiet : Prop)
    (found : Option Template) : Prop :=
  ∃ own, journal (I.after x w) = journal w ++ own ∧ (∀ e ∈ own, Warns name e) ∧
    (own ≠ [] ↔ found = none ∧ ¬ quiet)

theorem journal_report (journals : r.store.Journals I journal) :
    journal (I.after (r.report e) w) = journal w ++ [e] := by
  rw [← journals.report e w, Runner.after, outcome_report]

/-- A warning is reported where nothing is found. -/
theorem passesOver_report {name : String} {quiet : Prop} (journals : r.store.Journals I journal)
    (warns : Warns name e) (loud : ¬ quiet)
    (searched : I.answer (do r.report e; return (none : Option Template)) w = .ok found) :
    PassesOver I journal (do r.report e; return (none : Option Template)) w name quiet found := by
  rw [Runner.answer_bind_of_ok answer_report] at searched
  cases (Runner.answer_pure _ _ _).symm.trans searched
  refine ⟨[e], ?_, ?_, ?_⟩
  · rw [Runner.after_bind_of_ok answer_report, Runner.after_pure, journal_report journals]
  · intro other member
    obtain rfl := List.mem_singleton.mp member
    exact warns
  · simp [loud]

/-- Nothing is reported of what is found, or where there is a reason to be quiet. -/
theorem passesOver_pure {name : String} {quiet : Prop} {given : Option Template}
    (silent : given = none → quiet)
    (searched : I.answer (pure given : ExceptT StoreFault m _) w = .ok found) :
    PassesOver I journal (pure given) w name quiet found := by
  cases (Runner.answer_pure _ _ _).symm.trans searched
  refine ⟨[], ?_, ?_, ?_⟩
  · rw [Runner.after_pure, List.append_nil]
  · simp
  · simpa using silent

/-- A search is passed over with one warning, unless it is for the default and there is none. -/
theorem usable_reports (journals : r.store.Journals I journal)
    (searched : I.answer (r.usable label fetch) w = .ok found) :
    ∃ own, journal (I.after (r.usable label fetch) w) = journal (I.after fetch w) ++ own ∧
      (∀ e ∈ own, Warns (nameOf label (I.answer fetch w)) e) ∧
      (own ≠ [] ↔ found = none ∧ ¬ (label = defaultLabel ∧ I.answer fetch w = .ok none)) := by
  have fetched : I.outcome (ExceptT.lift fetch.run : ExceptT StoreFault m _) w =
      (.ok (I.answer fetch w), I.after fetch w) := Runner.outcome_lift I fetch.run w
  have answered := congrArg Prod.fst fetched
  have behind : I.after (ExceptT.lift fetch.run : ExceptT StoreFault m _) w = I.after fetch w :=
    congrArg Prod.snd fetched
  unfold usable at searched ⊢
  rw [Runner.answer_bind_of_ok answered, behind] at searched
  rw [Runner.after_bind_of_ok answered, behind]
  generalize I.answer fetch w = answer at searched ⊢
  rcases answer with e | _ | t
  · cases e with
    | configuration cause =>
      have warns : Warns label (entry .warning ("Template " ++ label ++ " could not be loaded: " ++
          cause.message) [("template", .text label)]) :=
        ⟨rfl, rfl, " could not be loaded: " ++ cause.message, String.append_assoc ..⟩
      exact passesOver_report journals warns (fun quiet => nomatch quiet.2) searched
    | _ => cases (Runner.answer_throw _ _ _).symm.trans searched
  · dsimp only at searched ⊢
    by_cases quiet : label = defaultLabel
    · rw [if_neg (not_not_intro quiet)] at searched ⊢
      exact passesOver_pure (fun _ => ⟨quiet, rfl⟩) searched
    · rw [if_pos quiet] at searched ⊢
      refine passesOver_report journals ⟨rfl, rfl, _, rfl⟩ ?_ searched
      exact fun quiet' => quiet quiet'.1
  · dsimp only at searched ⊢
    cases validated : r.validator.validate t with
    | error e =>
      rw [validated] at searched
      cases (Runner.answer_throw _ _ _).symm.trans searched
    | ok issues =>
      rw [validated] at searched
      dsimp only at searched ⊢
      by_cases errors : Issue.hasErrors issues = true
      · rw [if_pos errors] at searched ⊢
        refine passesOver_report journals ⟨rfl, rfl, _, rfl⟩ ?_ searched
        exact fun quiet => nomatch quiet.2
      · rw [if_neg errors] at searched ⊢
        exact passesOver_pure nofun searched

theorem resolveDefault_reports (journals : r.store.Journals I journal)
    (resolved : I.answer r.resolveDefault w = .ok ⟨t, source⟩) :
    source ≠ .explicit ∧ journal w <+: journal (I.after r.resolveDefault w) := by
  unfold resolveDefault at resolved ⊢
  obtain ⟨found, searched, rest⟩ := Runner.answer_bind_eq_ok.mp resolved
  obtain ⟨own, told, -⟩ := usable_reports journals searched
  have grown : journal w <+: journal (I.after (r.usable defaultLabel r.store.getDefault) w) := by
    rw [told]
    exact (journals.getDefault w).trans (List.prefix_append _ _)
  rw [Runner.after_bind_of_ok searched]
  cases found with
  | some u =>
    cases (Runner.answer_pure _ _ _).symm.trans rest
    dsimp only
    rw [Runner.after_pure]
    exact ⟨nofun, grown⟩
  | none =>
    dsimp only at rest ⊢
    rw [Runner.answer_bind_of_ok answer_report] at rest
    cases (Runner.answer_pure _ _ _).symm.trans rest
    rw [Runner.after_bind_of_ok answer_report, Runner.after_pure, journal_report journals]
    exact ⟨nofun, grown.trans (List.prefix_append _ _)⟩

/-- When the template that is asked for is passed over, the search for it reports one warning that names
it, or none if its id is the label of the default and the store has none of that id. Nothing that follows
takes the warning back. -/
theorem fallback_reported_iff (journals : r.store.Journals I journal) (nonempty : id ≠ "")
    (resolved : I.answer (r.resolve (some id)) w = .ok ⟨t, source⟩) :
    ∃ own, journal (r.beforeDefault I (some id) w) = journal (I.after (r.store.get id) w) ++ own ∧
      journal (r.beforeDefault I (some id) w) <+: journal (I.after (r.resolve (some id)) w) ∧
      (∀ e ∈ own, Warns (nameOf id (I.answer (r.store.get id) w)) e) ∧
      (own ≠ [] ↔
        source ≠ .explicit ∧ ¬ (id = defaultLabel ∧ I.answer (r.store.get id) w = .ok none)) := by
  have asked : (some id).filter (fun x => decide (x ≠ "")) = some id := by simp [nonempty]
  unfold resolve at resolved ⊢
  unfold beforeDefault
  rw [asked] at resolved ⊢
  obtain ⟨found, searched, rest⟩ := Runner.answer_bind_eq_ok.mp resolved
  obtain ⟨own, told, warns, exact⟩ := usable_reports journals searched
  refine ⟨own, told, ?_, warns, exact.trans (and_congr_left fun _ => ?_)⟩
  · dsimp only
    rw [Runner.after_bind_of_ok searched]
    cases found with
    | some u => simp
    | none => exact (resolveDefault_reports journals rest).2
  · cases found with
    | some u =>
      cases (Runner.answer_pure _ _ _).symm.trans rest
      simp
    | none => simp [(resolveDefault_reports journals rest).1]

/-- In an empty directory nothing is found under an id, and that is reported. -/
theorem missing_standard_reported :
    let r : Resolver Program := ⟨FileStore.operations ⟨[]⟩, {}⟩
    r.store.Journals Runner.program World.journal ∧ "standard" ≠ "" ∧
      ∃ t, Runner.program.answer (r.resolve (some "standard")) {} = .ok ⟨t, .builtin⟩ ∧
        ∃ e ∈ (Runner.program.after (r.resolve (some "standard")) {}).journal, Warns "standard" e := by
  intro r
  have journals : r.store.Journals Runner.program World.journal := FileStore.journals_program ⟨[]⟩
  have ends : (Runner.program.answer (r.resolve (some "standard")) {}).map (·.source) =
      .ok .builtin := by decide
  obtain ⟨⟨t, source⟩, resolved, rfl⟩ := Results.map_eq_ok.mp ends
  obtain ⟨own, told, kept, warns, exact⟩ := fallback_reported_iff journals (by decide) resolved
  refine ⟨journals, by decide, t, resolved, ?_⟩
  obtain ⟨e, member⟩ := List.exists_mem_of_ne_nil own (exact.mpr ⟨nofun, fun quiet => nomatch quiet.1⟩)
  refine ⟨e, kept.subset ?_, warns e member⟩
  rw [told]
  exact List.mem_append_right _ member

/-- A store in memory that has no template named like the label of the default says nothing of it. -/
theorem missing_default_not_reported :
    ∃ journal, Runner.session.outcome (resolve ⟨MemoryStore.operations, {}⟩ (some "default")) ({}, []) =
        (.ok ⟨Builtin.template, .builtin⟩, ({}, journal)) ∧
      ∀ e ∈ journal, e.level ≠ .warning := by
  refine ⟨[entry .info "Using builtin invoice template" []], rfl, ?_⟩
  intro e member
  obtain rfl := List.mem_singleton.mp member
  exact nofun

end Resolver

end InvoiceForms
