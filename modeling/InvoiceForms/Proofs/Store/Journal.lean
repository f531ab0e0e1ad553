import InvoiceForms.Proofs.Store.Access

/-!
# The journal aside

What a program does does not depend on the journal, which it only adds to. So runs can be told by what
they end in and by the world behind them, whatever has been reported on the way, and such runs are put
together from the runs of their parts.
-/

namespace InvoiceForms

open Runner (program)

namespace World

variable {α : Type}

/-- What an action does does not depend on the journal. -/
theorem perform_with_journal (w : World) (journal : List JournalEntry) (action : Action α) :
    ∃ journal', { w with journal := journal }.perform action =
      ((w.perform action).1, { (w.perform action).2 with journal := journal' }) := by
  have change (changed : Except FileFault FileTree) : ∃ journal',
      { w with journal := journal }.change changed =
        ((w.change changed).1, { (w.change changed).2 with journal := journal' }) := by
    cases changed <;> exact ⟨journal, rfl⟩
  cases action with
  | makeDirectories p => exact change _
  | touch p => exact change _
  | write p content => exact change _
  | append p content => exact change _
  | rename source target => exact change _
  | unlink p => exact change _
  | acquire p =>
    refine ⟨journal, ?_⟩
    show World.acquire _ p = ((w.acquire p).1, { (w.acquire p).2 with journal := journal })
    unfold acquire
    cases w.tree.append p .empty with
    | error e => rfl
    | ok tree =>
      dsimp only
      split <;> rfl
  | makeTemporary directory stem =>
    refine ⟨journal, ?_⟩
    show World.makeTemporary _ directory stem = ((w.makeTemporary directory stem).1,
      { (w.makeTemporary directory stem).2 with journal := journal })
    unfold makeTemporary
    dsimp only
    split <;> rfl
  | _ => exact ⟨_, rfl⟩

end World

namespace Program

variable {α β ε : Type} {w w' w₁ : World}

/-- What a program does does not depend on the journal. -/
theorem run_with_journal (p : Program α) (w : World) (journal : List JournalEntry) :
    ∃ journal', p.run { w with journal := journal } =
      ((p.run w).1, { (p.run w).2 with journal := journal' }) := by
  induction p generalizing w journal with
  | done a => exact ⟨journal, rfl⟩
  | act action next ih =>
    obtain ⟨journal₁, performed⟩ := w.perform_with_journal journal action
    obtain ⟨journal₂, ran⟩ := ih (w.perform action).1 (w.perform action).2 journal₁
    refine ⟨journal₂, ?_⟩
    unfold run
    rw [performed]
    exact ran

theorem outcome_with_journal (x : ExceptT ε Program α) (w : World) (journal : List JournalEntry) :
    ∃ journal', program.outcome x { w with journal := journal } =
      (program.answer x w, { program.after x w with journal := journal' }) :=
  run_with_journal x.run w journal

/-- Nor does whether it is calm. -/
theorem Calm.with_journal {p : Program α} (calm : p.Calm w) (journal : List JournalEntry) :
    p.Calm { w with journal := journal } := by
  induction p generalizing w journal with
  | done a => trivial
  | act action next ih =>
    obtain ⟨journal', performed⟩ := w.perform_with_journal journal action
    unfold Calm
    rw [performed]
    exact ⟨calm.1, ih _ calm.2 journal'⟩

/-- Whether a run is calm, and what it ends in, in a world that is told but for the journal. -/
structure RunsTo (x : ExceptT ε Program α) (w : World) (result : Except ε α) (w' : World) : Prop where
  calm : Calm x.run w
  ends : ∃ journal, program.outcome x w = (result, { w' with journal := journal })

namespace RunsTo

variable {x : ExceptT ε Program α} {f : α → ExceptT ε Program β} {a : α} {e : ε} {result : Except ε α}

theorem pure (a : α) (w : World) : RunsTo (pure a : ExceptT ε Program α) w (.ok a) w :=
  ⟨trivial, w.journal, rfl⟩

theorem throw (e : ε) (w : World) : RunsTo (throw e : ExceptT ε Program α) w (.error e) w :=
  ⟨trivial, w.journal, rfl⟩

/-- It does not matter what has been reported before. -/
theorem with_journal (runs : RunsTo x w result w') (journal : List JournalEntry) :
    RunsTo x { w with journal := journal } result w' := by
  obtain ⟨_, ends⟩ := runs.ends
  obtain ⟨journal', ends'⟩ := outcome_with_journal x w journal
  rw [Runner.answer, Runner.after, ends] at ends'
  exact ⟨runs.calm.with_journal journal, journal', ends'⟩

/-- After a result the rest is run. -/
theorem bind {result : Except ε β} (first : RunsTo x w (.ok a) w₁) (rest : RunsTo (f a) w₁ result w') :
    RunsTo (x >>= f) w result w' := by
  obtain ⟨journal, given⟩ := first.ends
  obtain ⟨calm, journal', ends⟩ := rest.with_journal journal
  refine ⟨calm_bind_of_ok first.calm given calm, journal', ?_⟩
  rw [Runner.outcome_bind, given]
  exact ends

/-- After a fault nothing is. -/
theorem bind_error (first : RunsTo x w (.error e) w') : RunsTo (x >>= f) w (.error e) w' := by
  obtain ⟨journal, given⟩ := first.ends
  refine ⟨calm_bind_of_error first.calm given, journal, ?_⟩
  rw [Runner.outcome_bind, given]

/-- A run whose fault is looked at gives it. -/
theorem lift {ε' : Type} (runs : RunsTo x w result w') :
    RunsTo (ExceptT.lift x.run : ExceptT ε' Program (Except ε α)) w (.ok result) w' := by
  obtain ⟨journal, ends⟩ := runs.ends
  refine ⟨calm_bind.mpr ⟨runs.calm, trivial⟩, journal, ?_⟩
  rw [Runner.outcome_lift]
  exact congrArg (fun ran => (Except.ok ran.1, ran.2)) ends

theorem answer (runs : RunsTo x w result w') : program.answer x w = result := by
  obtain ⟨journal, ends⟩ := runs.ends
  rw [Runner.answer, ends]

theorem tree (runs : RunsTo x w result w') : (program.after x w).tree = w'.tree := by
  obtain ⟨journal, ends⟩ := runs.ends
  rw [Runner.after, ends]

end RunsTo

end Program

namespace StoreProgram

open Program (RunsTo)

variable {α : Type} {x : StoreProgram α} {w : World}

/-- A program that does not hide faults of access is calm where it gives a result. -/
theorem Candid.runsTo (candid : Candid x) {a : α} (given : program.answer x w = .ok a) :
    RunsTo x w (.ok a) (program.after x w) :=
  ⟨candid.calm_of_ok given, _, Runner.answer_eq_ok_iff.mp given⟩

end StoreProgram

namespace FileStore

open Program (RunsTo)

variable {s : FileStore} {w : World} {id : String}

theorem runsTo_defaultId {pointer : Option String} (told : s.pointed w.tree = .ok pointer) :
    RunsTo s.defaultId w (.ok pointer) w := by
  obtain ⟨journal, looked⟩ := s.outcome_defaultId w
  change _ = (s.pointed w.tree, _) at looked
  rw [told] at looked
  exact ⟨candid_defaultId.calm_of_ok (congrArg Prod.fst looked), journal, looked⟩

theorem runsTo_get {found : Option Template} (gotten : program.answer (s.get id) w = .ok found) :
    RunsTo (s.get id) w (.ok found) w := by
  obtain ⟨journal, loaded⟩ := s.outcome_get id w
  refine ⟨(candid_get id).calm_of_ok gotten, journal, ?_⟩
  rw [Runner.answer, loaded] at gotten
  exact loaded.trans (congrArg (·, _) gotten)

end FileStore

end InvoiceForms
