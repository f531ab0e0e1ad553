import InvoiceForms.Proofs.Store.FileTree
import InvoiceForms.Proofs.Store.Runner
import InvoiceForms.Store.Files

/-!
# Runs without file faults

A run is calm when none of its file actions fails and no lock is refused; a missing file is an answer
and no fault. Of a calm run of a store's programs one can say what it does to the files.
-/

namespace InvoiceForms

/-- Whether the result of an action is no failure of the file system. -/
def Action.Succeeds : {α : Type} → Action α → α → Prop
  | _, .read _, result => ∀ e, result = .error e → e.cause = .missing
  | _, .list _, result => ∃ names, result = .ok names
  | _, .makeDirectories _, result => result = .ok ()
  | _, .touch _, result => result = .ok ()
  | _, .acquire _, result => result = .acquired
  | _, .makeTemporary _ _, result => ∃ p, result = .ok p
  | _, .write _ _, result => result = .ok ()
  | _, .append _ _, result => result = .ok ()
  | _, .rename _ _, result => result = .ok ()
  | _, .unlink _, result => ∀ e, result = .error e → e.cause = .missing
  | _, .has _, _ | _, .hasFile _, _ | _, .release _, _ | _, .report _, _ | _, .now, _ => True

namespace Results

/-- Decides whether there is a result. -/
def decideOk {ε α : Type} : (x : Except ε α) → Decidable (∃ a, x = .ok a)
  | .ok a => .isTrue ⟨a, rfl⟩
  | .error _ => .isFalse fun ⟨_, same⟩ => nomatch same

/-- Decides whether a step without a value succeeds. -/
def decideDone {ε : Type} : (x : Except ε Unit) → Decidable (x = .ok ())
  | .ok () => .isTrue rfl
  | .error _ => .isFalse nofun

end Results

/-- Decides whether a failure is only that something is missing. -/
def FileFault.decideMissing {α : Type} : (x : Except FileFault α) →
    Decidable (∀ e, x = .error e → e.cause = .missing)
  | .ok _ => .isTrue nofun
  | .error e =>
    decidable_of_iff (e.cause = .missing)
      ⟨fun missing _ same => Except.error.inj same ▸ missing, fun all => all e rfl⟩

/-- Decides whether an action succeeds, without looking into what it gives. -/
def Action.decideSucceeds : {α : Type} → (action : Action α) → (result : α) →
    Decidable (action.Succeeds result)
  | _, .read _, result | _, .unlink _, result => FileFault.decideMissing result
  | _, .list _, result | _, .makeTemporary _ _, result => Results.decideOk result
  | _, .makeDirectories _, result | _, .touch _, result | _, .write _ _, result
  | _, .append _ _, result | _, .rename _ _, result => Results.decideDone result
  | _, .acquire _, result => inferInstanceAs (Decidable (result = .acquired))
  | _, .has _, _ | _, .hasFile _, _ | _, .release _, _ | _, .report _, _ | _, .now, _ =>
    .isTrue trivial

instance {α : Type} (action : Action α) (result : α) : Decidable (action.Succeeds result) :=
  action.decideSucceeds result

namespace Program

variable {α β : Type}

/-- Whether all actions of a run succeed. -/
def Calm : Program α → World → Prop
  | done _, _ => True
  | act action next, w =>
    action.Succeeds (w.perform action).1 ∧ (next (w.perform action).1).Calm (w.perform action).2

/-- Decides whether a run is calm by running it. -/
def decideCalm : (p : Program α) → (w : World) → Decidable (p.Calm w)
  | done _, _ => .isTrue trivial
  | act action next, w =>
    have := decideCalm (next (w.perform action).1) (w.perform action).2
    inferInstanceAs (Decidable (_ ∧ _))

instance (p : Program α) (w : World) : Decidable (p.Calm w) := p.decideCalm w

/-- Two programs in a row are calm when the first one is, and the second one where it ends. -/
theorem calm_bind {p : Program α} {f : α → Program β} {w : World} :
    (p >>= f).Calm w ↔ p.Calm w ∧ (f (p.run w).1).Calm (p.run w).2 := by
  induction p generalizing w with
  | done a => exact (and_iff_right trivial).symm
  | act action next ih =>
    show action.Succeeds _ ∧ (next _ >>= f).Calm _ ↔ (action.Succeeds _ ∧ _) ∧ _
    rw [ih, and_assoc]
    rfl

section Bind

variable {ε : Type} {x : ExceptT ε Program α} {f : α → ExceptT ε Program β} {w w' : World}

theorem calm_bind_of_ok {a : α} (first : Calm x.run w) (given : Runner.program.outcome x w = (.ok a, w'))
    (rest : Calm (f a).run w') : Calm (x >>= f).run w := by
  refine (calm_bind (p := x.run) (f := ExceptT.bindCont f)).mpr ⟨first, ?_⟩
  change x.run.run w = _ at given
  rw [given]
  exact rest

theorem calm_bind_of_error {e : ε} (first : Calm x.run w)
    (given : Runner.program.outcome x w = (.error e, w')) : Calm (x >>= f).run w := by
  refine (calm_bind (p := x.run) (f := ExceptT.bindCont f)).mpr ⟨first, ?_⟩
  change x.run.run w = _ at given
  rw [given]
  trivial

end Bind

/-- An action of a calm run succeeds, and what follows its result is calm. -/
theorem Calm.of_perform {action : Action α} {f : α → Program β} {w : World}
    (calm : (perform action >>= f).Calm w) : action.Succeeds (w.perform action).1 ∧
      (f (w.perform action).1).Calm (w.perform action).2 := calm

theorem run_perform_bind (action : Action α) (f : α → Program β) (w : World) :
    (perform action >>= f).run w = (f (w.perform action).1).run (w.perform action).2 := rfl

end Program

namespace StoreProgram

open Runner (program)

variable {α β : Type} {w : World}

/-- Whether all actions of a run succeed. -/
def Calm (x : StoreProgram α) (w : World) : Prop := Program.Calm x.run w

instance (x : StoreProgram α) (w : World) : Decidable (Calm x w) := Program.decideCalm x.run w

theorem outcome_bind_of_ok {x : StoreProgram α} {a : α} {w' : World} (given : program.outcome x w = (.ok a, w'))
    (f : α → StoreProgram β) : program.outcome (x >>= f) w = program.outcome (f a) w' := by
  rw [Runner.outcome_bind, given]

theorem outcome_bind_of_error {x : StoreProgram α} {e : StoreFault} {w' : World}
    (given : program.outcome x w = (.error e, w')) (f : α → StoreProgram β) :
    program.outcome (x >>= f) w = (.error e, w') := by
  rw [Runner.outcome_bind, given]

/-- The first part of a calm run is calm, and so is the rest where the first part gives a result. -/
theorem Calm.of_bind {x : StoreProgram α} {f : α → StoreProgram β} (calm : Calm (x >>= f) w) :
    Calm x w ∧ ∀ {a w'}, program.outcome x w = (.ok a, w') → Calm (f a) w' := by
  obtain ⟨first, rest⟩ := (Program.calm_bind (p := x.run) (f := ExceptT.bindCont f)).mp calm
  refine ⟨first, fun {a w'} given => ?_⟩
  change x.run.run w = _ at given
  rw [given] at rest
  exact rest

/-- What follows counts only where the first part gives a result. -/
theorem Calm.bind {x : StoreProgram α} {f : α → StoreProgram β} (first : Calm x w)
    (rest : ∀ a, Calm (f a) (program.after x w)) : Calm (x >>= f) w := by
  refine (Program.calm_bind (p := x.run) (f := ExceptT.bindCont f)).mpr ⟨first, ?_⟩
  cases (x.run.run w).1 with
  | ok a => exact rest a
  | error e => trivial

theorem calm_ofExcept (x : Except StoreFault α) :
    Calm (MonadExcept.ofExcept x : StoreProgram α) w := by
  cases x <;> trivial

theorem outcome_perform (action : Action α) (w : World) :
    program.outcome (perform action) w = (.ok (w.perform action).1, (w.perform action).2) := rfl

theorem calm_perform {action : Action α} :
    Calm (perform action) w ↔ action.Succeeds (w.perform action).1 := and_iff_left trivial

/-- A calm attempt gives a result. -/
theorem outcome_attempt {action : Action (Except FileFault α)} {a : α}
    (given : (w.perform action).1 = .ok a) (fault : FileFault → StoreFault) :
    program.outcome (attempt fault action) w = (.ok a, (w.perform action).2) := by
  have performed : program.outcome (perform action) w = (.ok (.ok a), (w.perform action).2) := by
    rw [outcome_perform, given]
  exact outcome_bind_of_ok performed _

/-- An attempt that fails ends in its fault. -/
theorem outcome_attempt_of_error {action : Action (Except FileFault α)} {e : FileFault}
    (given : (w.perform action).1 = .error e) (fault : FileFault → StoreFault) :
    program.outcome (attempt fault action) w = (.error (fault e), (w.perform action).2) := by
  have performed : program.outcome (perform action) w = (.ok (.error e), (w.perform action).2) := by
    rw [outcome_perform, given]
  exact outcome_bind_of_ok performed _

theorem calm_attempt {action : Action (Except FileFault α)} {fault : FileFault → StoreFault}
    (calm : Calm (attempt fault action) w) : action.Succeeds (w.perform action).1 :=
  calm_perform.mp calm.of_bind.1

end StoreProgram

end InvoiceForms
