import InvoiceForms.Store.Memory
import InvoiceForms.Store.Program

/-!
# Running the operations of stores

Resolving and governing are written over any monad. A `Runner` says what running a computation of
such a monad does to a state, and that running parts one after another is running the whole; a
program over files and a session of a store in memory have one. `Runner.outcome` is the result of a
computation that may fail, with the state behind it.
-/

namespace InvoiceForms

universe u v

/-- A way to run the computations of a monad on states. -/
structure Runner (m : Type → Type u) [Monad m] (σ : Type v) where
  run : {α : Type} → m α → σ → α × σ
  run_pure : ∀ {α : Type} (a : α) (w : σ), run (pure a) w = (a, w)
  run_map : ∀ {α β : Type} (f : α → β) (x : m α) (w : σ),
    run (f <$> x) w = (f (run x w).1, (run x w).2)
  run_bind : ∀ {α β : Type} (x : m α) (f : α → m β) (w : σ),
    run (x >>= f) w = run (f (run x w).1) (run x w).2

namespace Runner

/-- Programs are run on worlds. -/
def program : Runner Program World where
  run p w := p.run w
  run_pure _ _ := rfl
  run_map _ p w := Program.run_bind p _ w
  run_bind p f w := Program.run_bind p f w

/-- Sessions are run on stores in memory and their journals. -/
def session : Runner MemoryStore.Session (MemoryStore × List JournalEntry) where
  run x w := x.run w
  run_pure _ _ := rfl
  run_map _ _ _ := rfl
  run_bind _ _ _ := rfl

variable {m : Type → Type u} [Monad m] {σ : Type v} {ε α β : Type}

/-- The result of a computation that may fail, and the state behind it. -/
def outcome (I : Runner m σ) (x : ExceptT ε m α) (w : σ) : Except ε α × σ := I.run x.run w

@[simp] theorem outcome_pure (I : Runner m σ) (a : α) (w : σ) :
    I.outcome (pure a : ExceptT ε m α) w = (.ok a, w) := I.run_pure _ w

@[simp] theorem outcome_throw (I : Runner m σ) (e : ε) (w : σ) :
    I.outcome (throw e : ExceptT ε m α) w = (.error e, w) := I.run_pure _ w

/-- A computation that cannot fail gives what it gives. -/
theorem outcome_lift (I : Runner m σ) (x : m α) (w : σ) :
    I.outcome (ExceptT.lift x : ExceptT ε m α) w = (.ok (I.run x w).1, (I.run x w).2) :=
  I.run_map _ x w

/-- After a result the rest is run, after a fault nothing is. -/
theorem outcome_bind (I : Runner m σ) (x : ExceptT ε m α) (f : α → ExceptT ε m β) (w : σ) :
    I.outcome (x >>= f) w =
      match I.outcome x w with
      | (.ok a, w') => I.outcome (f a) w'
      | (.error e, w') => (.error e, w') := by
  have whole := I.run_bind x.run (ExceptT.bindCont f) w
  have same : (x >>= f).run = x.run >>= ExceptT.bindCont f := rfl
  unfold outcome
  rw [same, whole]
  rcases I.run x.run w with ⟨answer | a, w'⟩
  · exact I.run_pure _ w'
  · rfl

/-- The answer of a computation that may fail. -/
def answer (I : Runner m σ) (x : ExceptT ε m α) (w : σ) : Except ε α := (I.outcome x w).1

/-- The state behind a computation that may fail. -/
def after (I : Runner m σ) (x : ExceptT ε m α) (w : σ) : σ := (I.outcome x w).2

theorem answer_eq_ok_iff {I : Runner m σ} {x : ExceptT ε m α} {w : σ} {a : α} :
    I.answer x w = .ok a ↔ I.outcome x w = (.ok a, I.after x w) :=
  ⟨fun given => Prod.ext given rfl, congrArg Prod.fst⟩

@[simp] theorem answer_pure (I : Runner m σ) (a : α) (w : σ) :
    I.answer (pure a : ExceptT ε m α) w = .ok a := congrArg Prod.fst (I.outcome_pure a w)

@[simp] theorem answer_throw (I : Runner m σ) (e : ε) (w : σ) :
    I.answer (throw e : ExceptT ε m α) w = .error e := congrArg Prod.fst (I.outcome_throw e w)

/-- The answer of two computations in a row whose first one gives a result. -/
theorem answer_bind_of_ok {I : Runner m σ} {x : ExceptT ε m α} {w : σ} {a : α}
    (given : I.answer x w = .ok a) (f : α → ExceptT ε m β) :
    I.answer (x >>= f) w = I.answer (f a) (I.after x w) := by
  unfold answer
  rw [outcome_bind, answer_eq_ok_iff.mp given]

/-- The answer of two computations in a row whose first one fails. -/
theorem answer_bind_of_error {I : Runner m σ} {x : ExceptT ε m α} {w : σ} {e : ε}
    (failed : I.answer x w = .error e) (f : α → ExceptT ε m β) : I.answer (x >>= f) w = .error e := by
  have ends : I.outcome x w = (.error e, I.after x w) := Prod.ext failed rfl
  unfold answer
  rw [outcome_bind, ends]

/-- The state behind two computations in a row whose first one gives a result. -/
theorem after_bind_of_ok {I : Runner m σ} {x : ExceptT ε m α} {w : σ} {a : α}
    (given : I.answer x w = .ok a) (f : α → ExceptT ε m β) :
    I.after (x >>= f) w = I.after (f a) (I.after x w) := by
  unfold after
  rw [outcome_bind, answer_eq_ok_iff.mp given]

/-- Two computations in a row give a result only if both do. -/
theorem answer_bind_eq_ok {I : Runner m σ} {x : ExceptT ε m α} {f : α → ExceptT ε m β} {w : σ} {b : β} :
    I.answer (x >>= f) w = .ok b ↔
      ∃ a, I.answer x w = .ok a ∧ I.answer (f a) (I.after x w) = .ok b := by
  constructor
  · intro given
    cases first : I.answer x w with
    | ok a =>
      rw [answer_bind_of_ok first] at given
      exact ⟨a, rfl, given⟩
    | error e =>
      rw [answer_bind_of_error first] at given
      cases given
  · rintro ⟨a, first, rest⟩
    rw [answer_bind_of_ok first, rest]

@[simp] theorem after_pure (I : Runner m σ) (a : α) (w : σ) :
    I.after (pure a : ExceptT ε m α) w = w := congrArg Prod.snd (I.outcome_pure a w)

/-- A value made of a result goes along with it. -/
theorem outcome_bind_pure (I : Runner m σ) (x : ExceptT ε m α) (f : α → β) (w : σ) :
    I.outcome (do return f (← x)) w = ((I.answer x w).map f, I.after x w) := by
  rw [outcome_bind]
  unfold answer after
  rcases I.outcome x w with ⟨e | a, w'⟩
  · rfl
  · exact I.outcome_pure _ _

end Runner

end InvoiceForms
