import InvoiceForms.Proofs.Store.Calm

/-!
# Specifications of calm runs

What a program that may fail ensures: from a world with one property, every calm run of it ends in a
result and a world that go together, or in a fault and a world with a last property. Such
specifications are put together as the programs are.
-/

namespace InvoiceForms

open Runner (program)

variable {ε α β : Type} {pre mid : World → Prop} {good : α → World → Prop} {bad : World → Prop}

/-- What holds behind a program: of its result and the world, or of the world behind a fault. -/
def Behind (good : α → World → Prop) (bad : World → Prop) : Except ε α × World → Prop
  | (.ok a, w) => good a w
  | (.error _, w) => bad w

/-- Whether every calm run of a program from a world with one property ends as it should. -/
def Ensures (pre : World → Prop) (x : ExceptT ε Program α) (good : α → World → Prop)
    (bad : World → Prop) : Prop :=
  ∀ w, pre w → Program.Calm x.run w → Behind good bad (program.outcome x w)

/-- Whether every calm run of a program keeps a property of worlds, however it ends. -/
def Maintains (property : World → Prop) (x : ExceptT ε Program α) : Prop :=
  Ensures property x (fun _ => property) property

/-- Where the same is to hold however a program ends, it has to hold behind each calm run. -/
theorem ensures_iff_after {x : ExceptT ε Program α} {post : World → Prop} :
    Ensures pre x (fun _ => post) post ↔
      ∀ w, pre w → Program.Calm x.run w → post (program.after x w) := by
  have behind (r : Except ε α × World) : Behind (fun _ => post) post r = post r.2 := by
    rcases r with ⟨_ | _, w⟩ <;> rfl
  unfold Ensures
  simp only [behind]
  rfl

theorem ensures_pure {a : α} (given : ∀ w, pre w → good a w) :
    Ensures pre (pure a : ExceptT ε Program α) good bad := fun w holds _ => given w holds

theorem ensures_throw {e : ε} (given : ∀ w, pre w → bad w) :
    Ensures pre (throw e : ExceptT ε Program α) good bad := fun w holds _ => given w holds

theorem ensures_lift {p : Program α} (given : ∀ w, pre w → p.Calm w → good (p.run w).1 (p.run w).2) :
    Ensures pre (ExceptT.lift p : ExceptT ε Program α) good bad := by
  intro w holds calm
  rw [Runner.outcome_lift]
  exact given w holds (Program.calm_bind.mp calm).1

theorem Ensures.bind {x : ExceptT ε Program α} {f : α → ExceptT ε Program β}
    (mid : α → World → Prop) {good : β → World → Prop} (first : Ensures pre x mid bad)
    (rest : ∀ a, Ensures (mid a) (f a) good bad) : Ensures pre (x >>= f) good bad := by
  intro w holds calm
  obtain ⟨calm, calm'⟩ := (Program.calm_bind (p := x.run) (f := ExceptT.bindCont f)).mp calm
  have reached := first w holds calm
  rw [Runner.outcome_bind]
  change Program.Calm (ExceptT.bindCont f (program.outcome x w).1) (program.outcome x w).2 at calm'
  rcases ended : program.outcome x w with ⟨e | a, w'⟩
  · rw [ended] at reached
    exact reached
  · rw [ended] at reached calm'
    exact rest a w' reached calm'

theorem Ensures.mono {pre' : World → Prop} {good' : α → World → Prop} {bad' : World → Prop}
    {x : ExceptT ε Program α} (ensures : Ensures pre x good bad) (before : ∀ w, pre' w → pre w)
    (after : ∀ a w, good a w → good' a w) (fault : ∀ w, bad w → bad' w) :
    Ensures pre' x good' bad' := by
  intro w holds calm
  have reached := ensures w (before w holds) calm
  rcases ended : program.outcome x w with ⟨e | a, w'⟩
  · rw [ended] at reached
    exact fault w' reached
  · rw [ended] at reached
    exact after a w' reached

namespace Maintains

variable {property : World → Prop}

theorem pure (a : α) : Maintains property (Pure.pure a : ExceptT ε Program α) :=
  ensures_pure fun _ => id

theorem throw (e : ε) : Maintains property (MonadExcept.throw e : ExceptT ε Program α) :=
  ensures_throw fun _ => id

theorem bind {x : ExceptT ε Program α} {f : α → ExceptT ε Program β} (first : Maintains property x)
    (rest : ∀ a, Maintains property (f a)) : Maintains property (x >>= f) := Ensures.bind _ first rest

end Maintains

end InvoiceForms
