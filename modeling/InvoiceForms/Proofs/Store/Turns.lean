import InvoiceForms.Proofs.Store.Interleaving
import InvoiceForms.Proofs.Store.Journal

/-!
# Turns of processes

A turn is a step of a system in which actions may fail: a file operation may end in a fault, and a
process may have waited for a lock in vain. Whatever comes to be true along a sequence of turns was
brought about by one of them, and a process may run ahead while nobody comes between.
-/

namespace InvoiceForms

open Runner (program)

namespace Program

variable {α β ε : Type} {w w' : World}

/-- What a program in a world comes to when nobody comes between: what is left of it, in the world
behind some of its actions. -/
def ComesTo : Program α × World → Program α × World → Prop :=
  Relation.ReflTransGen fun (x y : Program α × World) => x.1.step? x.2 = some y

theorem ComesTo.trans {x y z : Program α × World} (first : ComesTo x y) (rest : ComesTo y z) :
    ComesTo x z := Relation.ReflTransGen.trans first rest

theorem ComesTo.bind {p q : Program α} (comes : ComesTo (p, w) (q, w')) (f : α → Program β) :
    ComesTo (p >>= f, w) (q >>= f, w') := by
  refine Relation.ReflTransGen.lift (fun x : Program α × World => (x.1 >>= f, x.2))
    (fun x y step => ?_) _ _ comes
  obtain ⟨_ | ⟨action, next⟩, w⟩ := x
  · cases step
  · cases step
    rfl

theorem comesTo_run (p : Program α) (w : World) : ComesTo (p, w) (done (p.run w).1, (p.run w).2) := by
  induction p generalizing w with
  | done a => exact .refl
  | act action next ih => exact .head rfl (ih _ _)

/-- Where the first part gives a result, the whole comes to the rest. -/
theorem comesTo_of_ok {x : ExceptT ε Program α} {a : α} (given : program.outcome x w = (.ok a, w'))
    (f : α → ExceptT ε Program β) : ComesTo ((x >>= f).run, w) ((f a).run, w') := by
  have comes := (comesTo_run x.run w).bind (ExceptT.bindCont f)
  change x.run.run w = _ at given
  rw [given] at comes
  exact comes

end Program

namespace System

variable {ι κ : Type} [DecidableEq ι]

/-- One turn of a system: a process that is at no task starts one, a process performs its next action,
whatever it gives, a process has ended its task, or time goes on and temporary files get other names. -/
inductive Turn (program : κ → Program Unit) (σ : System ι κ) : System ι κ → Prop
  | start (i : ι) (task : κ) (idle : σ.running i = none) :
    Turn program σ { σ with running := Function.update σ.running i (some (task, program task)) }
  | act (i : ι) {task : κ} {α : Type} {action : Action α} {next : α → Program Unit}
    (runs : σ.running i = some (task, .act action next)) :
    Turn program σ (σ.act i task action next)
  | finish (i : ι) {task : κ} (runs : σ.running i = some (task, .done ())) :
    Turn program σ { σ with running := Function.update σ.running i none }
  | renew (clock : String) (names : String → String) (temporary : ∀ stem, IsTemporary (names stem)) :
    Turn program σ { σ with world := { σ.world with clock := clock, temporaryName := names } }

/-- The states that turns lead to. -/
def Turns (program : κ → Program Unit) : System ι κ → System ι κ → Prop :=
  Relation.ReflTransGen (Turn program)

/-- The states that turns lead to while a process is at one task. -/
def TurnsDuring (program : κ → Program Unit) (i : ι) (task : κ) : System ι κ → System ι κ → Prop :=
  Relation.ReflTransGen fun σ σ' => σ.Turn program σ' ∧ ∃ rest, σ'.running i = some (task, rest)

variable {program : κ → Program Unit} {σ σ' : System ι κ} {i : ι} {task : κ} {rest : Program Unit}

theorem TurnsDuring.turns (turns : TurnsDuring program i task σ σ') : Turns program σ σ' :=
  Relation.ReflTransGen.mono (fun _ _ turn => turn.1) _ _ turns

section Ahead

variable {p q : Program Unit} {w w' : World}

/-- A process runs ahead in turns. -/
theorem turns_of_comesTo (runs : σ.running i = some (task, p))
    (comes : Program.ComesTo (p, σ.world) (q, w')) :
    ∃ held, Turns program σ ⟨w', Function.update σ.running i (some (task, q)), held⟩ := by
  generalize ends : (q, w') = y at comes
  induction comes generalizing q w' with
  | refl =>
    cases ends
    rw [← runs, Function.update_eq_self]
    exact ⟨σ.held, .refl⟩
  | @tail x y _ last ih =>
    subst ends
    obtain ⟨_ | ⟨action, next⟩, w₁⟩ := x
    · cases last
    · cases last
      obtain ⟨held, turns⟩ := ih rfl
      let σ₁ : System ι κ := ⟨w₁, Function.update σ.running i (some (task, .act action next)), held⟩
      have turn : σ₁.Turn program (σ₁.act i task action next) := .act i (Function.update_self i _ _)
      rw [act, Function.update_idem] at turn
      exact ⟨_, turns.tail turn⟩

/-- A process that is at no task starts one and runs ahead. -/
theorem turns_of_start (idle : σ.running i = none)
    (comes : Program.ComesTo (program task, σ.world) (q, w')) :
    ∃ held, Turns program σ ⟨w', Function.update σ.running i (some (task, q)), held⟩ := by
  let σ₁ : System ι κ :=
    { σ with running := Function.update σ.running i (some (task, program task)) }
  have starts : σ.Turn program σ₁ := .start i task idle
  have runs : σ₁.running i = some (task, program task) := Function.update_self i _ _
  obtain ⟨held, turns⟩ := turns_of_comesTo runs comes
  rw [Function.update_idem] at turns
  exact ⟨held, .head starts turns⟩

end Ahead

namespace Turn

/-- A turn changes no files, or it is an action of some process. -/
theorem tree_cases (turn : σ.Turn program σ') : σ'.world.tree = σ.world.tree ∨
    ∃ (j : ι) (task : κ) (α : Type) (action : Action α) (next : α → Program Unit),
      σ.running j = some (task, .act action next) ∧ σ' = σ.act j task action next := by
  cases turn with
  | act j runs => exact .inr ⟨j, _, _, _, _, runs, rfl⟩
  | start | finish | renew => exact .inl rfl

/-- A process that is at a task behind a turn was there before, has started it, or has performed its
next action. -/
theorem running_cases (turn : σ.Turn program σ') (runs : σ'.running i = some (task, rest)) :
    σ.running i = some (task, rest) ∨ rest = program task ∨
      ∃ (α : Type) (action : Action α) (next : α → Program Unit),
        σ.running i = some (task, .act action next) ∧ rest = next (σ.world.perform action).1 := by
  cases turn with
  | start j other idle =>
    change Function.update σ.running j _ i = _ at runs
    by_cases same : i = j
    · subst same
      rw [Function.update_self] at runs
      cases runs
      exact .inr (.inl rfl)
    · rw [Function.update_of_ne same] at runs
      exact .inl runs
  | @act j other α action next before =>
    change Function.update σ.running j _ i = _ at runs
    by_cases same : i = j
    · subst same
      rw [Function.update_self] at runs
      cases runs
      exact .inr (.inr ⟨α, action, next, before, rfl⟩)
    · rw [Function.update_of_ne same] at runs
      exact .inl runs
  | finish j before =>
    change Function.update σ.running j none i = _ at runs
    by_cases same : i = j
    · subst same
      rw [Function.update_self] at runs
      cases runs
    · rw [Function.update_of_ne same] at runs
      exact .inl runs
  | renew clock names temporary => exact .inl runs

theorem names (turn : σ.Turn program σ') (named : σ.world.Names IsTemporary) :
    σ'.world.Names IsTemporary := by
  cases turn with
  | act j runs => exact named.perform _
  | renew clock names temporary => exact temporary
  | start | finish => exact named

end Turn

/-- During a task its process is at it. -/
theorem TurnsDuring.running (turns : TurnsDuring program i task σ σ')
    (runs : σ.running i = some (task, rest)) : ∃ rest, σ'.running i = some (task, rest) := by
  cases turns with
  | refl => exact ⟨rest, runs⟩
  | tail _ last => exact last.2

/-- What comes to be true during a task is brought about by one turn. -/
theorem TurnsDuring.exists_turn {p : System ι κ → Prop} (turns : TurnsDuring program i task σ σ')
    (before : ¬ p σ) (after : p σ') :
    ∃ σ₁ σ₂, TurnsDuring program i task σ σ₁ ∧ σ₁.Turn program σ₂ ∧ ¬ p σ₁ ∧ p σ₂ ∧
      TurnsDuring program i task σ₂ σ' := by
  induction turns using Relation.ReflTransGen.head_induction_on with
  | refl => exact absurd after before
  | @head σ₁ σ₂ first rest ih =>
    by_cases already : p σ₂
    · exact ⟨σ₁, σ₂, .refl, first.1, before, already, rest⟩
    · obtain ⟨σ₃, σ₄, goes, turn, still, holds, on⟩ := ih already
      exact ⟨σ₃, σ₄, .head first goes, turn, still, holds, on⟩

end System

end InvoiceForms
