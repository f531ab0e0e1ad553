import Mathlib.Logic.Relation
import InvoiceForms.Proofs.Store.Footprint

/-!
# Programs that run side by side

A `System` is a world on which any number of processes work. Each process runs the program of one task
after another, one atomic action at a time, and the actions of different processes come in any order.
A lock excludes: whoever asks for one that is held waits until it is given back. A run of a system is
one without file faults, since only actions that succeed are steps.
-/

namespace InvoiceForms

/-- Whether a name is one of a temporary file. -/
def IsTemporary (name : String) : Prop := ".tmp".toList <:+ name.toList

/-- Whether an action has to wait: it asks for a lock that is held. -/
def Action.Waits (w : World) : {α : Type} → Action α → Prop
  | _, .acquire p => p ∈ w.locked
  | _, _ => False

/-- Decides whether an action has to wait. -/
def Action.decideWaits (w : World) : {α : Type} → (action : Action α) → Decidable (action.Waits w)
  | _, .acquire p => inferInstanceAs (Decidable (p ∈ w.locked))
  | _, .read _ | _, .has _ | _, .hasFile _ | _, .list _ | _, .makeDirectories _ | _, .touch _
  | _, .release _ | _, .makeTemporary _ _ | _, .write _ _ | _, .append _ _ | _, .rename _ _
  | _, .unlink _ | _, .report _ | _, .now => .isFalse id

instance {α : Type} (w : World) (action : Action α) : Decidable (action.Waits w) :=
  action.decideWaits w

/-- The locks that a process holds behind an action, when it held some before. -/
def Action.holding : {α : Type} → Action α → List Path → List Path
  | _, .acquire p, held => p :: held
  | _, .release p, held => held.erase p
  | _, _, held => held

/-- What an action can give where no action fails: a temporary file has a name of its own kind. -/
def Action.Gives : {α : Type} → Action α → α → Prop
  | _, .makeTemporary directory _, result =>
    ∃ name, IsTemporary name ∧ result = .ok (directory ++ [name])
  | _, action, result => action.Succeeds result

/-- Whether the next action of a program has to wait. -/
def Program.Waits {α : Type} (w : World) : Program α → Prop
  | .done _ => False
  | .act action _ => action.Waits w

/-- A world on which processes work: the task that each of them is at, with what is left of its
program, and the locks that each of them holds. -/
structure System (ι κ : Type) where
  world : World
  running : ι → Option (κ × Program Unit)
  held : ι → List Path

namespace System

variable {ι κ : Type} [DecidableEq ι]

/-- The system behind the next action of a process. -/
def act (σ : System ι κ) (i : ι) (task : κ) {α : Type} (action : Action α) (next : α → Program Unit) :
    System ι κ where
  world := (σ.world.perform action).2
  running := Function.update σ.running i (some (task, next (σ.world.perform action).1))
  held := Function.update σ.held i (action.holding (σ.held i))

/-- One step of a system: a process that is at no task starts one, a process performs its next action,
a process has ended its task, or the file system changes its mind about the names of temporary
files. -/
inductive Step (program : κ → Program Unit) (σ : System ι κ) : System ι κ → Prop
  | start (i : ι) (task : κ) (idle : σ.running i = none) :
    Step program σ { σ with running := Function.update σ.running i (some (task, program task)) }
  | act (i : ι) {task : κ} {α : Type} {action : Action α} {next : α → Program Unit}
    (runs : σ.running i = some (task, .act action next)) (ready : ¬ action.Waits σ.world)
    (succeeds : action.Succeeds (σ.world.perform action).1) :
    Step program σ (σ.act i task action next)
  | finish (i : ι) {task : κ} (runs : σ.running i = some (task, .done ())) :
    Step program σ { σ with running := Function.update σ.running i none }
  | names (names : String → String) (temporary : ∀ stem, IsTemporary (names stem)) :
    Step program σ { σ with world := { σ.world with temporaryName := names } }

/-- Runs some actions of a process, as far as it can go on. -/
def advance (i : ι) : Nat → System ι κ → System ι κ
  | 0, σ => σ
  | n + 1, σ =>
    match σ.running i with
    | some (task, .act action next) =>
      if ¬ action.Waits σ.world ∧ action.Succeeds (σ.world.perform action).1 then
        advance i n (σ.act i task action next)
      else σ
    | _ => σ

/-- The states that a system can come to. -/
def Reaches (program : κ → Program Unit) : System ι κ → System ι κ → Prop :=
  Relation.ReflTransGen (Step program)

/-- What a process runs ahead to is a state that the system can come to. -/
theorem reaches_advance {program : κ → Program Unit} (i : ι) (n : Nat) (σ : System ι κ) :
    Reaches program σ (σ.advance i n) := by
  induction n generalizing σ with
  | zero => exact .refl
  | succ n ih =>
    unfold advance
    split
    · next task β action next runs =>
      split
      · next goes => exact .head (.act i runs goes.1 goes.2) (ih _)
      · exact .refl
    · exact .refl

/-- A system in which nothing is going on. -/
structure Quiet (σ : System ι κ) : Prop where
  idle : ∀ i, σ.running i = none
  unlocked : σ.world.locked = []
  free : ∀ i, σ.held i = []
  named : σ.world.Names IsTemporary

/-- Some process is at a task, and none of those that are can go on. -/
def Deadlocked (σ : System ι κ) : Prop :=
  (∃ i, σ.running i ≠ none) ∧ ∀ i task rest, σ.running i = some (task, rest) → rest.Waits σ.world

end System

namespace Action

variable {α : Type}

/-- What an action that succeeds gives. -/
theorem gives_perform {action : Action α} {w : World} (named : w.Names IsTemporary)
    (succeeds : action.Succeeds (w.perform action).1) : action.Gives (w.perform action).1 := by
  cases action with
  | makeTemporary directory stem =>
    obtain ⟨p, made⟩ := succeeds
    obtain ⟨rfl, -⟩ := World.makeTemporary_eq_ok made
    exact ⟨_, named stem, made⟩
  | _ => exact succeeds

end Action

namespace World

/-- An action that succeeds changes the locks as it says. -/
theorem locked_perform {α : Type} {action : Action α} {w : World}
    (succeeds : action.Succeeds (w.perform action).1) :
    (w.perform action).2.locked = action.holding w.locked := by
  have change (changed : Except FileFault FileTree) : (w.change changed).2.locked = w.locked := by
    cases changed <;> rfl
  cases action with
  | makeDirectories p => exact change _
  | touch p => exact change _
  | write p content => exact change _
  | append p content => exact change _
  | rename source target => exact change _
  | unlink p => exact change _
  | acquire p =>
    change (w.acquire p).1 = .acquired at succeeds
    show (w.acquire p).2.locked = p :: w.locked
    unfold acquire at succeeds ⊢
    split at succeeds
    · cases succeeds
    · split at succeeds
      · cases succeeds
      · next free => rw [if_neg free]
  | makeTemporary directory stem =>
    obtain ⟨p, made⟩ := succeeds
    change (w.makeTemporary directory stem).2.locked = w.locked
    rw [(makeTemporary_eq_ok made).2]
  | _ => rfl

end World

/-- Whether each lock is held by one process at most, and held just when it is locked. -/
structure Excludes {ι : Type} (locked : List Path) (held : ι → List Path) : Prop where
  once : locked.Nodup
  each : ∀ i, (held i).Nodup
  holder : ∀ p, p ∈ locked ↔ ∃ i, p ∈ held i
  alone : ∀ i j p, p ∈ held i → p ∈ held j → i = j

namespace Excludes

variable {ι : Type} [DecidableEq ι] {locked : List Path} {held : ι → List Path} {i : ι} {p : Path}

theorem mem_update {j : ι} {locks : List Path} :
    p ∈ Function.update held i locks j ↔ j = i ∧ p ∈ locks ∨ j ≠ i ∧ p ∈ held j := by
  by_cases same : j = i
  · subst same
    simp
  · simp [same]

/-- Taking a lock that is free. -/
theorem acquire (excludes : Excludes locked held) (free : p ∉ locked) :
    Excludes (p :: locked) (Function.update held i (p :: held i)) := by
  obtain ⟨once, each, holder, alone⟩ := excludes
  have nobody (j : ι) : p ∉ held j := fun mine => free ((holder p).mpr ⟨j, mine⟩)
  refine ⟨List.nodup_cons.mpr ⟨free, once⟩, fun j => ?_, fun q => ⟨fun there => ?_, ?_⟩,
    fun j k q => ?_⟩
  · by_cases same : j = i
    · subst same
      rw [Function.update_self]
      exact List.nodup_cons.mpr ⟨nobody j, each j⟩
    · rw [Function.update_of_ne same]
      exact each j
  · rcases List.mem_cons.mp there with rfl | there
    · exact ⟨i, mem_update.mpr (.inl ⟨rfl, List.mem_cons_self⟩)⟩
    · obtain ⟨j, mine⟩ := (holder q).mp there
      by_cases same : j = i
      · exact ⟨j, mem_update.mpr (.inl ⟨same, List.mem_cons_of_mem _ (same ▸ mine)⟩)⟩
      · exact ⟨j, mem_update.mpr (.inr ⟨same, mine⟩)⟩
  · rintro ⟨j, mine⟩
    rcases mem_update.mp mine with ⟨-, mine⟩ | ⟨-, mine⟩
    · rcases List.mem_cons.mp mine with rfl | mine
      · exact List.mem_cons_self
      · exact List.mem_cons_of_mem _ ((holder q).mpr ⟨i, mine⟩)
    · exact List.mem_cons_of_mem _ ((holder q).mpr ⟨j, mine⟩)
  · rw [mem_update, mem_update, List.mem_cons]
    grind

/-- Giving a lock back that is held. -/
theorem release (excludes : Excludes locked held) (mine : p ∈ held i) :
    Excludes (locked.erase p) (Function.update held i ((held i).erase p)) := by
  obtain ⟨once, each, holder, alone⟩ := excludes
  refine ⟨once.erase p, fun j => ?_, fun q => ⟨fun there => ?_, ?_⟩, fun j k q => ?_⟩
  · by_cases same : j = i
    · subst same
      rw [Function.update_self]
      exact (each j).erase p
    · rw [Function.update_of_ne same]
      exact each j
  · obtain ⟨other, there⟩ := once.mem_erase_iff.mp there
    obtain ⟨j, mine⟩ := (holder q).mp there
    by_cases same : j = i
    · exact ⟨j, mem_update.mpr (.inl ⟨same, (each i).mem_erase_iff.mpr ⟨other, same ▸ mine⟩⟩)⟩
    · exact ⟨j, mem_update.mpr (.inr ⟨same, mine⟩)⟩
  · rintro ⟨j, here⟩
    rcases mem_update.mp here with ⟨-, kept⟩ | ⟨apart, kept⟩
    · obtain ⟨other, kept⟩ := (each i).mem_erase_iff.mp kept
      exact once.mem_erase_iff.mpr ⟨other, (holder q).mpr ⟨i, kept⟩⟩
    · refine once.mem_erase_iff.mpr ⟨?_, (holder q).mpr ⟨j, kept⟩⟩
      rintro rfl
      exact apart (alone j i q kept mine)
  · rw [mem_update, mem_update, (each i).mem_erase_iff]
    grind

end Excludes

/-- The lock that an action gives back. -/
def Action.Returns : {α : Type} → Action α → Path → Prop
  | _, .release p, q => q = p
  | _, _, _ => False

/-- A step of a process that gives back no lock but its own keeps all locks exclusive. -/
theorem Excludes.perform {ι α : Type} [DecidableEq ι] {w : World} {held : ι → List Path} {i : ι}
    {action : Action α} (excludes : Excludes w.locked held) (ready : ¬ action.Waits w)
    (succeeds : action.Succeeds (w.perform action).1) (own : ∀ p, action.Returns p → p ∈ held i) :
    Excludes (w.perform action).2.locked (Function.update held i (action.holding (held i))) := by
  rw [World.locked_perform succeeds]
  cases action with
  | acquire p => exact excludes.acquire ready
  | release p => exact excludes.release (own p rfl)
  | _ =>
    show Excludes w.locked (Function.update held i (held i))
    rw [Function.update_eq_self]
    exact excludes

/-- The operations that change a store. -/
inductive StoreTask
  | upsert (t : Template)
  | setDefault (id : String)
  | delete (id : String)
deriving Inhabited

namespace StoreTask

/-- Runs a program whatever it ends in. -/
def settle {α : Type} (x : StoreProgram α) : Program Unit := do
  let _ ← x.run
  return ()

/-- The program of an operation. -/
def program (s : FileStore) : StoreTask → Program Unit
  | upsert t => settle (s.upsert t)
  | setDefault id => settle (s.setDefault id)
  | delete id => settle (s.delete id)

end StoreTask

end InvoiceForms
