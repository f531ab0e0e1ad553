import Mathlib.Data.List.Forall2
import InvoiceForms.Record.Fault

/-!
# Results of steps

When a sequence of steps that may fail gives a result: exactly when each of its steps does. Proofs
about readers and expansions take a sequence apart with these lemmas. `Agree` compares two sequences
that are run beside each other. `Gives` says at once when a sequence gives a result and what the result is.
-/

namespace InvoiceForms.Results

variable {ε φ α β γ : Type}

/-- Two steps in a row give a result when the first one does and the second one goes on from it. -/
theorem bind_eq_ok {x : Except ε α} {f : α → Except ε β} {b : β} :
    (x >>= f) = .ok b ↔ ∃ a, x = .ok a ∧ f a = .ok b := by
  cases x <;> simp [bind, Except.bind]

/-- When two steps in a row give any result at all. -/
theorem exists_bind_eq_ok {x : Except ε α} {f : α → Except ε β} :
    (∃ b, (x >>= f) = .ok b) ↔ ∃ a, x = .ok a ∧ ∃ b, f a = .ok b := by
  constructor
  · rintro ⟨b, given⟩
    obtain ⟨a, first, rest⟩ := bind_eq_ok.mp given
    exact ⟨a, first, b, rest⟩
  · rintro ⟨a, first, b, rest⟩
    exact ⟨b, bind_eq_ok.mpr ⟨a, first, rest⟩⟩

/-- Two steps whose results are put together give a result when each of them does. -/
theorem exists_both_eq_ok {x : Except ε α} {y : Except ε β} {f : α → β → γ} :
    (∃ c, (do let a ← x; let b ← y; return f a b) = .ok c) ↔ (∃ a, x = .ok a) ∧ ∃ b, y = .ok b := by
  cases x <;> cases y <;> simp [bind, Except.bind, pure, Except.pure]

/-- A mapped result is the image of a result. -/
theorem map_eq_ok {x : Except ε α} {f : α → β} {b : β} :
    x.map f = .ok b ↔ ∃ a, x = .ok a ∧ f a = b := by
  cases x <;> simp [Except.map]

/-- Another wording of the faults leaves the results. -/
theorem mapError_eq_ok {x : Except ε α} {f : ε → φ} {a : α} :
    x.mapError f = .ok a ↔ x = .ok a := by
  cases x <;> simp [Except.mapError]

/-- A result is what is left when faults are not told apart. -/
theorem toOption_eq_some {x : Except ε α} {a : α} : x.toOption = some a ↔ x = .ok a := by
  cases x <;> simp [Except.toOption]

/-- A plain value is the result it is. -/
theorem return_eq_ok {a b : α} : (pure a : Except ε α) = .ok b ↔ a = b := by
  simp [pure, Except.pure]

/-- A list of steps gives a list of results when each step gives its own. -/
theorem mapM_eq_ok {f : α → Except ε β} {xs : List α} {ys : List β} :
    xs.mapM f = .ok ys ↔ List.Forall₂ (fun x y => f x = .ok y) xs ys := by
  induction xs generalizing ys with
  | nil =>
    rw [List.mapM_nil, return_eq_ok, List.forall₂_nil_left_iff]
    exact eq_comm
  | cons x xs ih =>
    rw [List.mapM_cons, bind_eq_ok, List.forall₂_cons_left_iff]
    constructor
    · rintro ⟨y, first, rest⟩
      obtain ⟨others, tail, made⟩ := bind_eq_ok.mp rest
      exact ⟨y, others, first, ih.mp tail, (return_eq_ok.mp made).symm⟩
    · rintro ⟨y, others, first, tail, rfl⟩
      exact ⟨y, first, bind_eq_ok.mpr ⟨others, ih.mpr tail, rfl⟩⟩

/-- Every result of a list of steps is that of one of them. -/
theorem exists_of_mem_mapM {f : α → Except ε β} {xs : List α} {ys : List β}
    (given : xs.mapM f = .ok ys) {y : β} (member : y ∈ ys) : ∃ x ∈ xs, f x = .ok y := by
  induction mapM_eq_ok.mp given with
  | nil => cases member
  | cons first rest ih =>
    rcases List.mem_cons.mp member with rfl | member
    · exact ⟨_, List.mem_cons_self, first⟩
    · obtain ⟨x, inside, taken⟩ := ih (mapM_eq_ok.mpr rest) member
      exact ⟨x, List.mem_cons_of_mem _ inside, taken⟩

/-- A list of steps fails with what one of them fails with. -/
theorem exists_of_mapM_eq_error {f : α → Except ε β} {xs : List α} {e : ε}
    (failed : xs.mapM f = .error e) : ∃ x ∈ xs, f x = .error e := by
  induction xs with
  | nil =>
    rw [List.mapM_nil] at failed
    cases failed
  | cons x xs ih =>
    rw [List.mapM_cons] at failed
    cases first : f x with
    | error e' =>
      rw [first] at failed
      cases failed
      exact ⟨x, List.mem_cons_self, first⟩
    | ok y =>
      rw [first] at failed
      cases rest : xs.mapM f with
      | error e' =>
        change (xs.mapM f >>= _) = _ at failed
        rw [rest] at failed
        cases failed
        obtain ⟨x, inside, here⟩ := ih rest
        exact ⟨x, List.mem_cons_of_mem _ inside, here⟩
      | ok ys =>
        change (xs.mapM f >>= _) = _ at failed
        rw [rest] at failed
        cases failed

/-- Two steps fail for the same reason, or both give a result and the results are related. -/
inductive Agree (related : α → β → Prop) : Except ε α → Except ε β → Prop
  | fault (e : ε) : Agree related (.error e) (.error e)
  | result {a : α} {b : β} (results : related a b) : Agree related (.ok a) (.ok b)

namespace Agree

variable {α' β' : Type} {related : α → β → Prop} {related' : α' → β' → Prop}

/-- Sequences agree when their first steps do and related results are continued alike. -/
theorem bind {x : Except ε α} {y : Except ε β} {f : α → Except ε α'} {g : β → Except ε β'}
    (first : Agree related x y) (rest : ∀ a b, related a b → Agree related' (f a) (g b)) :
    Agree related' (x >>= f) (y >>= g) := by
  cases first with
  | fault e => exact .fault e
  | result results => exact rest _ _ results

theorem map {x : Except ε α} {y : Except ε β} {f : α → α'} {g : β → β'}
    (steps : Agree related x y) (images : ∀ a b, related a b → related' (f a) (g b)) :
    Agree related' (x.map f) (y.map g) := by
  cases steps with
  | fault e => exact .fault e
  | result results => exact .result (images _ _ results)

end Agree

/-- Steps that give a result exactly under a condition, and what is true of each result they give. -/
structure Gives (steps : Except ε α) (condition : Prop) (result : α → Prop) : Prop where
  exists_iff : (∃ a, steps = .ok a) ↔ condition
  each : ∀ a, steps = .ok a → result a

namespace Gives

variable {x : Except ε α} {y : Except ε β} {c d : Prop} {P : α → Prop} {Q : β → Prop}

theorem ok {a : α} (met : c) (holds : P a) : Gives (.ok a : Except ε α) c P where
  exists_iff := iff_of_true ⟨a, rfl⟩ met
  each := by
    rintro b same
    cases same
    exact holds

theorem error {e : ε} (unmet : ¬ c) : Gives (.error e : Except ε α) c P where
  exists_iff := by
    refine iff_of_false ?_ unmet
    rintro ⟨a, given⟩
    cases given
  each := by
    intro a given
    cases given

theorem imp (gives : Gives x c P) (conditions : c ↔ d) {P' : α → Prop} (results : ∀ a, P a → P' a) :
    Gives x d P' where
  exists_iff := gives.exists_iff.trans conditions
  each a given := results a (gives.each a given)

/-- Two steps whose results are put together give a result when each of them does. -/
theorem both {f : α → β → γ} {R : γ → Prop} (first : Gives x c P) (second : Gives y d Q)
    (results : ∀ a b, P a → Q b → R (f a b)) :
    Gives (do let a ← x; let b ← y; return f a b) (c ∧ d) R where
  exists_iff := by rw [exists_both_eq_ok, first.exists_iff, second.exists_iff]
  each r given := by
    obtain ⟨a, here, given⟩ := bind_eq_ok.mp given
    obtain ⟨b, there, given⟩ := bind_eq_ok.mp given
    rw [return_eq_ok] at given
    subst given
    exact results a b (first.each a here) (second.each b there)

theorem map {g : α → β} (gives : Gives x c P) (images : ∀ a, P a → Q (g a)) : Gives (x.map g) c Q where
  exists_iff := by
    rw [← gives.exists_iff]
    constructor
    · rintro ⟨b, given⟩
      obtain ⟨a, here, -⟩ := map_eq_ok.mp given
      exact ⟨a, here⟩
    · rintro ⟨a, here⟩
      exact ⟨g a, map_eq_ok.mpr ⟨a, here, rfl⟩⟩
  each b given := by
    obtain ⟨a, here, rfl⟩ := map_eq_ok.mp given
    exact images a (gives.each a here)

end Gives

end InvoiceForms.Results
