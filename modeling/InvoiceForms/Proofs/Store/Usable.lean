import InvoiceForms.Proofs.Store.Resolution
import InvoiceForms.Proofs.Store.Coherence

/-!
# What coherent stores give

A coherent store tells its pointer, loads each of its templates without errors, and resolves the one
that the pointer names.
-/

namespace InvoiceForms

open Runner (program)

namespace Template

variable {t : Template}

/-- A storable template can be used when it is loaded, whatever it is held to. -/
theorem Storable.isUsable_sorted (storable : t.Storable) (v : Validator) (flag : Bool) :
    v.isUsable (t.sorted flag) = true :=
  Validator.isUsable_iff.mpr storable.clean

end Template

namespace FileStore

open StoreProgram

variable {s : FileStore} {w : World} {tree : FileTree} {t : Template} {id : String}
  {pointing : Prop}

/-- Where there is no file, nothing is read. -/
theorem readingAt_of_none {d : Path} {name : String}
    (calm : ∀ e, tree.read (d ++ [name]) = .error e → e.cause = .missing)
    (nothing : tree.node? (d ++ [name]) = none) : readingAt tree (d ++ [name]) = .ok .absent := by
  unfold readingAt
  cases read : tree.read (d ++ [name]) with
  | ok content =>
    rw [FileTree.node?_of_find (FileTree.read_eq_ok_iff.mp read)] at nothing
    cases nothing
  | error e =>
    dsimp only
    rw [if_pos (calm e read)]

/-- What the pointer of a coherent store names is there. -/
theorem Coherent.present_of_pointer (coherent : s.Coherent tree)
    (names : s.pointer tree = .ok (some id)) : s.Present tree id := by
  rcases coherent.pointer_cases with ⟨-, nothing⟩ | ⟨name, there, -, names'⟩
  · rw [names] at nothing
    cases nothing
  · rw [names] at names'
    cases names'
    exact there

theorem Coherent.tells (coherent : s.Coherent tree) : ∃ named, s.pointer tree = .ok named := by
  rcases coherent.pointer_cases with ⟨-, nothing⟩ | ⟨id, -, -, names⟩
  · exact ⟨none, nothing⟩
  · exact ⟨some id, names⟩

/-- Reading the pointer of a coherent store says what it names, if nothing about it fails. -/
theorem Coherent.pointed_eq (coherent : s.Coherent tree)
    (read : ∀ e, tree.read s.pointerPath = .error e → e.cause = .missing) :
    s.pointed tree = s.pointer tree := by
  rcases coherent.pointer_cases with ⟨absent, none⟩ | ⟨id, there, -, -⟩
  · rw [none, pointed, pointerPath, readingAt_of_none read absent]
    rfl
  · obtain ⟨t, -, loadable⟩ := coherent.document id there
    obtain ⟨⟨m, root⟩, inside⟩ := loadable.holds.root
    rw [pointed, FileStore.pointer, pointerPath, readingAt_calm read root inside]
    split <;> rfl

theorem ensures_defaultId : Ensures (s.Kept pointing) s.defaultId
    (fun named w => s.Kept pointing w ∧ s.pointer w.tree = .ok named) (s.Kept pointing) := by
  intro w kept calm
  have reads : Calm (readDocument s.pointerPath) w := (Program.calm_bind.mp calm).1
  have told := kept.coherent.pointed_eq (calm_perform.mp reads.of_bind.1)
  obtain ⟨journal, looked⟩ := outcome_defaultId s w
  rw [looked]
  change Behind _ _ (s.pointed w.tree, _)
  cases said : s.pointed w.tree with
  | error e => exact kept.with_journal journal
  | ok named => exact ⟨kept.with_journal journal, told.symm.trans said⟩

/-- Getting a template leaves a store as it is. -/
theorem maintains_get (s : FileStore) (pointing : Prop) (id : String) :
    Maintains (s.Kept pointing) (s.get id) := by
  refine ensures_iff_after.mpr fun w kept _ => ?_
  obtain ⟨journal, gotten⟩ := outcome_get s id w
  rw [Runner.after, gotten]
  exact kept.with_journal journal

/-- A document that can be asked for is loaded as the template that it was written from, in its order. -/
theorem loaded_of_holds (accepted : t.Accepted .sorted Json.distinctHere)
    (readable : t.toDocument.hasReadableIntegers = true) (holds : s.Holds t tree)
    (fits : FileTree.Fits s.templatesPath (t.id ++ suffix)) (flag : Bool) :
    s.loaded tree t.id flag = .ok (some (t.sorted flag)) := by
  have read : tree.read (s.templatePath t.id) = .ok _ :=
    fits.read_eq_ok holds.reachedTemplates holds.document
  have calm : Calm (s.load t.id flag) { tree := tree } := by
    refine calm_load fun e failed => ?_
    change tree.read (s.templatePath t.id) = _ at failed
    rw [read] at failed
    cases failed
  have loads := load_calm accepted readable holds calm
  rw [outcome_load] at loads
  exact congrArg Prod.fst loads

section Documents

variable (coherent : s.Coherent w.tree) (there : s.Present w.tree id)

include coherent there

/-- Where there is a document, reading the pointer does not fail. -/
theorem Coherent.pointed_eq_of_present : s.pointed w.tree = s.pointer w.tree := by
  refine coherent.pointed_eq fun e failed => ?_
  obtain ⟨t, rfl, loadable⟩ := coherent.document id there
  have root : w.tree.Reached s.root := ⟨loadable.holds.root.1, loadable.holds.root.2⟩
  have fits := fits_pointer loadable.fits
  rcases coherent.pointer with absent | ⟨name, -, file⟩
  · rw [pointerPath, fits.read_missing root absent] at failed
    cases failed
    rfl
  · rw [pointerPath, fits.read_eq_ok root file] at failed
    cases failed

/-- A document of a coherent store is loaded as the template that it was written from, in its order. -/
theorem Coherent.loaded_eq : ∃ t : Template, t.id = id ∧ t.Storable ∧
    ∀ flag, s.loaded w.tree id flag = .ok (some (t.sorted flag)) := by
  obtain ⟨t, rfl, storable, holds, fits⟩ := coherent.document id there
  exact ⟨t, rfl, storable, loaded_of_holds storable.accepted storable.readable holds fits⟩

end Documents

/-- A coherent store gives each of its templates, under the id of its file. -/
theorem Coherent.get_answer (coherent : s.Coherent w.tree) (there : s.Present w.tree id) :
    ∃ t : Template, t.id = id ∧ t.Storable ∧
      program.answer (s.get id) w = .ok (some (t.sorted (s.pointer w.tree = .ok (some id)))) := by
  obtain ⟨t, rfl, storable, loaded⟩ := coherent.loaded_eq there
  obtain ⟨named, pointer⟩ := coherent.tells
  obtain ⟨journal, gotten⟩ := outcome_get s t.id w
  refine ⟨t, rfl, storable, ?_⟩
  rw [Runner.answer, gotten, coherent.pointed_eq_of_present there, pointer]
  show s.loaded w.tree t.id _ = _
  rw [loaded]
  simp only [Except.ok.injEq]

/-- A coherent store resolves the template that its pointer names. -/
theorem Coherent.resolve_answer (coherent : s.Coherent w.tree)
    (names : s.pointer w.tree = .ok (some id)) (v : Validator) : ∃ t : Template, t.id = id ∧ t.Storable ∧
      program.answer (s.get id) w = .ok (some (t.sorted true)) ∧
      program.answer (Resolver.resolve ⟨s.operations, v⟩ none) w = .ok ⟨t.sorted true, .default⟩ := by
  have there := coherent.present_of_pointer names
  obtain ⟨t, rfl, storable, loaded⟩ := coherent.loaded_eq there
  have told := (coherent.pointed_eq_of_present there).trans names
  have fetched : program.answer s.getDefault w = .ok (some (t.sorted true)) := by
    obtain ⟨journal, ends⟩ := outcome_getDefault s w
    rw [Runner.answer, ends, told]
    exact loaded true
  refine ⟨t, rfl, storable, ?_, ?_⟩
  · obtain ⟨journal, ends⟩ := outcome_get s t.id w
    rw [Runner.answer, ends, told]
    show s.loaded w.tree t.id (decide (some t.id = some t.id)) = _
    rw [decide_eq_true rfl]
    exact loaded true
  · have searched : program.answer
        (Resolver.usable ⟨s.operations, v⟩ Resolver.defaultLabel s.getDefault) w =
          .ok (some (t.sorted true)) :=
      Resolver.answer_usable_of_gives ⟨fetched, storable.isUsable_sorted v true⟩
    show program.answer (Resolver.resolveDefault ⟨s.operations, v⟩) w = _
    exact (Runner.answer_bind_of_ok searched _).trans (Runner.answer_pure _ _ _)

end FileStore

end InvoiceForms
