import InvoiceForms.Proofs.Store.Paths
import InvoiceForms.Proofs.Store.Persistence
import InvoiceForms.Proofs.Store.Reading
import InvoiceForms.Proofs.Store.Resolution
import InvoiceForms.Proofs.Store.Specs
import InvoiceForms.Proofs.Validation.Arranged

/-!
# Coherent stores

A store is coherent when each of its documents is that of a template without errors, and its pointer is
absent or names one of them. The operations of a store keep it coherent in calm runs, and a coherent
store loads each of its templates and resolves its default.
-/

namespace InvoiceForms

open InvoiceForms.Text
open Runner (program)

/-- What a template has whose document can be written, and is loaded as one without errors. -/
structure Template.Storable (t : Template) : Prop where
  accepted : t.Accepted .sorted Json.distinctHere
  readable : t.toDocument.hasReadableIntegers = true
  clean : Validator.structuralErrors (t.arrange .sorted) = []

namespace FileStore

open StoreProgram

/-- The content of a pointer's file. -/
def pointerContent (id : String) : ByteArray := encode (documentText (pointerDocument id))

/-- A template that a store holds and can give. -/
structure Loadable (s : FileStore) (t : Template) (tree : FileTree) : Prop where
  storable : t.Storable
  holds : s.Holds t tree
  fits : FileTree.Fits s.templatesPath (t.id ++ suffix)

/-- A store whose documents are those of storable templates, and whose pointer is absent or names one
of them. -/
structure Coherent (s : FileStore) (tree : FileTree) : Prop where
  document : ∀ id, s.Present tree id → ∃ t : Template, t.id = id ∧ s.Loadable t tree
  pointer : tree.node? s.pointerPath = none ∨ ∃ id, s.Present tree id ∧
    tree.node? s.pointerPath = some (.file (pointerContent id))

/-- A tree in which nothing stands below the root of a store. -/
def Vacant (s : FileStore) (tree : FileTree) : Prop :=
  ∀ q, s.root <+: q → q ≠ s.root → tree.node? q = none

theorem Vacant.document {s : FileStore} {tree : FileTree} (vacant : s.Vacant tree) (id : String) :
    tree.node? (s.templatePath id) = none :=
  vacant _ ((List.prefix_append _ _).trans (List.prefix_append _ _))
    (by simp [templatePath, templatesPath])

theorem Vacant.pointer {s : FileStore} {tree : FileTree} (vacant : s.Vacant tree) :
    tree.node? s.pointerPath = none := vacant _ (List.prefix_append _ _) (by simp [pointerPath])

/-- A world with a coherent store, that keeps its pointer if it had one. -/
structure Kept (s : FileStore) (pointing : Prop) (w : World) : Prop where
  names : w.Names IsTemporary
  coherent : s.Coherent w.tree
  stays : pointing → w.tree.node? s.pointerPath ≠ none

variable {s : FileStore} {w w' : World} {tree tree' : FileTree} {t : Template} {id : String}
  {pointing : Prop} {q : Path} {α : Type}

theorem Holds.reachedTemplates (holds : s.Holds t tree) : tree.Reached s.templatesPath :=
  ⟨holds.reached, holds.directory⟩

theorem Holds.congr (holds : s.Holds t tree)
    (same : tree'.node? (s.templatePath t.id) = tree.node? (s.templatePath t.id))
    (reached : tree.Reached s.templatesPath → tree'.Reached s.templatesPath) : s.Holds t tree' := by
  obtain ⟨walked, directory⟩ := reached holds.reachedTemplates
  exact ⟨walked, directory, same.trans holds.document⟩

theorem Holds.present (holds : s.Holds t tree) : s.Present tree t.id := by
  rw [Present, holds.document]
  rfl

theorem Loadable.congr (loadable : s.Loadable t tree)
    (same : tree'.node? (s.templatePath t.id) = tree.node? (s.templatePath t.id))
    (reached : tree.Reached s.templatesPath → tree'.Reached s.templatesPath) : s.Loadable t tree' :=
  { loadable with holds := loadable.holds.congr same reached }

namespace Coherent

theorem of_frame (coherent : s.Coherent tree)
    (documents : ∀ id, tree'.node? (s.templatePath id) = tree.node? (s.templatePath id))
    (pointer : tree'.node? s.pointerPath = tree.node? s.pointerPath)
    (reached : tree.Reached s.templatesPath → tree'.Reached s.templatesPath) : s.Coherent tree' where
  document id there := by
    obtain ⟨t, rfl, loadable⟩ := coherent.document id (there.congr (documents id).symm)
    exact ⟨t, rfl, loadable.congr (documents t.id) reached⟩
  pointer := by
    rw [pointer]
    exact coherent.pointer.imp_right fun ⟨id, there, names⟩ => ⟨id, there.congr (documents id), names⟩

/-- The pointer of a coherent store is absent or names one of its templates. -/
theorem pointer_cases (coherent : s.Coherent tree) :
    tree.node? s.pointerPath = none ∧ s.pointer tree = .ok none ∨
      ∃ id, s.Present tree id ∧ tree.node? s.pointerPath = some (.file (pointerContent id)) ∧
        s.pointer tree = .ok (some id) := by
  rcases coherent.pointer with absent | ⟨id, there, file⟩
  · refine .inl ⟨absent, ?_⟩
    unfold FileStore.pointer
    rw [absent]
  · refine .inr ⟨id, there, file, ?_⟩
    obtain ⟨t, rfl, loadable⟩ := coherent.document id there
    unfold FileStore.pointer
    rw [file]
    exact pointing_pointerDocument loadable.storable.accepted.isValid_id

end Coherent

/-- A program that touches neither the documents nor the pointer keeps a store coherent. -/
theorem Kept.of_avoids (kept : s.Kept pointing w) {p : Program α}
    (apart : ∀ q, ¬ s.Common q → (∃ id, q = s.templatePath id) ∨ q = s.pointerPath →
      p.Avoids IsTemporary q) : s.Kept pointing (p.run w).2 := by
  have document (id : String) :=
    (apart _ not_common_templatePath (.inl ⟨id, rfl⟩)).node?_run kept.names
  have pointer := (apart _ not_common_pointerPath (.inr rfl)).node?_run kept.names
  have coherent := kept.coherent.of_frame document pointer Program.reached_run
  refine ⟨Program.names_run kept.names, coherent, ?_⟩
  rw [pointer]
  exact kept.stays

theorem Kept.with_journal (kept : s.Kept pointing w) (journal : List JournalEntry) :
    s.Kept pointing { w with journal := journal } := ⟨kept.names, kept.coherent, kept.stays⟩

/-- A program under a lock may rely on what taking the lock does not touch. -/
theorem ensures_locked {name : String} {body : StoreProgram α} (pre post : FileTree → Prop)
    (stable : ∀ tree tree', (∀ q, ¬ s.Common q → tree'.node? q = tree.node? q) → pre tree → pre tree')
    (inside : Ensures (fun w => pre w.tree) body (fun _ w => post w.tree) fun w => post w.tree) :
    Ensures (fun w => pre w.tree) (s.locked name body) (fun _ w => post w.tree)
      fun w => post w.tree := by
  rw [ensures_iff_after] at inside ⊢
  intro w holds calm
  obtain ⟨w₁, w₂, frame, calm', locked, tree⟩ := locked_calm calm
  have after : program.after (s.locked name body) w = w₂ := congrArg Prod.snd locked
  rw [after, tree]
  refine inside w₁ (stable w.tree w₁.tree (fun q apart => ?_) holds) calm'
  have beside := beside_of_not_common apart name
  exact frame q beside.templates beside.locks beside.lock

section Storing

theorem avoids_upsert_of_not_common (apart : ¬ s.Common q) (other : q ≠ s.templatePath t.id) :
    Avoids IsTemporary q (s.upsert t) :=
  avoids_upsert (beside_of_not_common apart _)
    (fun _ temporary same => apart (same ▸ .temporary temporary)) other

/-- A template whose document cannot be written leaves its document, too. -/
theorem avoids_upsert_of_unreadable (decodable : Template.schema.undecodable? t = none)
    (many : t.toDocument.hasReadableIntegers ≠ true) (apart : ¬ s.Common q) :
    Avoids IsTemporary q (s.upsert t) := by
  have refuses : s.writeTemplate t = throw (.oversizedInteger none) := by
    unfold writeTemplate
    rw [decodable]
    exact if_neg many
  unfold upsert
  rw [refuses]
  exact (avoids_locked (beside_of_not_common apart _) (avoids_throw _)).bind fun _ =>
    (avoids_report _).bind fun _ => avoids_defaultId.bind fun _ => trivial

/-- Storing a template keeps a store coherent, if the template has no errors when it is loaded. -/
theorem maintains_upsert (accepted : t.Accepted .sorted Json.distinctHere)
    (clean : Validator.structuralErrors (t.arrange .sorted) = []) :
    Maintains (s.Kept pointing) (s.upsert t) := by
  refine ensures_iff_after.mpr fun w kept calm => ?_
  by_cases few : t.toDocument.hasReadableIntegers = true
  · obtain ⟨w', stored, holds, pointer⟩ := upsert_calm accepted.undecodable? few calm
    obtain rfl : program.after (s.upsert t) w = w' := congrArg Prod.snd stored
    have locks : Calm (s.locked (templateLock t.id) (s.writeTemplate t)) w :=
      (Program.calm_bind.mp calm).1
    have fits := fits_document (fits_of_locked locks)
    have others {id : String} (other : id ≠ t.id) :
        (program.after (s.upsert t) w).tree.node? (s.templatePath id) =
          w.tree.node? (s.templatePath id) :=
      (avoids_upsert_of_not_common not_common_templatePath
        fun same => other (templatePath_injective same)).node?_after kept.names
    refine ⟨names_after kept.names, ⟨fun id there => ?_, ?_⟩, pointer ▸ kept.stays⟩
    · by_cases same : id = t.id
      · exact ⟨t, same.symm, ⟨accepted, few, clean⟩, holds, fits⟩
      · obtain ⟨u, rfl, loadable⟩ := kept.coherent.document id (there.congr (others same).symm)
        exact ⟨u, rfl, loadable.congr (others same) Program.reached_run⟩
    · rw [pointer]
      refine kept.coherent.pointer.imp_right fun ⟨id, there, file⟩ => ⟨id, ?_, file⟩
      by_cases same : id = t.id
      · exact same ▸ holds.present
      · exact there.congr (others same)
  · exact kept.of_avoids fun q apart _ => avoids_upsert_of_unreadable accepted.undecodable? few apart

end Storing

/-- A tree in which the pointer and the document of a template are those of another tree. -/
def Untouched (s : FileStore) (start : FileTree) (id : String) (tree : FileTree) : Prop :=
  tree.node? s.pointerPath = start.node? s.pointerPath ∧
    tree.node? (s.templatePath id) = start.node? (s.templatePath id)

/-- A tree in which the pointer is that of another tree, or names a template that is there. -/
def Repointed (s : FileStore) (start : FileTree) (id : String) (tree : FileTree) : Prop :=
  tree.node? s.pointerPath = start.node? s.pointerPath ∨
    s.Present start id ∧ tree.node? s.pointerPath = some (.file (pointerContent id))

theorem Untouched.of_frame {start : FileTree} (tree tree' : FileTree)
    (same : ∀ q, ¬ s.Common q → tree'.node? q = tree.node? q) (untouched : s.Untouched start id tree) :
    s.Untouched start id tree' :=
  ⟨(same _ not_common_pointerPath).trans untouched.1,
    (same _ not_common_templatePath).trans untouched.2⟩

theorem ensures_setDefault (s : FileStore) (id : String) (start : FileTree) :
    Ensures (fun w => s.Untouched start id w.tree) (s.setDefault id)
      (fun _ w => s.Repointed start id w.tree) fun w => s.Repointed start id w.tree := by
  unfold setDefault
  split
  · refine ensures_locked (s.Untouched start id) (s.Repointed start id) Untouched.of_frame
      (ensures_locked (s.Untouched start id) (s.Repointed start id) Untouched.of_frame ?_)
    refine Ensures.bind (fun there w => w.tree.node? s.pointerPath = start.node? s.pointerPath ∧
      (there = true → s.Present start id))
      (ensures_lift fun w holds _ => ⟨holds.1, fun there => ?_⟩) fun there => ?_
    · exact Present.congr (FileTree.node?_of_has there) holds.2.symm
    · split
      · next there =>
        refine ensures_iff_after.mpr fun w holds calm => ?_
        obtain ⟨w', replaced, -, -, file, -⟩ := replaceDocument_calm calm
        obtain rfl : program.after _ w = w' := congrArg Prod.snd replaced
        exact .inr ⟨holds.2 there, file⟩
      · exact ensures_throw fun _ holds => .inl holds.1
  · exact ensures_throw fun _ holds => .inl holds.1

/-- Pointing to a template keeps a store coherent. -/
theorem maintains_setDefault (s : FileStore) (pointing : Prop) (id : String) :
    Maintains (s.Kept pointing) (s.setDefault id) := by
  refine ensures_iff_after.mpr fun w kept calm => ?_
  have documents (other : String) : (program.after (s.setDefault id) w).tree.node?
      (s.templatePath other) = w.tree.node? (s.templatePath other) := by
    have apart : ¬ s.Common (s.templatePath other) := not_common_templatePath
    exact (avoids_setDefault (beside_of_not_common apart _) (beside_of_not_common apart _)
      (fun way => apart (.templates (way.trans (List.prefix_append _ _))))
      (fun _ _ => templatePath_ne_draft) pointerPath_ne_templatePath.symm).node?_after kept.names
  have pointer := ensures_iff_after.mp (ensures_setDefault s id w.tree) w ⟨rfl, rfl⟩ calm
  have reached : w.tree.Reached s.templatesPath →
      (program.after (s.setDefault id) w).tree.Reached s.templatesPath := Program.reached_run
  rcases pointer with same | ⟨there, file⟩
  · refine ⟨names_after kept.names, kept.coherent.of_frame documents same reached, ?_⟩
    rw [same]
    exact kept.stays
  · refine ⟨names_after kept.names, ⟨fun other found => ?_, ?_⟩, fun _ => ?_⟩
    · obtain ⟨t, rfl, loadable⟩ := kept.coherent.document other (found.congr (documents other).symm)
      exact ⟨t, rfl, loadable.congr (documents t.id) reached⟩
    · exact .inr ⟨id, there.congr (documents id), file⟩
    · rw [file]
      exact Option.some_ne_none _

/-- A tree in which the pointer is that of another tree, and so is the document of a template, unless
it is gone. -/
def Removed (s : FileStore) (start : FileTree) (id : String) (tree : FileTree) : Prop :=
  tree.node? s.pointerPath = start.node? s.pointerPath ∧
    (tree.node? (s.templatePath id) = start.node? (s.templatePath id) ∨
      tree.node? (s.templatePath id) = none)

theorem Removed.of_frame {start : FileTree} (tree tree' : FileTree)
    (same : ∀ q, ¬ s.Common q → tree'.node? q = tree.node? q) (removed : s.Removed start id tree) :
    s.Removed start id tree' := by
  unfold Removed
  rw [same _ not_common_pointerPath, same _ not_common_templatePath]
  exact removed

/-- What is read of the pointer is what its file says. -/
theorem pointer_of_pointed (pointed : s.pointed tree = .ok (some id)) :
    s.pointer tree = .ok (some id) := by
  unfold FileStore.pointed readingAt at pointed
  cases read : tree.read s.pointerPath with
  | ok content =>
    have file := FileTree.node?_of_find (FileTree.read_eq_ok_iff.mp read)
    rw [read] at pointed
    unfold pointer
    rw [file]
    exact pointed
  | error e =>
    rw [read] at pointed
    dsimp only at pointed
    split at pointed <;> cases pointed

section Removing

variable {start : FileTree} (other : s.pointer start ≠ .ok (some id))

include other

/-- A pointer that names another template stays. -/
theorem ensures_clearPointer : Ensures (fun w => s.Removed start id w.tree) (s.clearPointer id)
    (fun _ w => s.Removed start id w.tree) fun w => s.Removed start id w.tree := by
  have looks : Ensures (fun w => s.Removed start id w.tree) s.defaultId
      (fun named w => s.Removed start id w.tree ∧ named ≠ some id)
      fun w => s.Removed start id w.tree := by
    intro w removed _
    obtain ⟨journal, ends⟩ := outcome_defaultId s w
    rw [ends]
    cases said : (readingAt w.tree s.pointerPath).bind pointerOf with
    | error e => exact removed
    | ok named =>
      refine ⟨removed, ?_⟩
      rintro rfl
      refine other ?_
      rw [← pointer_of_pointed said]
      unfold pointer
      rw [removed.1]
  unfold clearPointer
  refine ensures_locked (s.Removed start id) (s.Removed start id) Removed.of_frame
    (Ensures.bind _ looks fun named => ?_)
  split
  · next same => exact fun w holds => absurd same holds.2
  · exact ensures_pure fun _ holds => holds.1

/-- Removing a template that the pointer does not name leaves the pointer. -/
theorem ensures_delete : Ensures (fun w => s.Untouched start id w.tree) (s.delete id)
    (fun _ w => s.Removed start id w.tree) fun w => s.Removed start id w.tree := by
  have unlinks (w : World) (untouched : s.Untouched start id w.tree) :
      s.Removed start id (w.perform (.unlink (s.templatePath id))).2.tree := by
    have everywhere : w.Names fun _ => True := fun _ => trivial
    have apart : ¬ (Action.unlink (s.templatePath id)).Touches (fun _ => True) s.pointerPath :=
      pointerPath_ne_templatePath
    refine ⟨(World.node?_perform everywhere apart).trans untouched.1, ?_⟩
    show (w.change _).2.tree.node? _ = _ ∨ (w.change _).2.tree.node? _ = _
    cases removed : w.tree.unlink (s.templatePath id) with
    | error e => exact .inl untouched.2
    | ok tree =>
      obtain ⟨content, -, rfl⟩ := FileTree.unlink_eq_ok removed
      exact .inr (FileTree.node?_remove_self (by simp [templatePath]))
  have removes : Ensures (fun w => s.Untouched start id w.tree) (s.removeTemplate id)
      (fun _ w => s.Removed start id w.tree) fun w => s.Removed start id w.tree := by
    unfold removeTemplate
    refine Ensures.bind (fun _ w => s.Removed start id w.tree)
      (ensures_lift fun w untouched _ => unlinks w untouched) fun result => ?_
    cases result with
    | ok _ =>
      exact Ensures.bind _ (ensures_clearPointer other) fun _ => ensures_pure fun _ holds => holds
    | error e =>
      dsimp only
      split
      · exact ensures_pure fun _ holds => holds
      · exact ensures_throw fun _ holds => holds
  unfold delete
  split
  · refine Ensures.bind (fun _ w => s.Removed start id w.tree)
      (ensures_locked (s.Untouched start id) (s.Removed start id) Untouched.of_frame removes)
      fun removed => ?_
    split
    · exact Ensures.bind (fun _ w => s.Removed start id w.tree)
        (ensures_lift fun _ holds _ => holds) fun _ => ensures_pure fun _ holds => holds
    · exact ensures_pure fun _ holds => holds
  · exact ensures_pure fun _ untouched => ⟨untouched.1, .inl untouched.2⟩

end Removing

/-- Removing a template that is not the default keeps a store coherent. -/
theorem ensures_kept_delete (s : FileStore) (pointing : Prop) (id : String) :
    Ensures (fun w => s.Kept pointing w ∧ s.pointer w.tree ≠ .ok (some id)) (s.delete id)
      (fun _ => s.Kept pointing) (s.Kept pointing) := by
  refine ensures_iff_after.mpr fun w ⟨kept, other⟩ calm => ?_
  obtain ⟨pointer, document⟩ := ensures_iff_after.mp (ensures_delete other) w ⟨rfl, rfl⟩ calm
  have others {name : String} (apart : name ≠ id) : (program.after (s.delete id) w).tree.node?
      (s.templatePath name) = w.tree.node? (s.templatePath name) := by
    have own : ¬ s.Common (s.templatePath name) := not_common_templatePath
    have beside := beside_of_not_common own
    exact (avoids_delete (beside _) (beside _) (fun same => apart (templatePath_injective same))
      pointerPath_ne_templatePath.symm).node?_after kept.names
  have reached : w.tree.Reached s.templatesPath →
      (program.after (s.delete id) w).tree.Reached s.templatesPath := Program.reached_run
  refine ⟨names_after kept.names, ⟨fun name there => ?_, ?_⟩, pointer ▸ kept.stays⟩
  · have same : (program.after (s.delete id) w).tree.node? (s.templatePath name) =
        w.tree.node? (s.templatePath name) := by
      by_cases own : name = id
      · subst own
        refine document.resolve_right fun gone => ?_
        rw [Present, gone] at there
        cases there
      · exact others own
    obtain ⟨t, rfl, loadable⟩ := kept.coherent.document name (there.congr same.symm)
    exact ⟨t, rfl, loadable.congr same reached⟩
  · rw [pointer]
    rcases kept.coherent.pointer_cases with ⟨absent, -⟩ | ⟨name, there, file, names⟩
    · exact .inl absent
    · refine .inr ⟨name, there.congr (others ?_), file⟩
      rintro rfl
      exact other names

end FileStore

end InvoiceForms
