import InvoiceForms.Proofs.Store.Paths
import InvoiceForms.Proofs.Store.Places

/-!
# Changes that fail

Whoever is told that a change of a store has failed relies on nothing having changed. For pointing to a
template that holds in every state. Storing and deleting a template look at the pointer only when the
document is written or gone, so they can fail behind it; the module says exactly when.
-/

namespace InvoiceForms

open InvoiceForms.Results InvoiceForms.Text
open Runner (program)

namespace FileStore

open StoreProgram

variable {s : FileStore} {w w' : World} {tree tree' tree'' : FileTree} {α β : Type}

/-- The paths that changes are about: the documents of templates and the pointer. -/
inductive Durable (s : FileStore) : Path → Prop
  | document (id : String) : Durable s (s.templatePath id)
  | pointer : Durable s s.pointerPath

theorem Durable.not_common {q : Path} (durable : s.Durable q) : ¬ s.Common q := by
  cases durable with
  | document id => exact not_common_templatePath
  | pointer => exact not_common_pointerPath

/-- Whether the documents of templates and the pointer are the same in two trees. -/
def Unchanged (s : FileStore) (tree tree' : FileTree) : Prop :=
  ∀ q, s.Durable q → tree'.node? q = tree.node? q

theorem Unchanged.trans (first : s.Unchanged tree tree') (rest : s.Unchanged tree' tree'') :
    s.Unchanged tree tree'' := fun q durable => (rest q durable).trans (first q durable)

theorem Unchanged.symm (same : s.Unchanged tree tree') : s.Unchanged tree' tree :=
  fun q durable => (same q durable).symm

/-- What precedes and changes nothing does not count. -/
theorem Unchanged.iff_of_left (same : s.Unchanged tree tree') :
    s.Unchanged tree tree'' ↔ s.Unchanged tree' tree'' := ⟨same.symm.trans, same.trans⟩

/-- Whether a program leaves all documents and the pointer as they are, however it ends. -/
def Leaves (s : FileStore) (x : StoreProgram α) : Prop :=
  ∀ w, w.Names IsTemporary → s.Unchanged w.tree (program.after x w).tree

/-- Whether a program that fails leaves all documents and the pointer as they are. -/
def Spares (s : FileStore) (x : StoreProgram α) : Prop :=
  ∀ w, w.Names IsTemporary → ∀ e w', program.outcome x w = (.error e, w') →
    s.Unchanged w.tree w'.tree

theorem leaves_of_avoids {x : StoreProgram α} (avoids : ∀ q, s.Durable q → Avoids IsTemporary q x) :
    s.Leaves x := fun _ named q durable => (avoids q durable).node?_after named

theorem Leaves.of_outcome {x : StoreProgram α} {r : Except StoreFault α} (leaves : s.Leaves x)
    (named : w.Names IsTemporary) (given : program.outcome x w = (r, w')) :
    s.Unchanged w.tree w'.tree := by
  have same := leaves w named
  rwa [Runner.after, given] at same

theorem Leaves.spares {x : StoreProgram α} (leaves : s.Leaves x) : s.Spares x :=
  fun _ named _ _ failed => leaves.of_outcome named failed

theorem Leaves.bind_spares {x : StoreProgram α} {f : α → StoreProgram β} (first : s.Leaves x)
    (rest : ∀ a, s.Spares (f a)) : s.Spares (x >>= f) := by
  intro w named e w' failed
  rcases given : program.outcome x w with ⟨e | a, w₁⟩
  · rw [outcome_bind_of_error given] at failed
    obtain ⟨-, rfl⟩ := Prod.mk.inj failed
    exact first.spares w named _ _ given
  · rw [outcome_bind_of_ok given] at failed
    have before := first.of_outcome named given
    exact before.trans (rest a w₁ (names_of_outcome named given) e w' failed)

theorem spares_throw (e : StoreFault) : s.Spares (throw e : StoreProgram α) :=
  (leaves_of_avoids fun _ _ => avoids_throw e).spares

theorem leaves_takeLock (s : FileStore) (name : String) : s.Leaves (s.takeLock name) :=
  leaves_of_avoids fun _ durable => avoids_takeLock (beside_of_not_common durable.not_common name)

/-- A program under a lock ends as it does behind taking the lock. -/
theorem outcome_locked {name : String} {body : StoreProgram α}
    (taken : program.outcome (s.takeLock name) w = (.ok (), w')) :
    program.outcome (s.locked name body) w = (program.answer body w',
      ((program.after body w').perform (.release (s.lockPath name))).2) := by
  unfold locked
  rw [outcome_bind_of_ok taken, outcome_bind_of_ok (Runner.outcome_lift _ _ _),
    outcome_bind_of_ok (outcome_perform _ _)]
  unfold Runner.answer Runner.after Runner.outcome
  cases (program.run body.run w').1 <;> rfl

/-- What a program under a lock gives, it gives behind taking the lock. -/
theorem answer_of_locked {name : String} {body : StoreProgram α} {a : α}
    (given : program.answer (s.locked name body) w = .ok a) :
    program.answer body (program.after (s.takeLock name) w) = .ok a := by
  unfold Runner.answer at given
  rcases taken : program.outcome (s.takeLock name) w with ⟨e | _, w₁⟩
  · unfold FileStore.locked at given
    rw [outcome_bind_of_error taken] at given
    cases given
  · rw [outcome_locked taken] at given
    rwa [Runner.after, taken]

theorem Spares.locked {name : String} {body : StoreProgram α} (inside : s.Spares body) :
    s.Spares (s.locked name body) := by
  refine (leaves_takeLock s name).bind_spares fun _ w named e w' failed => ?_
  rw [outcome_bind_of_ok (Runner.outcome_lift _ _ _), outcome_bind_of_ok (outcome_perform _ _)]
    at failed
  rcases ended : program.outcome body w with ⟨e' | a, w₁⟩
  · have ran : program.run body.run w = (.error e', w₁) := ended
    rw [ran] at failed
    obtain ⟨-, rfl⟩ := Prod.mk.inj failed
    exact inside w named e' w₁ ended
  · have ran : program.run body.run w = (.ok a, w₁) := ended
    rw [ran] at failed
    cases failed

/-- Whether a program that gives a fault leaves the node at a path. -/
def SparesPath (q : Path) (p : Program (Except FileFault α)) : Prop :=
  ∀ w, w.Names IsTemporary → ∀ e w', p.run w = (.error e, w') → w'.tree.node? q = w.tree.node? q

theorem sparesPath_perform_bind {q : Path} {action : Action β}
    {f : β → Program (Except FileFault α)} (apart : ¬ action.Touches IsTemporary q)
    (rest : ∀ w : World, w.Names IsTemporary → SparesPath q (f (w.perform action).1)) :
    SparesPath q (Program.perform action >>= f) := by
  intro w named e w' failed
  rw [Program.run_perform_bind] at failed
  rw [rest w named _ (named.perform action) e w' failed, World.node?_perform named apart]

/-- A file that could not be replaced is as it was: only moving the temporary file to its place touches
it, and that is the last thing that can fail. -/
theorem sparesPath_replaceFile {directory target : Path} {stem : String} {content : ByteArray}
    (way : ¬ target <+: directory) (aside : ∀ name, IsTemporary name → target ≠ directory ++ [name]) :
    SparesPath target (replaceFile directory stem target content) := by
  unfold replaceFile
  refine sparesPath_perform_bind way fun w _ => ?_
  cases (w.perform (.makeDirectories directory)).1 with
  | error e =>
    rintro w _ _ _ ⟨⟩
    rfl
  | ok _ =>
    refine sparesPath_perform_bind ?_ fun w named => ?_
    · rintro ⟨name, temporary, same⟩
      exact aside name temporary same
    · cases made : (w.perform (.makeTemporary directory stem)).1 with
      | error e =>
        rintro w _ _ _ ⟨⟩
        rfl
      | ok temporary =>
        obtain ⟨rfl, -⟩ := World.makeTemporary_eq_ok made
        have apart := aside _ (named stem)
        have cleans (e : FileFault) : SparesPath target (do
            let _ ← Program.perform (.unlink (directory ++ [w.temporaryName stem]))
            return .error e : Program (Except FileFault Unit)) :=
          sparesPath_perform_bind apart fun w _ => by
            rintro w _ _ _ ⟨⟩
            rfl
        refine sparesPath_perform_bind apart fun w₁ _ => ?_
        cases (w₁.perform (.write (directory ++ [w.temporaryName stem]) content)).1 with
        | error e => exact cleans e
        | ok _ =>
          intro w₂ named₂ e w' failed
          change (Program.perform (.rename (directory ++ [w.temporaryName stem]) target) >>= _).run w₂ =
            _ at failed
          rw [Program.run_perform_bind] at failed
          cases renamed : w₂.tree.rename (directory ++ [w.temporaryName stem]) target with
          | ok tree =>
            have moved : w₂.perform (.rename (directory ++ [w.temporaryName stem]) target) =
                (.ok (), { w₂ with tree := tree }) := congrArg w₂.change renamed
            rw [moved] at failed
            cases failed
          | error e' =>
            have moved : w₂.perform (.rename (directory ++ [w.temporaryName stem]) target) =
                (.error e', w₂) := congrArg w₂.change renamed
            rw [moved] at failed
            exact cleans e' w₂ named₂ e w' failed

/-- A document that could not be replaced is as it was, and so are the others. -/
theorem spares_replaceDocument {fault : FileFault → StoreFault} {directory target : Path}
    {stem : String} {document : Json} (way : ∀ q, s.Durable q → ¬ q <+: directory)
    (aside : ∀ q, s.Durable q → ∀ name, IsTemporary name → q ≠ directory ++ [name]) :
    s.Spares (replaceDocument fault directory stem target document) := by
  intro w named e w' failed q durable
  by_cases same : q = target
  · subst same
    unfold replaceDocument at failed
    rw [outcome_bind_of_ok (Runner.outcome_lift _ _ _)] at failed
    rcases ran : (replaceFile directory stem q (encode (documentText document))).run w with ⟨e' | _, w₁⟩
    · have spared := sparesPath_replaceFile (way q durable) (aside q durable) w named e' w₁ ran
      have ran' : program.run (replaceFile directory stem q (encode (documentText document))) w =
        (.error e', w₁) := ran
      rw [ran'] at failed
      obtain ⟨-, rfl⟩ := Prod.mk.inj failed
      exact spared
    · have ran' : program.run (replaceFile directory stem q (encode (documentText document))) w =
        (.ok (), w₁) := ran
      rw [ran'] at failed
      cases failed
  · have avoids : Avoids IsTemporary q (replaceDocument fault directory stem target document) :=
      avoids_replaceDocument (way q durable) (aside q durable) same
    exact avoids.node?_of_outcome named failed

/-- Pointing to a template changes nothing when it fails: both locks are taken before anything is
written, and the pointer is the one file that is. -/
theorem spares_setDefault (id : String) : s.Spares (s.setDefault id) := by
  have way (q : Path) (durable : s.Durable q) : ¬ q <+: s.root := fun way =>
    durable.not_common (.templates (way.trans (List.prefix_append _ _)))
  have aside (q : Path) (durable : s.Durable q) (name : String) (temporary : IsTemporary name) :
      q ≠ s.root ++ [name] := by
    rintro rfl
    generalize at_path : s.root ++ [name] = q at durable
    cases durable with
    | document id => exact templatePath_ne_draft at_path.symm
    | pointer => exact pointerPath_ne_draft temporary at_path.symm
  unfold setDefault
  split
  · refine (Leaves.bind_spares (leaves_of_avoids fun q _ => ?_) fun there => ?_).locked.locked
    · exact avoids_perform _ not_false
    · split
      · exact spares_replaceDocument way aside
      · exact spares_throw _
  · exact spares_throw _

/-- Writing the document of a template changes nothing when it fails. -/
theorem spares_writeTemplate (t : Template) : s.Spares (s.writeTemplate t) := by
  unfold writeTemplate
  split
  · exact spares_throw _
  · split
    · exact spares_replaceDocument (fun q durable way => durable.not_common (.templates way))
        fun q durable name temporary same => durable.not_common (same ▸ .temporary temporary)
    · exact spares_throw _

/-- What is written is a template that can be written. -/
theorem writable_of_answer {t : Template} (written : program.answer (s.writeTemplate t) w = .ok ()) :
    Template.schema.undecodable? t = none ∧ t.toDocument.hasReadableIntegers = true := by
  unfold writeTemplate at written
  split at written
  · simp at written
  · next decodable =>
    split at written
    · next few => exact ⟨decodable, few⟩
    · simp at written

/-- Whether a program fails although documents or the pointer have changed. -/
def Tears (s : FileStore) (x : StoreProgram α) (w : World) : Prop :=
  (∃ e, program.answer x w = .error e) ∧ ¬ s.Unchanged w.tree (program.after x w).tree

theorem Spares.not_tears {x : StoreProgram α} (spares : s.Spares x) (named : w.Names IsTemporary) :
    ¬ s.Tears x w := by
  rintro ⟨⟨e, failed⟩, changed⟩
  exact changed (spares w named e _ (Prod.ext failed rfl))

/-- Under a lock that is taken, a program tears as it does behind taking the lock. -/
theorem tears_locked_iff {name : String} {body : StoreProgram α} (named : w.Names IsTemporary)
    (taken : program.outcome (s.takeLock name) w = (.ok (), w')) :
    s.Tears (s.locked name body) w ↔ s.Tears body w' := by
  have same := (leaves_takeLock s name).of_outcome named taken
  unfold Tears
  rw [Runner.answer, Runner.after, outcome_locked taken, same.iff_of_left]
  rfl

/-- A program that tears does so before what follows when that never fails. -/
theorem tears_bind_iff {x : StoreProgram α} {f : α → StoreProgram β}
    (rest : ∀ a w, ∃ b w', program.outcome (f a) w = (.ok b, w')) :
    s.Tears (x >>= f) w ↔ s.Tears x w := by
  unfold Tears
  rcases given : program.outcome x w with ⟨e | a, w₁⟩
  · rw [Runner.answer, Runner.after, Runner.answer, Runner.after, outcome_bind_of_error given, given]
    simp
  · obtain ⟨b, w₂, ended⟩ := rest a w₁
    rw [Runner.answer, Runner.answer, outcome_bind_of_ok given, given, ended]
    simp

section Storing

variable {t : Template}

/-- Behind the written document, storing a template only looks at the pointer. -/
theorem outcome_upsert_of_written
    (written : program.outcome (s.locked (templateLock t.id) (s.writeTemplate t)) w = (.ok (), w')) :
    ∃ journal, program.outcome (s.upsert t) w =
      ((s.pointed w'.tree).map fun p => { t with isDefault := p = some t.id },
        { w' with journal := journal }) := by
  have reported := outcome_perform (.report (entry .info "Saved invoice template"
    [("template", .text t.id)])) w'
  obtain ⟨journal, looked⟩ := outcome_defaultId s ((w'.perform (.report (entry .info
    "Saved invoice template" [("template", .text t.id)]))).2)
  unfold upsert
  refine ⟨journal, ?_⟩
  rw [outcome_bind_of_ok written]
  refine (outcome_bind_of_ok reported _).trans ?_
  change _ = (s.pointed w'.tree, { w' with journal := journal }) at looked
  cases named : s.pointed w'.tree with
  | ok p =>
    rw [named] at looked
    rw [outcome_bind_of_ok looked]
    rfl
  | error e =>
    rw [named] at looked
    rw [outcome_bind_of_error looked]
    rfl

/-- A written document stands in its place, the directories are there, and the rest is as it was. -/
theorem of_written (named : w.Names IsTemporary)
    (written : program.outcome (s.locked (templateLock t.id) (s.writeTemplate t)) w = (.ok (), w')) :
    s.Holds t w'.tree ∧ FileTree.Fits s.templatesPath (t.id ++ suffix) ∧
      ∀ q, s.Durable q → q ≠ s.templatePath t.id → w'.tree.node? q = w.tree.node? q := by
  have calm := (candid_locked (candid_writeTemplate t)).calm_of_ok (congrArg Prod.fst written)
  obtain ⟨decodable, few⟩ := writable_of_answer (answer_of_locked (congrArg Prod.fst written))
  obtain ⟨w'', ended, holds, -⟩ := writeLocked_calm decodable few calm
  obtain rfl : w' = w'' := congrArg Prod.snd (written.symm.trans ended)
  refine ⟨holds, fits_document (fits_of_locked calm), fun q durable other => ?_⟩
  have beside := beside_of_not_common durable.not_common (templateLock t.id)
  have avoids : Avoids IsTemporary q (s.locked (templateLock t.id) (s.writeTemplate t)) :=
    avoids_locked beside (avoids_writeTemplate beside.templates
      (fun _ temporary same => durable.not_common (same ▸ .temporary temporary)) other)
  exact avoids.node?_of_outcome named written

/-- Storing a template tears when its document is written, with another content than before, and the
pointer cannot be read afterwards. -/
theorem tears_upsert_iff (named : w.Names IsTemporary) : s.Tears (s.upsert t) w ↔
    program.answer (s.locked (templateLock t.id) (s.writeTemplate t)) w = .ok () ∧
      s.PointerUnreadable w.tree ∧
      w.tree.node? (s.templatePath t.id) ≠ some (.file (encode (documentText t.toDocument))) := by
  rcases written : program.outcome (s.locked (templateLock t.id) (s.writeTemplate t)) w with
    ⟨e | _, w₁⟩
  · have failed : program.outcome (s.upsert t) w = (.error e, w₁) := outcome_bind_of_error written _
    have spared := (spares_writeTemplate t).locked w named e w₁ written
    unfold Tears
    rw [Runner.answer, Runner.after, failed, Runner.answer, written]
    simp [spared]
  · obtain ⟨holds, fits, frame⟩ := of_written named written
    obtain ⟨journal, ended⟩ := outcome_upsert_of_written written
    have pointer : w₁.tree.node? s.pointerPath = w.tree.node? s.pointerPath :=
      frame _ .pointer pointerPath_ne_templatePath
    have fails : (∃ e, program.answer (s.upsert t) w = .error e) ↔ s.PointerUnreadable w.tree := by
      have unreadable := pointed_eq_error_iff (s := s) ⟨holds.root.1, holds.root.2⟩ (fits_pointer fits)
      rw [Runner.answer, ended, ← pointerUnreadable_congr pointer, ← unreadable]
      cases s.pointed w₁.tree <;> simp [Except.map]
    have same : s.Unchanged w.tree (program.after (s.upsert t) w).tree ↔
        w.tree.node? (s.templatePath t.id) = some (.file (encode (documentText t.toDocument))) := by
      rw [Runner.after, ended]
      constructor
      · intro unchanged
        rw [← holds.document]
        exact (unchanged _ (.document t.id)).symm
      · intro already q durable
        by_cases own : q = s.templatePath t.id
        · rw [own, already]
          exact holds.document
        · exact frame q durable own
    rw [Tears, fails, same, Runner.answer, written]
    simp

end Storing

section Removing

variable {id : String}

/-- Where the lock of a template can be asked for, that of the pointer can be, too. -/
theorem fits_pointerLock (fits : FileTree.Fits s.locksPath (templateLock id ++ ".lock")) :
    FileTree.Fits s.locksPath (pointerLock ++ ".lock") := by
  obtain ⟨path, name⟩ := fits
  have starts : "default".utf8ByteSize ≤ "template-".utf8ByteSize := by decide
  unfold templateLock at path name
  unfold pointerLock
  refine ⟨FileTree.tooLong_append path nofun nofun ?_, by decide⟩
  simp only [Path.shown, joinWith, String.intercalate_singleton, String.utf8ByteSize_append]
  omega

/-- Under the lock of the pointer, only a pointer that cannot be read keeps it from being taken back. -/
theorem clearPointer_eq_error_iff_of_taken (fits : FileTree.Fits s.root "default.json")
    (taken : program.outcome (s.takeLock pointerLock) w = (.ok (), w')) :
    (∃ e, program.answer (s.clearPointer id) w = .error e) ↔ s.PointerUnreadable w'.tree := by
  have root := (of_takeLock taken).1.root
  have unreadable := pointed_eq_error_iff root fits
  obtain ⟨journal, looked⟩ := outcome_defaultId s w'
  change _ = (s.pointed w'.tree, { w' with journal := journal }) at looked
  unfold clearPointer
  rw [Runner.answer, outcome_locked taken, ← unreadable]
  dsimp only
  rw [Runner.answer]
  cases pointed : s.pointed w'.tree with
  | error e =>
    rw [pointed] at looked
    rw [outcome_bind_of_error looked]
    simp
  | ok p =>
    rw [pointed] at looked
    rw [outcome_bind_of_ok looked]
    have readable : w'.tree.node? s.pointerPath ≠ some .directory := fun there => by
      obtain ⟨e, failed⟩ := unreadable.mpr (.inl there)
      rw [pointed] at failed
      cases failed
    simp only [reduceCtorEq, exists_false, iff_false, not_exists]
    intro e failed
    split at failed
    · rw [outcome_bind_of_ok (outcome_perform _ _)] at failed
      cases gone : (World.perform { w' with journal := journal } (.unlink s.pointerPath)).1 with
      | ok _ =>
        rw [gone] at failed
        cases failed
      | error e' =>
        have root' : (World.tree { w' with journal := journal }).Reached s.root := root
        have missing : e'.cause = .missing := World.missing_of_unlink fits root' readable gone
        rw [gone] at failed
        dsimp only at failed
        rw [if_pos missing] at failed
        cases failed
    · cases failed

/-- Where the directories are there, only the lock of the pointer and a pointer that cannot be read
keep it from being taken back. -/
theorem clearPointer_eq_error_iff (named : w.Names IsTemporary) (ready : s.Ready w.tree)
    (lock : FileTree.Fits s.locksPath (pointerLock ++ ".lock"))
    (fits : FileTree.Fits s.root "default.json") :
    (∃ e, program.answer (s.clearPointer id) w = .error e) ↔
      s.Barred pointerLock w ∨ s.PointerUnreadable w.tree := by
  rw [← takeLock_eq_error_iff ready lock]
  rcases taken : program.outcome (s.takeLock pointerLock) w with ⟨e | _, w₁⟩
  · unfold clearPointer locked
    rw [Runner.answer, Runner.answer, outcome_bind_of_error taken, taken]
    simp
  · have same := (leaves_takeLock s pointerLock).of_outcome named taken
    rw [clearPointer_eq_error_iff_of_taken fits taken, pointerUnreadable_congr (same _ .pointer),
      Runner.answer, taken]
    simp

/-- Removing a document bars no lock and frees none. -/
theorem barred_remove_iff {name : String} :
    s.Barred name { w with tree := w.tree.remove (s.templatePath id) } ↔ s.Barred name w := by
  have other : s.lockPath name ≠ s.templatePath id := fun same =>
    not_common_templatePath (same ▸ Common.lock name)
  unfold Barred
  dsimp only
  rw [FileTree.node?_remove_of_ne other]

/-- Removing a document leaves the pointer as it is. -/
theorem pointerUnreadable_remove_iff :
    s.PointerUnreadable (tree.remove (s.templatePath id)) ↔ s.PointerUnreadable tree :=
  pointerUnreadable_congr (FileTree.node?_remove_of_ne pointerPath_ne_templatePath)

/-- Whoever takes the pointer back after a document is gone has changed something. -/
theorem not_unchanged_clearPointer {content : ByteArray} (named : w.Names IsTemporary)
    (found : tree.node? (s.templatePath id) = some (.file content))
    (gone : w.tree = tree.remove (s.templatePath id)) :
    ¬ s.Unchanged tree (program.after (s.clearPointer id) w).tree := by
  intro same
  have apart : ¬ s.Common (s.templatePath id) := not_common_templatePath
  have kept := same _ (.document id)
  have avoids : Avoids IsTemporary (s.templatePath id) (s.clearPointer id) :=
    avoids_clearPointer (beside_of_not_common apart pointerLock) pointerPath_ne_templatePath.symm
  rw [avoids.node?_after named, found, gone, FileTree.node?_remove_self (by simp [templatePath])] at kept
  cases kept

/-- A file that can be removed is. -/
theorem outcome_unlink {p : Path} (gone : w.tree.unlink p = .ok tree) :
    program.outcome (perform (.unlink p)) w = (.ok (.ok ()), { w with tree := tree }) := by
  have changed : w.perform (.unlink p) = (.ok (), { w with tree := tree }) := congrArg w.change gone
  rw [outcome_perform, changed]

/-- Where there is a document to remove, removing a template goes on with taking the pointer back. -/
theorem outcome_removeTemplate_of_unlink
    (gone : w.tree.unlink (s.templatePath id) = .ok tree) :
    program.outcome (s.removeTemplate id) w =
      ((program.answer (s.clearPointer id) { w with tree := tree }).map fun _ => true,
        program.after (s.clearPointer id) { w with tree := tree }) := by
  unfold removeTemplate
  rw [outcome_bind_of_ok (outcome_unlink gone)]
  exact Runner.outcome_bind_pure _ _ _ _

/-- Where the document cannot be removed, nothing is. -/
theorem after_removeTemplate_of_unlink {e : FileFault}
    (failed : w.tree.unlink (s.templatePath id) = .error e) :
    program.after (s.removeTemplate id) w = w := by
  have kept : w.perform (.unlink (s.templatePath id)) = (.error e, w) := congrArg w.change failed
  unfold removeTemplate
  rw [Runner.after, outcome_bind_of_ok (outcome_perform _ _), kept]
  dsimp only
  split <;> rfl

/-- Where the directories are there, removing a template tears when there is a document to remove, and
the pointer cannot be taken back. -/
theorem tears_removeTemplate_iff (named : w.Names IsTemporary) (ready : s.Ready w.tree)
    (fits : FileTree.Fits s.locksPath (templateLock id ++ ".lock")) :
    s.Tears (s.removeTemplate id) w ↔
      (∃ content, w.tree.node? (s.templatePath id) = some (.file content)) ∧
        (s.Barred pointerLock w ∨ s.PointerUnreadable w.tree) := by
  have unlinked := (fits_document fits).unlink_eq ready.templates
  rw [← templatePath] at unlinked
  have idle {e : FileFault} (failed : w.tree.unlink (s.templatePath id) = .error e) :
      ¬ s.Tears (s.removeTemplate id) w := by
    rintro ⟨-, changed⟩
    rw [after_removeTemplate_of_unlink failed] at changed
    exact changed fun _ _ => rfl
  rcases found : w.tree.node? (s.templatePath id) with _ | content | _
  · rw [found] at unlinked
    simp [idle unlinked]
  · rw [found] at unlinked
    let w₁ : World := { w with tree := w.tree.remove (s.templatePath id) }
    have left : (w.perform (.unlink (s.templatePath id))).2 = w₁ :=
      congrArg (fun r => (w.change r).2) unlinked
    have named' : w₁.Names IsTemporary := left ▸ named.perform (.unlink (s.templatePath id))
    have ready' : s.Ready w₁.tree := left ▸ ready.perform (.unlink (s.templatePath id))
    have fails : (∃ e, program.answer (s.clearPointer id) w₁ = .error e) ↔
        s.Barred pointerLock w₁ ∨ s.PointerUnreadable w₁.tree :=
      clearPointer_eq_error_iff named' ready' (fits_pointerLock fits) (fits_pointer (fits_document fits))
    have changed := not_unchanged_clearPointer named' found rfl
    rw [barred_remove_iff, pointerUnreadable_remove_iff] at fails
    unfold Tears
    rw [Runner.answer, Runner.after, outcome_removeTemplate_of_unlink unlinked, ← fails]
    cases program.answer (s.clearPointer id) w₁ with
    | ok _ => simp [Except.map]
    | error e => simpa [Except.map] using changed
  · rw [found] at unlinked
    simp [idle unlinked]

/-- The lock of the pointer and its file are not touched by taking the lock of a template. -/
theorem beside_pointerLock : s.Beside (templateLock id) (s.lockPath pointerLock) where
  templates := by
    unfold lockPath locksPath templatesPath
    rw [List.append_assoc, List.prefix_append_right_inj]
    rintro ⟨more, same⟩
    simp at same
  locks := fun way => by
    have length := way.length_le
    rw [lockPath, List.length_append, List.length_singleton] at length
    omega
  lock := lockPath_pointerLock_ne

/-- Taking the lock of a template neither bars the lock of the pointer nor frees it. -/
theorem barred_of_takeLock (named : w.Names IsTemporary)
    (taken : program.outcome (s.takeLock (templateLock id)) w = (.ok (), w')) :
    s.Barred pointerLock w' ↔ s.Barred pointerLock w := by
  have beside : s.Beside (templateLock id) (s.lockPath pointerLock) := beside_pointerLock
  have kept := (avoids_takeLock beside).node?_of_outcome named taken
  unfold Barred
  rw [(of_takeLock taken).2.2, kept, List.mem_cons]
  simp [lockPath_pointerLock_ne]

/-- Deleting a template tears when its document is removed, and then the lock of the pointer cannot be
taken or the pointer cannot be read. -/
theorem tears_delete_iff (named : w.Names IsTemporary) : s.Tears (s.delete id) w ↔
    TemplateId.isValid id = true ∧ program.answer (s.takeLock (templateLock id)) w = .ok () ∧
      (∃ content, w.tree.node? (s.templatePath id) = some (.file content)) ∧
        (s.Barred pointerLock w ∨ s.PointerUnreadable w.tree) := by
  unfold delete
  by_cases valid : TemplateId.isValid id = true
  · rw [if_pos valid, tears_bind_iff fun removed w => by cases removed <;> exact ⟨_, _, rfl⟩]
    rcases taken : program.outcome (s.takeLock (templateLock id)) w with ⟨e | _, w₁⟩
    · have same := (leaves_takeLock s (templateLock id)).of_outcome named taken
      unfold Tears locked
      rw [Runner.after, outcome_bind_of_error taken, Runner.answer, Runner.answer, taken]
      simp [same]
    · obtain ⟨ready, fits, -⟩ := of_takeLock taken
      have same := (leaves_takeLock s (templateLock id)).of_outcome named taken
      rw [tears_locked_iff named taken,
        tears_removeTemplate_iff (names_of_outcome named taken) ready fits, same _ (.document id),
        barred_of_takeLock named taken, pointerUnreadable_congr (same _ .pointer), Runner.answer, taken]
      simp [valid]
  · rw [if_neg valid]
    unfold Tears
    simp [valid]

end Removing

/-- Which changes fail although documents or the pointer have changed: pointing to a template never does.
Storing one does when the document is written, with another content than before, but the pointer cannot
be read; deleting one does when its document is there to be removed, but then the lock of the pointer
cannot be taken or the pointer cannot be read. -/
theorem changes_tear_iff (s : FileStore) {w : World} (named : w.Names IsTemporary) :
    (∀ id, ¬ s.Tears (s.setDefault id) w) ∧
    (∀ t, s.Tears (s.upsert t) w ↔
      program.answer (s.locked (templateLock t.id) (s.writeTemplate t)) w = .ok () ∧
        s.PointerUnreadable w.tree ∧
        w.tree.node? (s.templatePath t.id) ≠ some (.file (encode (documentText t.toDocument)))) ∧
    ∀ id, s.Tears (s.delete id) w ↔
      TemplateId.isValid id = true ∧ program.answer (s.takeLock (templateLock id)) w = .ok () ∧
        (∃ content, w.tree.node? (s.templatePath id) = some (.file content)) ∧
        (s.Barred pointerLock w ∨ s.PointerUnreadable w.tree) :=
  ⟨fun id => (spares_setDefault id).not_tears named, fun _ => tears_upsert_iff named,
    fun _ => tears_delete_iff named⟩

/-- A store with one document, while somebody else holds the lock of its pointer. -/
def pointerHeld : World where
  tree := ⟨[(["templates"], .directory), (["templates", "a.json"], .file "\x7b\x7d".toUTF8)]⟩
  locked := [[".locks", "default.lock"]]

theorem delete_tears_of_pointerHeld : pointerHeld.Names IsTemporary ∧
    Tears ⟨[]⟩ (delete ⟨[]⟩ "a") pointerHeld := by
  have named : pointerHeld.Names IsTemporary := fun stem => ⟨("." ++ stem).toList, by simp [pointerHeld]⟩
  have deletes := (changes_tear_iff ⟨[]⟩ named).2.2 "a"
  exact ⟨named, deletes.mpr ⟨by decide, rfl, ⟨_, rfl⟩, .inl (.inl (by decide))⟩⟩

/-- The deletion says that it has failed, and the document is gone. -/
theorem pointerHeld_loses_document :
    program.answer (delete ⟨[]⟩ "a") pointerHeld = .error (.unavailable (.lockTimeout "default")) ∧
    pointerHeld.tree.node? (templatePath ⟨[]⟩ "a") = some (.file "\x7b\x7d".toUTF8) ∧
    (program.after (delete ⟨[]⟩ "a") pointerHeld).tree.node? (templatePath ⟨[]⟩ "a") = none :=
  ⟨rfl, rfl, rfl⟩

end FileStore

end InvoiceForms
