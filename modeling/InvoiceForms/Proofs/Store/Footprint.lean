import InvoiceForms.Proofs.Store.Files

/-!
# What programs leave alone

An action touches the paths whose nodes it may change, and a program avoids a path when none of its
actions touches it, whatever their results are. What a program avoids is the same behind any run of it,
be the run calm or not. The names that temporary files get are described by a predicate.
-/

namespace InvoiceForms

namespace FileTree

variable {t t' : FileTree} {p q : Path}

theorem node?_of_rename {target : Path} (given : t.rename p target = .ok t') (source : q ≠ p)
    (other : q ≠ target) : t'.node? q = t.node? q := by
  obtain ⟨content, -, rfl⟩ := rename_eq_ok given
  rw [node?_put_of_ne other, node?_remove_of_ne source]

/-- What is removed is a file. -/
theorem unlink_eq_ok (given : t.unlink p = .ok t') :
    ∃ content, t.find p = .ok (.file content) ∧ t' = t.remove p := by
  obtain ⟨n, found, rest⟩ := Results.bind_eq_ok.mp given
  cases n with
  | file content =>
    cases rest
    exact ⟨content, found, rfl⟩
  | directory => cases rest

section Directories

variable (there : t.node? q = some .directory)

include there

theorem node?_of_update_of_directory {f : ByteArray → ByteArray} (given : t.update p f = .ok t') :
    t'.node? q = t.node? q := by
  have other : q ≠ p := fun same => node?_ne_directory_of_update given (same ▸ there)
  obtain ⟨old, rfl⟩ := update_eq_ok given
  exact node?_put_of_ne other

theorem ne_of_find {content : ByteArray} (found : t.find p = .ok (.file content)) : q ≠ p := by
  rintro rfl
  rw [node?_of_find found] at there
  cases there

theorem node?_of_rename_of_directory {target : Path} (given : t.rename p target = .ok t') :
    t'.node? q = t.node? q := by
  obtain ⟨content, found, -⟩ := rename_eq_ok given
  refine node?_of_rename given (ne_of_find there found) ?_
  rintro rfl
  unfold rename at given
  rw [found] at given
  dsimp only at given
  rw [if_pos there] at given
  cases given

end Directories

end FileTree

/-- Whether an action may change the node at a path. -/
def Action.Touches (fresh : String → Prop) : {α : Type} → Action α → Path → Prop
  | _, .makeDirectories p, q => q <+: p
  | _, .touch p, q | _, .acquire p, q | _, .write p _, q | _, .append p _, q
  | _, .unlink p, q => q = p
  | _, .makeTemporary directory _, q => ∃ name, fresh name ∧ q = directory ++ [name]
  | _, .rename source target, q => q = source ∨ q = target
  | _, .read _, _ | _, .has _, _ | _, .hasFile _, _ | _, .list _, _ | _, .release _, _
  | _, .report _, _ | _, .now, _ => False

namespace World

variable {fresh : String → Prop} {w : World} {α : Type}

/-- Whether temporary files only get names that satisfy a predicate. -/
def Names (fresh : String → Prop) (w : World) : Prop := ∀ stem, fresh (w.temporaryName stem)

@[simp] theorem temporaryName_perform (w : World) (action : Action α) :
    (w.perform action).2.temporaryName = w.temporaryName := by
  have change (changed : Except FileFault FileTree) :
      (w.change changed).2.temporaryName = w.temporaryName := by
    cases changed <;> rfl
  cases action with
  | makeDirectories p => exact change _
  | touch p => exact change _
  | write p content => exact change _
  | append p content => exact change _
  | rename source target => exact change _
  | unlink p => exact change _
  | acquire p =>
    show (w.acquire p).2.temporaryName = _
    unfold acquire
    split
    · rfl
    · split <;> rfl
  | makeTemporary directory stem =>
    show (w.makeTemporary directory stem).2.temporaryName = _
    unfold makeTemporary
    dsimp only
    split <;> rfl
  | _ => rfl

theorem Names.perform (named : w.Names fresh) (action : Action α) :
    (w.perform action).2.Names fresh := by
  intro stem
  rw [temporaryName_perform]
  exact named stem

/-- A change of the tree that leaves a node leaves it whether it succeeds or not. -/
theorem node?_change {q : Path} {changed : Except FileFault FileTree}
    (frame : ∀ tree, changed = .ok tree → tree.node? q = w.tree.node? q) :
    (w.change changed).2.tree.node? q = w.tree.node? q := by
  cases changed with
  | ok tree => exact frame tree rfl
  | error e => rfl

/-- An action leaves what it does not touch, whether it succeeds or not. -/
theorem node?_perform {action : Action α} {q : Path} (named : w.Names fresh)
    (apart : ¬ action.Touches fresh q) : (w.perform action).2.tree.node? q = w.tree.node? q := by
  cases action with
  | makeDirectories p => exact node?_change fun _ made => FileTree.node?_of_makeDirectories made apart
  | touch p => exact node?_change fun _ touched => FileTree.node?_of_touch touched apart
  | write p content =>
    refine node?_change fun _ written => ?_
    rw [FileTree.write_eq_ok written, FileTree.node?_put_of_ne apart]
  | append p content => exact node?_change fun _ appended => FileTree.node?_of_append appended apart
  | unlink p =>
    refine node?_change fun _ removed => ?_
    obtain ⟨content, -, rfl⟩ := FileTree.unlink_eq_ok removed
    exact FileTree.node?_remove_of_ne apart
  | rename source target =>
    exact node?_change fun _ moved => FileTree.node?_of_rename moved (fun same => apart (.inl same))
      fun same => apart (.inr same)
  | acquire p =>
    show (w.acquire p).2.tree.node? q = _
    unfold acquire
    cases appended : w.tree.append p .empty with
    | error e => rfl
    | ok tree =>
      dsimp only
      split <;> exact FileTree.node?_of_append appended apart
  | makeTemporary directory stem =>
    have other : q ≠ directory ++ [w.temporaryName stem] :=
      fun same => apart ⟨_, named stem, same⟩
    show (w.makeTemporary directory stem).2.tree.node? q = _
    unfold makeTemporary
    dsimp only
    split
    · next tree written =>
      rw [FileTree.write_eq_ok written]
      exact FileTree.node?_put_of_ne other
    · rfl
  | _ => rfl

/-- No action removes a directory, whether it succeeds or not. -/
theorem directory_perform {action : Action α} {q : Path} (there : w.tree.node? q = some .directory) :
    (w.perform action).2.tree.node? q = some .directory := by
  rw [← there]
  cases action with
  | makeDirectories p =>
    refine node?_change fun _ made => ?_
    rw [FileTree.node?_of_makeDirectories_of_some made there, there]
  | touch p =>
    refine node?_change fun _ touched => ?_
    unfold FileTree.touch at touched
    split at touched
    · cases touched
      rfl
    · exact FileTree.node?_of_update_of_directory there touched
  | write p content =>
    exact node?_change fun _ written => FileTree.node?_of_update_of_directory there written
  | append p content =>
    exact node?_change fun _ appended => FileTree.node?_of_update_of_directory there appended
  | unlink p =>
    refine node?_change fun _ removed => ?_
    obtain ⟨content, found, rfl⟩ := FileTree.unlink_eq_ok removed
    exact FileTree.node?_remove_of_ne (FileTree.ne_of_find there found)
  | rename source target =>
    exact node?_change fun _ moved => FileTree.node?_of_rename_of_directory there moved
  | acquire p =>
    show (w.acquire p).2.tree.node? q = _
    unfold acquire
    cases appended : w.tree.append p .empty with
    | error e => rfl
    | ok tree =>
      dsimp only
      split <;> exact FileTree.node?_of_update_of_directory there appended
  | makeTemporary directory stem =>
    show (w.makeTemporary directory stem).2.tree.node? q = _
    unfold makeTemporary
    dsimp only
    split
    · next tree written => exact FileTree.node?_of_update_of_directory there written
    · rfl
  | _ => rfl

/-- What is reached stays reached. -/
theorem reached_perform {action : Action α} {p : Path} (reached : w.tree.Reached p) :
    (w.perform action).2.tree.Reached p := reached.of_directories fun _ => directory_perform

end World

namespace Program

variable {fresh : String → Prop} {q : Path} {α β : Type}

/-- Whether no action of a program touches a path, whatever the results are. -/
def Avoids (fresh : String → Prop) (q : Path) : Program α → Prop
  | done _ => True
  | act action next => ¬ action.Touches fresh q ∧
    ∀ w : World, w.Names fresh → (next (w.perform action).1).Avoids fresh q

theorem Avoids.bind {p : Program α} {f : α → Program β} (first : p.Avoids fresh q)
    (rest : ∀ a, (f a).Avoids fresh q) : (p >>= f).Avoids fresh q := by
  induction p with
  | done a => exact rest a
  | act action next ih => exact ⟨first.1, fun w named => ih _ (first.2 w named)⟩

theorem avoids_perform (action : Action α) (apart : ¬ action.Touches fresh q) :
    (perform action).Avoids fresh q := ⟨apart, fun _ _ => trivial⟩

/-- What follows an action may rely on its result being one. -/
theorem avoids_perform_bind (action : Action α) {f : α → Program β}
    (apart : ¬ action.Touches fresh q)
    (rest : ∀ w : World, w.Names fresh → (f (w.perform action).1).Avoids fresh q) :
    (perform action >>= f).Avoids fresh q := ⟨apart, rest⟩

/-- What a program avoids is the same behind a run. The induction is on the program. -/
theorem Avoids.node?_run {p : Program α} (avoids : p.Avoids fresh q) {w : World}
    (named : w.Names fresh) : (p.run w).2.tree.node? q = w.tree.node? q := by
  induction p generalizing w with
  | done a => rfl
  | act action next ih =>
    have rest := ih _ (avoids.2 w named) (named.perform action)
    exact rest.trans (World.node?_perform named avoids.1)

theorem reached_run {p : Program α} {w : World} {directory : Path} (reached : w.tree.Reached directory) :
    (p.run w).2.tree.Reached directory := by
  induction p generalizing w with
  | done a => exact reached
  | act action next ih => exact ih _ (World.reached_perform reached)

theorem names_run {p : Program α} {w : World} (named : w.Names fresh) :
    (p.run w).2.Names fresh := by
  induction p generalizing w with
  | done a => exact named
  | act action next ih => exact ih _ (named.perform action)

end Program

namespace StoreProgram

open Runner (program)

variable {fresh : String → Prop} {q : Path} {α β : Type}

/-- Whether no action of a program touches a path, whatever the results are. -/
def Avoids (fresh : String → Prop) (q : Path) (x : StoreProgram α) : Prop :=
  Program.Avoids fresh q x.run

theorem Avoids.bind {x : StoreProgram α} {f : α → StoreProgram β} (first : Avoids fresh q x)
    (rest : ∀ a, Avoids fresh q (f a)) : Avoids fresh q (x >>= f) := by
  refine Program.Avoids.bind (p := x.run) (f := ExceptT.bindCont f) first fun result => ?_
  cases result with
  | ok a => exact rest a
  | error e => trivial

@[simp] theorem avoids_pure (a : α) : Avoids fresh q (pure a : StoreProgram α) := trivial

@[simp] theorem avoids_throw (e : StoreFault) : Avoids fresh q (throw e : StoreProgram α) := trivial

theorem avoids_lift {p : Program α} (avoids : p.Avoids fresh q) :
    Avoids fresh q (ExceptT.lift p) := Program.Avoids.bind avoids fun _ => trivial

theorem avoids_ofExcept (x : Except StoreFault α) :
    Avoids fresh q (MonadExcept.ofExcept x : StoreProgram α) := by
  cases x <;> trivial

theorem avoids_perform (action : Action α) (apart : ¬ action.Touches fresh q) :
    Avoids fresh q (perform action) := avoids_lift (Program.avoids_perform action apart)

theorem avoids_attempt {action : Action (Except FileFault α)} (apart : ¬ action.Touches fresh q)
    (fault : FileFault → StoreFault) : Avoids fresh q (attempt fault action) := by
  refine (avoids_perform action apart).bind fun result => ?_
  cases result <;> trivial

theorem Avoids.node?_after {x : StoreProgram α} (avoids : Avoids fresh q x) {w : World}
    (named : w.Names fresh) : (program.after x w).tree.node? q = w.tree.node? q :=
  Program.Avoids.node?_run avoids named

theorem names_after {x : StoreProgram α} {w : World} (named : w.Names fresh) :
    (program.after x w).Names fresh := Program.names_run named

theorem Avoids.node?_of_outcome {x : StoreProgram α} (avoids : Avoids fresh q x) {w w' : World}
    {r : Except StoreFault α} (named : w.Names fresh) (given : program.outcome x w = (r, w')) :
    w'.tree.node? q = w.tree.node? q := by
  have kept := avoids.node?_after named
  rwa [Runner.after, given] at kept

theorem names_of_outcome {x : StoreProgram α} {w w' : World} {r : Except StoreFault α}
    (named : w.Names fresh) (given : program.outcome x w = (r, w')) : w'.Names fresh := by
  have kept : (program.after x w).Names fresh := names_after named
  rwa [Runner.after, given] at kept

end StoreProgram

namespace FileStore

open StoreProgram

variable {fresh : String → Prop} {s : FileStore} {q : Path} {α : Type}

/-- A path that is neither on the way to a directory of a store nor the file of a lock. -/
structure Beside (s : FileStore) (name : String) (q : Path) : Prop where
  templates : ¬ q <+: s.templatesPath
  locks : ¬ q <+: s.locksPath
  lock : q ≠ s.lockPath name

theorem avoids_takeLock {name : String} (beside : s.Beside name q) :
    Avoids fresh q (s.takeLock name) := by
  unfold takeLock
  refine Avoids.bind (avoids_attempt ?_ _) fun _ => Avoids.bind (avoids_attempt ?_ _) fun _ =>
    Avoids.bind (avoids_attempt ?_ _) fun _ => Avoids.bind (avoids_perform _ ?_) fun result => ?_
  · exact beside.templates
  · exact beside.locks
  · exact beside.lock
  · exact beside.lock
  · cases result <;> simp

theorem avoids_locked {name : String} (beside : s.Beside name q) {body : StoreProgram α}
    (avoids : Avoids fresh q body) : Avoids fresh q (s.locked name body) := by
  unfold locked
  refine (avoids_takeLock beside).bind fun _ => (avoids_lift avoids).bind fun outcome => ?_
  refine Avoids.bind (avoids_perform _ not_false) fun _ => ?_
  cases outcome <;> simp

/-- Replacing a file touches the way to its directory, the file, and temporary files beside it. -/
theorem avoids_replaceFile {directory target : Path} {stem : String} {content : ByteArray}
    (way : ¬ q <+: directory) (aside : ∀ name, fresh name → q ≠ directory ++ [name])
    (other : q ≠ target) : (replaceFile directory stem target content).Avoids fresh q := by
  unfold replaceFile
  refine Program.Avoids.bind (Program.avoids_perform (.makeDirectories directory) way)
    fun made => ?_
  cases made with
  | error e => trivial
  | ok _ =>
    refine Program.avoids_perform_bind (.makeTemporary directory stem) ?_ fun w named => ?_
    · rintro ⟨name, chosen, same⟩
      exact aside name chosen same
    · cases made : (w.perform (.makeTemporary directory stem)).1 with
      | error e => trivial
      | ok temporary =>
        obtain ⟨rfl, -⟩ := World.makeTemporary_eq_ok made
        have apart := aside _ (named stem)
        refine Program.Avoids.bind
          (Program.avoids_perform (.write (directory ++ [w.temporaryName stem]) content) apart)
          fun written => ?_
        have removed : (Program.perform (.unlink (directory ++ [w.temporaryName stem]))).Avoids fresh q :=
          Program.avoids_perform (.unlink (directory ++ [w.temporaryName stem])) apart
        have moved : (Program.perform (.rename (directory ++ [w.temporaryName stem]) target)).Avoids
            fresh q :=
          Program.avoids_perform _ fun same => same.elim apart other
        cases written with
        | ok _ =>
          refine moved.bind fun result => ?_
          cases result with
          | ok _ => trivial
          | error e => exact removed.bind fun _ => trivial
        | error e => exact removed.bind fun _ => trivial

theorem avoids_replaceDocument {fault : FileFault → StoreFault} {directory target : Path}
    {stem : String} {document : Json} (way : ¬ q <+: directory)
    (aside : ∀ name, fresh name → q ≠ directory ++ [name]) (other : q ≠ target) :
    Avoids fresh q (replaceDocument fault directory stem target document) := by
  unfold replaceDocument
  refine (avoids_lift (avoids_replaceFile way aside other)).bind fun result => ?_
  cases result <;> simp

theorem avoids_readDocument (p : Path) : Avoids fresh q (readDocument p) := by
  unfold readDocument
  refine Avoids.bind (avoids_perform _ not_false) fun result => ?_
  cases result with
  | ok content => exact avoids_ofExcept _
  | error e => trivial

theorem avoids_report (e : JournalEntry) : Avoids fresh q (report e) :=
  avoids_perform _ not_false

/-- Looking for the pointer touches nothing. -/
theorem avoids_defaultId : Avoids fresh q s.defaultId := by
  unfold defaultId
  refine (avoids_readDocument _).bind fun reading => ?_
  cases reading with
  | found document =>
    cases document with
    | object members => trivial
    | _ => exact (avoids_report _).bind fun _ => trivial
  | malformed e => exact (avoids_report _).bind fun _ => trivial
  | _ => trivial

theorem avoids_writeTemplate {t : Template} (way : ¬ q <+: s.templatesPath)
    (aside : ∀ name, fresh name → q ≠ s.templatesPath ++ [name]) (other : q ≠ s.templatePath t.id) :
    Avoids fresh q (s.writeTemplate t) := by
  unfold writeTemplate
  split
  · trivial
  · split
    · exact avoids_replaceDocument way aside other
    · trivial

/-- Storing a template touches its document, temporary files beside it, and what taking its lock
touches. -/
theorem avoids_upsert {t : Template} (beside : s.Beside (templateLock t.id) q)
    (aside : ∀ name, fresh name → q ≠ s.templatesPath ++ [name]) (other : q ≠ s.templatePath t.id) :
    Avoids fresh q (s.upsert t) := by
  unfold upsert
  refine (avoids_locked beside (avoids_writeTemplate beside.templates aside other)).bind fun _ => ?_
  exact (avoids_report _).bind fun _ => avoids_defaultId.bind fun _ => trivial

/-- Pointing to a template touches the pointer, temporary files beside it, and what taking the two
locks touches. -/
theorem avoids_setDefault {id : String} (beside : s.Beside (templateLock id) q)
    (pointer : s.Beside pointerLock q) (way : ¬ q <+: s.root)
    (aside : ∀ name, fresh name → q ≠ s.root ++ [name]) (other : q ≠ s.pointerPath) :
    Avoids fresh q (s.setDefault id) := by
  unfold setDefault
  split
  · refine avoids_locked beside (avoids_locked pointer ?_)
    refine Avoids.bind (avoids_perform _ not_false) fun there => ?_
    split
    · exact avoids_replaceDocument way aside other
    · trivial
  · trivial

theorem avoids_clearPointer {id : String} (pointer : s.Beside pointerLock q)
    (other : q ≠ s.pointerPath) : Avoids fresh q (s.clearPointer id) := by
  unfold clearPointer
  refine avoids_locked pointer (avoids_defaultId.bind fun named => ?_)
  split
  · refine Avoids.bind (avoids_perform (.unlink s.pointerPath) other) fun result => ?_
    cases result with
    | ok _ => trivial
    | error e =>
      dsimp only
      split <;> trivial
  · trivial

/-- Removing a template touches its document, the pointer, and what taking the two locks touches. -/
theorem avoids_delete {id : String} (beside : s.Beside (templateLock id) q)
    (pointer : s.Beside pointerLock q) (document : q ≠ s.templatePath id) (other : q ≠ s.pointerPath) :
    Avoids fresh q (s.delete id) := by
  unfold delete
  split
  · have removes : Avoids fresh q (s.removeTemplate id) := by
      unfold removeTemplate
      refine Avoids.bind (avoids_perform (.unlink (s.templatePath id)) document)
        fun result => ?_
      cases result with
      | ok _ => exact (avoids_clearPointer pointer other).bind fun _ => trivial
      | error e =>
        dsimp only
        split <;> trivial
    refine (avoids_locked beside removes).bind fun removed => ?_
    split
    · exact (avoids_report _).bind fun _ => trivial
    · trivial
  · trivial

end FileStore

end InvoiceForms
