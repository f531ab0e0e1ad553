import InvoiceForms.Proofs.Store.Footprint
import InvoiceForms.Proofs.Store.Reading
import InvoiceForms.Proofs.Store.Resolution
import InvoiceForms.Proofs.Template.Walking

/-!
# What stores fail with

Whatever a file tree holds, a store in it fails only for a template that is no use, because it cannot
be read or written, or because a template is missing, as long as the documents it reads are legible
and can be walked through. The theorem on the fault surface says for each operation where the bounds
of that are: bytes that are no text, integers without measure, sections that are no collection, and a
file in the place of the directory of documents.
-/

namespace InvoiceForms

open InvoiceForms.Record InvoiceForms.Results
open Runner (program)

universe u v

/-- The faults that those who read a store expect. -/
inductive StoreFault.Foreseen : StoreFault → Prop
  | configuration (cause : ConfigurationFault) : Foreseen (.configuration cause)
  | unavailable (cause : Unavailability) : Foreseen (.unavailable cause)

/-- The faults that those who write to a store expect. -/
inductive StoreFault.ForeseenByWriters : StoreFault → Prop
  | foreseen {e : StoreFault} (given : e.Foreseen) : ForeseenByWriters e
  | notFound (id : String) : ForeseenByWriters (.notFound id)

namespace Results

/-- Whether a result, if it is none, is a fault of some kind. -/
def FailsOnly {ε α : Type} (kind : ε → Prop) (x : Except ε α) : Prop := ∀ e, x = .error e → kind e

variable {ε α β : Type} {kind : ε → Prop}

@[simp] theorem failsOnly_ok (a : α) : FailsOnly kind (.ok a) := nofun

@[simp] theorem failsOnly_error (e : ε) : FailsOnly kind (.error e : Except ε α) ↔ kind e :=
  ⟨fun only => only e rfl, fun given _ same => Except.error.inj same ▸ given⟩

@[simp] theorem failsOnly_map (x : Except ε α) (f : α → β) :
    FailsOnly kind (x.map f) ↔ FailsOnly kind x := by
  cases x <;> simp [Except.map]

theorem failsOnly_bind {x : Except ε α} {f : α → Except ε β} :
    FailsOnly kind (x.bind f) ↔ FailsOnly kind x ∧ ∀ a, x = .ok a → FailsOnly kind (f a) := by
  cases x <;> simp [Except.bind]

theorem failsOnly_mapError {φ : Type} {other : φ → Prop} {x : Except ε α} {f : ε → φ}
    (turns : ∀ e, kind e → other (f e)) (only : FailsOnly kind x) : FailsOnly other (x.mapError f) := by
  cases x with
  | ok a => exact failsOnly_ok a
  | error e => exact (failsOnly_error _).mpr (turns e (only e rfl))

variable {good : α → Prop}

/-- Whether a result is of one kind, or else a fault of another. -/
structure Ends (good : α → Prop) (kind : ε → Prop) (x : Except ε α) : Prop where
  gives : ∀ a, x = .ok a → good a
  fails : FailsOnly kind x

theorem ends_ok {a : α} (given : good a) : Ends good kind (.ok a) := by
  refine ⟨?_, failsOnly_ok a⟩
  rintro _ ⟨⟩
  exact given

theorem ends_error {e : ε} (given : kind e) : Ends good kind (.error e : Except ε α) :=
  ⟨nofun, (failsOnly_error e).mpr given⟩

theorem ends_bind {x : Except ε β} {f : β → Except ε α} (first : FailsOnly kind x)
    (rest : ∀ b, Ends good kind (f b)) : Ends good kind (x.bind f) := by
  cases x with
  | ok b => exact rest b
  | error e => exact ends_error (first e rfl)

theorem Ends.mapError {φ : Type} {other : φ → Prop} {x : Except ε α} {f : ε → φ}
    (ends : Ends good kind x) (turns : ∀ e, kind e → other (f e)) : Ends good other (x.mapError f) :=
  ⟨fun a given => ends.gives a (mapError_eq_ok.mp given), failsOnly_mapError turns ends.fails⟩

end Results

/-- Two computations in a row end as the second one does behind the results of the first one. -/
theorem Runner.ends_answer_bind {m : Type → Type u} [Monad m] {σ : Type v} {ε α β : Type}
    {I : Runner m σ} {good : α → Prop} {first : β → Prop} {kind : ε → Prop} {w : σ}
    {x : ExceptT ε m β} {f : β → ExceptT ε m α} (starts : Ends first kind (I.answer x w))
    (rest : ∀ b w', first b → Ends good kind (I.answer (f b) w')) :
    Ends good kind (I.answer (x >>= f) w) := by
  cases given : I.answer x w with
  | ok b =>
    rw [answer_bind_of_ok given]
    exact rest b _ (starts.gives b given)
  | error e =>
    have ends : I.outcome x w = (.error e, I.after x w) := Prod.ext given rfl
    rw [answer, outcome_bind, ends]
    exact ends_error (starts.fails e given)

namespace FileStore

open StoreFault StoreProgram

variable {s : FileStore} {w : World} {tree : FileTree}

/-- Whether the document at a path can be read as far as to say that it is none. -/
def Legible (tree : FileTree) (p : Path) : Prop := ∃ r, readingAt tree p = .ok r

/-- Whether the sections of a document, if it has any, are a collection of collections. -/
def Walkable : Reading → Prop
  | .found (.object members) =>
    ∀ v, sectionsIn? members = some v → Walked (Template.readSections (.ofJson v))
  | _ => True

/-- Whether the document at a path is legible and can be walked through. -/
def Sound (tree : FileTree) (p : Path) : Prop := ∃ r, readingAt tree p = .ok r ∧ Walkable r

/-- Whether what is read is no template. -/
def Unusable (id : String) : Reading → Prop
  | .malformed _ => True
  | .found (.object members) => ∀ isDefault t, templateOf id isDefault members ≠ .ok t
  | .found _ => True
  | _ => False

theorem not_foreseen_of_readingAt {p : Path} {e : StoreFault} (failed : readingAt tree p = .error e) :
    ¬ e.Foreseen := by
  unfold readingAt readingOf at failed
  split at failed
  · split at failed
    · cases failed
      exact nofun
    · split at failed
      · cases failed
      · cases failed
        exact nofun
      · cases failed
  · cases failed

theorem failsOnly_readingAt {p : Path} : FailsOnly Foreseen (readingAt tree p) ↔ Legible tree p := by
  unfold Legible
  cases reading : readingAt tree p with
  | ok r => simp
  | error e => simpa using not_foreseen_of_readingAt reading

/-- Looking for the pointer fails as foreseen exactly when its document is legible. -/
theorem failsOnly_pointed : FailsOnly Foreseen (s.pointed tree) ↔ Legible tree s.pointerPath := by
  unfold pointed
  rw [failsOnly_bind, failsOnly_readingAt, and_iff_left_iff_imp]
  intro legible r reading
  cases r with
  | unreadable e => simpa [pointerOf] using Foreseen.unavailable _
  | found document => cases document <;> simp [pointerOf]
  | _ => simp [pointerOf]

theorem failsOnly_templateOf {id : String} {isDefault : Bool} {members : Entries Json} :
    FailsOnly Foreseen (templateOf id isDefault members) ↔ Walkable (.found (.object members)) := by
  constructor
  · intro only v given cause failed
    cases only _ (templateOf_eq_misuse_iff.mpr ⟨v, given, failed⟩)
  · intro walkable e failed
    rcases templateOf_eq_error failed with ⟨cause, rfl⟩ | ⟨cause, rfl⟩
    · exact .configuration _
    · obtain ⟨v, given, misused⟩ := templateOf_eq_misuse_iff.mp failed
      exact absurd misused (walkable v given cause)

theorem failsOnly_templateIn {id : String} {isDefault : Bool} {r : Reading} :
    FailsOnly Foreseen (templateIn id isDefault r) ↔ Walkable r := by
  cases r with
  | found document =>
    cases document with
    | object members => rw [templateIn, failsOnly_map, failsOnly_templateOf]
    | _ => simpa [templateIn, Walkable] using Foreseen.configuration _
  | absent => simp [templateIn, Walkable]
  | unreadable e => simpa [templateIn, Walkable] using Foreseen.unavailable _
  | malformed e => simpa [templateIn, Walkable] using Foreseen.configuration _

/-- Loading a template fails as foreseen exactly when its document is sound. -/
theorem failsOnly_loaded {id : String} {isDefault : Bool} :
    FailsOnly Foreseen (s.loaded tree id isDefault) ↔
      (TemplateId.isValid id = true → Sound tree (s.templatePath id)) := by
  unfold loaded Sound
  by_cases valid : TemplateId.isValid id = true
  · rw [if_pos valid, failsOnly_bind, failsOnly_readingAt, Legible]
    simp only [valid, forall_const, failsOnly_templateIn]
    constructor
    · rintro ⟨⟨r, reading⟩, walkable⟩
      exact ⟨r, reading, walkable r reading⟩
    · rintro ⟨r, reading, walkable⟩
      refine ⟨⟨r, reading⟩, fun r' same => ?_⟩
      rw [reading] at same
      cases same
      exact walkable
  · rw [if_neg valid]
    simp [valid]

/-- A document that is no template is a fault of its own. -/
theorem loaded_of_unusable {id : String} {r : Reading} (valid : TemplateId.isValid id = true)
    (reading : readingAt tree (s.templatePath id) = .ok r) (walkable : Walkable r)
    (unusable : Unusable id r) (isDefault : Bool) :
    ∃ cause, s.loaded tree id isDefault = .error (.configuration cause) := by
  unfold loaded
  rw [if_pos valid, reading]
  show ∃ cause, templateIn id isDefault r = _
  cases r with
  | absent => cases unusable
  | unreadable e => cases unusable
  | malformed e => exact ⟨_, rfl⟩
  | found document =>
    cases document with
    | object members =>
      show ∃ cause, (templateOf id isDefault members).map some = _
      cases given : templateOf id isDefault members with
      | ok t => exact absurd given (unusable isDefault t)
      | error e =>
        rcases templateOf_eq_error given with ⟨cause, rfl⟩ | ⟨cause, rfl⟩
        · exact ⟨_, rfl⟩
        · obtain ⟨v, inside, misused⟩ := templateOf_eq_misuse_iff.mp given
          exact absurd misused (walkable v inside cause)
    | _ => exact ⟨_, rfl⟩

/-- Only a file in the place of their directory keeps the documents from being listed. -/
theorem documentIds_eq_ok (directory : tree.hasFile s.templatesPath = false) :
    ∃ ids, s.documentIds tree = .ok ids := by
  unfold documentIds
  split
  · next there =>
    unfold FileTree.has at there
    unfold FileTree.hasFile at directory
    unfold FileTree.list
    cases found : tree.find s.templatesPath with
    | error e =>
      rw [found] at there
      cases there
    | ok n =>
      cases n with
      | file content =>
        rw [found] at directory
        cases directory
      | directory => exact ⟨_, rfl⟩
  · exact ⟨[], rfl⟩

/-- A listing of sound documents fails only because one cannot be read. -/
theorem failsOnly_loadedAll {pointer : Option String} {ids : List String}
    (sound : ∀ id ∈ ids, TemplateId.isValid id = true → Sound tree (s.templatePath id)) :
    FailsOnly Foreseen (s.loadedAll tree pointer ids) := by
  unfold loadedAll
  dsimp only
  split
  · next e first =>
    obtain ⟨x, member, ends⟩ := List.exists_of_findSome?_eq_some first
    obtain ⟨id, inside, rfl⟩ := List.mem_map.mp member
    have only : FailsOnly Foreseen (s.loaded tree id (pointer = some id)) :=
      failsOnly_loaded.mpr (sound id inside)
    rw [failsOnly_error]
    cases given : s.loaded tree id (pointer = some id) with
    | ok t =>
      rw [given] at ends
      cases ends
    | error e' =>
      rw [given] at ends
      have foreseen := only e' given
      cases foreseen with
      | configuration cause => cases ends
      | unavailable cause =>
        cases ends
        exact .unavailable cause
  · simp

/-- Whether a file at a path, if there is one, is legible. -/
def LegibleFile (tree : FileTree) (p : Path) : Prop :=
  ∀ content, tree.node? p = some (.file content) → ∃ r, readingOf content = .ok r

theorem LegibleFile.legible {d : Path} {name : String} (legible : LegibleFile tree (d ++ [name])) :
    Legible tree (d ++ [name]) := by
  unfold Legible readingAt
  cases read : tree.read (d ++ [name]) with
  | ok content =>
    have found := FileTree.read_eq_ok_iff.mp read
    obtain ⟨-, -, -, there⟩ := FileTree.walk_concat_eq_ok_iff.mp (FileTree.find_eq_ok_iff.mp found).2
    exact legible content there
  | error e => exact ⟨_, rfl⟩

/-- What the two locks of writers leave of the pointer. -/
theorem beside_pointerPath (s : FileStore) (name : String) : s.Beside name s.pointerPath where
  templates := not_prefix_of_last (by decide)
  locks := not_prefix_of_last (by decide)
  lock := by
    intro same
    have length := congrArg List.length same
    simp [pointerPath, lockPath, locksPath] at length

section Running

variable {α β : Type} {kind : StoreFault → Prop}

/-- Two programs in a row fail with what the first one fails with, or the second one where the first
one ends. -/
theorem failsOnly_answer_bind {x : StoreProgram α} {f : α → StoreProgram β}
    (first : FailsOnly kind (program.answer x w))
    (rest : ∀ a w', program.outcome x w = (.ok a, w') → FailsOnly kind (program.answer (f a) w')) :
    FailsOnly kind (program.answer (x >>= f) w) := by
  rcases given : program.outcome x w with ⟨e | a, w'⟩
  · rw [Runner.answer, outcome_bind_of_error given]
    rw [Runner.answer, given] at first
    simpa using first
  · rw [Runner.answer, outcome_bind_of_ok given]
    exact rest a w' given

@[simp] theorem failsOnly_lift (p : Program α) :
    FailsOnly kind (program.answer (ExceptT.lift p : StoreProgram α) w) := by
  rw [Runner.answer, Runner.outcome_lift]
  simp

@[simp] theorem failsOnly_perform (action : Action α) :
    FailsOnly kind (program.answer (perform action) w) := failsOnly_lift _

theorem failsOnly_attempt {fault : FileFault → StoreFault} (given : ∀ e, kind (fault e))
    (action : Action (Except FileFault α)) : FailsOnly kind (program.answer (attempt fault action) w) := by
  refine failsOnly_answer_bind (failsOnly_perform _) fun result w' _ => ?_
  cases result with
  | ok a => simp
  | error e => simpa using given e

end Running

/-- Taking a lock fails only because the store cannot be written. -/
theorem failsOnly_takeLock (s : FileStore) (name : String) (w : World) :
    FailsOnly Foreseen (program.answer (s.takeLock name) w) := by
  have access (e : FileFault) : (noAccess e).Foreseen := .unavailable _
  unfold takeLock
  refine failsOnly_answer_bind (failsOnly_attempt access _) fun _ _ _ =>
    failsOnly_answer_bind (failsOnly_attempt access _) fun _ _ _ =>
      failsOnly_answer_bind (failsOnly_attempt access _) fun _ _ _ =>
        failsOnly_answer_bind (failsOnly_perform _) fun result _ _ => ?_
  cases result with
  | acquired => simp
  | busy => simpa using Foreseen.unavailable _
  | failed e => simpa using access e

/-- What a program under a lock fails with: that the lock cannot be taken, or what the program itself
fails with behind taking it. -/
theorem failsOnly_locked {α : Type} {kind : StoreFault → Prop} {name : String}
    {body : StoreProgram α} (foreseen : ∀ e, e.Foreseen → kind e)
    (inside : FailsOnly kind (program.answer body (program.after (s.takeLock name) w))) :
    FailsOnly kind (program.answer (s.locked name body) w) := by
  unfold locked
  refine failsOnly_answer_bind (fun e failed => foreseen e (failsOnly_takeLock s name w e failed))
    fun _ w₁ taken => ?_
  have after : program.after (s.takeLock name) w = w₁ := congrArg Prod.snd taken
  rw [after] at inside
  refine failsOnly_answer_bind (failsOnly_lift _) fun outcome w₂ ran => ?_
  refine failsOnly_answer_bind (failsOnly_perform _) fun _ _ _ => ?_
  rw [Runner.outcome_lift] at ran
  cases outcome with
  | ok a => simp
  | error e => simpa using inside e (Except.ok.inj (congrArg Prod.fst ran))

/-- Replacing a document fails in one way. -/
theorem failsOnly_replaceDocument {kind : StoreFault → Prop} {fault : FileFault → StoreFault}
    (given : ∀ e, kind (fault e)) (directory : Path) (stem : String) (target : Path) (document : Json)
    (w : World) :
    FailsOnly kind (program.answer (replaceDocument fault directory stem target document) w) := by
  unfold replaceDocument
  refine failsOnly_answer_bind (failsOnly_lift _) fun result _ _ => ?_
  cases result with
  | ok _ => simp
  | error e => simpa using given e

/-- Looking for the pointer of a store fails as foreseen where its file is legible. -/
theorem failsOnly_defaultId (legible : LegibleFile w.tree s.pointerPath) :
    FailsOnly Foreseen (program.answer s.defaultId w) := by
  rw [answer_defaultId]
  exact failsOnly_pointed.mpr legible.legible

/-- What avoids the file of the pointer leaves it legible. -/
theorem LegibleFile.after {α : Type} {x : StoreProgram α} {a : α} {w' : World} {p : Path}
    (legible : LegibleFile w.tree p) (avoids : Avoids (fun _ => True) p x)
    (given : program.outcome x w = (.ok a, w')) : LegibleFile w'.tree p := by
  have same := avoids.node?_of_outcome (fun _ => trivial) given
  unfold LegibleFile
  rwa [same]

/-- Storing a template that can be written fails as foreseen where the file of the pointer is
legible. -/
theorem failsOnly_upsert {t : Template} (decodable : Template.schema.undecodable? t = none)
    (few : t.toDocument.hasReadableIntegers = true) (legible : LegibleFile w.tree s.pointerPath) :
    FailsOnly Foreseen (program.answer (s.upsert t) w) := by
  have replaces : s.writeTemplate t = replaceDocument
      (fun e => .unavailable (.writeTemplate t.id e)) s.templatesPath t.id (s.templatePath t.id)
      t.toDocument := by
    unfold writeTemplate
    rw [decodable]
    exact if_pos few
  have length : ∀ name, s.pointerPath ≠ s.templatesPath ++ [name] := by
    intro name same
    have := congrArg List.length same
    simp [pointerPath, templatesPath] at this
  have beside := beside_pointerPath s (templateLock t.id)
  unfold upsert
  refine failsOnly_answer_bind (failsOnly_locked (fun _ => id) ?_) fun _ w₁ stored => ?_
  · rw [replaces]
    exact failsOnly_replaceDocument (fun e => .unavailable _) _ _ _ _ _
  · have legible₁ := legible.after (avoids_locked beside
      (avoids_writeTemplate beside.templates (fun name _ => length name) (length _))) stored
    refine failsOnly_answer_bind (failsOnly_perform _) fun _ w₂ reported => ?_
    have legible₂ := legible₁.after (avoids_report _) reported
    exact failsOnly_answer_bind (failsOnly_defaultId legible₂) fun _ _ _ => by simp

/-- Pointing to a template fails as those who write expect, whatever the tree holds. -/
theorem failsOnly_setDefault (s : FileStore) (id : String) (w : World) :
    FailsOnly ForeseenByWriters (program.answer (s.setDefault id) w) := by
  unfold setDefault
  split
  · refine failsOnly_locked (fun _ => .foreseen) (failsOnly_locked (fun _ => .foreseen) ?_)
    refine failsOnly_answer_bind (failsOnly_perform _) fun there _ _ => ?_
    split
    · exact failsOnly_replaceDocument (fun e => .foreseen (.unavailable _)) _ _ _ _ _
    · simpa using ForeseenByWriters.notFound id
  · simpa using ForeseenByWriters.notFound id

/-- A pointer that names a template is in a file, which can be removed. -/
theorem unlink_pointer {id : String} (named : s.pointed tree = .ok (some id)) :
    ∃ tree', tree.unlink s.pointerPath = .ok tree' := by
  unfold pointed readingAt at named
  cases read : tree.read s.pointerPath with
  | ok content =>
    have found := FileTree.read_eq_ok_iff.mp read
    exact ⟨tree.remove s.pointerPath, bind_eq_ok.mpr ⟨_, found, rfl⟩⟩
  | error e =>
    rw [read] at named
    change pointerOf (if e.cause = .missing then _ else _) = _ at named
    split at named <;> cases named

/-- Taking the pointer back fails as foreseen where its file is legible. -/
theorem failsOnly_clearPointer {id : String} (legible : LegibleFile w.tree s.pointerPath) :
    FailsOnly Foreseen (program.answer (s.clearPointer id) w) := by
  unfold clearPointer
  refine failsOnly_locked (fun _ given => given) ?_
  have legible₁ : LegibleFile (program.after (s.takeLock pointerLock) w).tree s.pointerPath := by
    have avoids : Avoids (fun _ => True) s.pointerPath (s.takeLock pointerLock) :=
      avoids_takeLock (beside_pointerPath s pointerLock)
    unfold LegibleFile
    rwa [avoids.node?_after fun _ => trivial]
  generalize program.after (s.takeLock pointerLock) w = w₁ at legible₁
  refine failsOnly_answer_bind (failsOnly_defaultId legible₁) fun named w₂ looked => ?_
  obtain ⟨journal, ends⟩ := outcome_defaultId s w₁
  obtain ⟨pointed, rfl⟩ := Prod.mk.inj (looked.symm.trans ends)
  split
  · next same =>
    obtain ⟨tree', removed⟩ := unlink_pointer (s := s) (pointed.symm.trans (congrArg Except.ok same))
    have done : (World.perform { w₁ with journal := journal } (.unlink s.pointerPath)).1 = .ok () := by
      show (World.change _ (w₁.tree.unlink s.pointerPath)).1 = _
      rw [removed]
      rfl
    rw [Runner.answer, outcome_bind_of_ok (outcome_perform _ _), done]
    simp
  · simp

/-- Removing a template fails as foreseen where the file of the pointer is legible. -/
theorem failsOnly_delete {id : String} (legible : LegibleFile w.tree s.pointerPath) :
    FailsOnly Foreseen (program.answer (s.delete id) w) := by
  unfold delete
  split
  · refine failsOnly_answer_bind (failsOnly_locked (fun _ given => given) ?_) fun removed _ _ => ?_
    · have beside := beside_pointerPath s (templateLock id)
      have document : s.pointerPath ≠ s.templatePath id := by
        intro same
        have length := congrArg List.length same
        simp [pointerPath, templatePath, templatesPath] at length
      have locks : Avoids (fun _ => True) s.pointerPath (s.takeLock (templateLock id)) :=
        avoids_takeLock beside
      have legible₁ : LegibleFile (program.after (s.takeLock (templateLock id)) w).tree
          s.pointerPath := by
        unfold LegibleFile
        rwa [locks.node?_after fun _ => trivial]
      unfold removeTemplate
      refine failsOnly_answer_bind (failsOnly_perform _) fun result w₂ unlinked => ?_
      have unlinks : Avoids (fun _ => True) s.pointerPath (perform (.unlink (s.templatePath id))) :=
        avoids_perform _ document
      cases result with
      | ok _ =>
        refine failsOnly_answer_bind (failsOnly_clearPointer (legible₁.after unlinks unlinked)) ?_
        intros
        simp
      | error e =>
        dsimp only
        split
        · simp
        · simpa using Foreseen.unavailable _
    · split
      · exact failsOnly_answer_bind (failsOnly_perform _) fun _ _ _ => by simp
      · simp
  · simp

/-- Getting a template fails as foreseen exactly when the pointer is legible and its document sound. -/
theorem failsOnly_get {id : String} : FailsOnly Foreseen (program.answer (s.get id) w) ↔
    Legible w.tree s.pointerPath ∧
      ((∃ pointer, s.pointed w.tree = .ok pointer) → TemplateId.isValid id = true →
        Sound w.tree (s.templatePath id)) := by
  obtain ⟨journal, ends⟩ := outcome_get s id w
  rw [Runner.answer, ends, failsOnly_bind, failsOnly_pointed]
  refine and_congr_right fun _ => ?_
  simp only [failsOnly_loaded, forall_exists_index]

theorem failsOnly_getDefault : FailsOnly Foreseen (program.answer s.getDefault w) ↔
    Legible w.tree s.pointerPath ∧
      ∀ id, s.pointed w.tree = .ok (some id) → TemplateId.isValid id = true →
        Sound w.tree (s.templatePath id) := by
  obtain ⟨journal, ends⟩ := outcome_getDefault s w
  rw [Runner.answer, ends, failsOnly_bind, failsOnly_pointed]
  refine and_congr_right fun _ => ?_
  constructor
  · intro only id named
    exact failsOnly_loaded.mp (only (some id) named)
  · intro sound pointer named
    cases pointer with
    | none => exact failsOnly_ok _
    | some id => exact failsOnly_loaded.mpr (sound id named)

/-- What listing answers where the pointer can be read. -/
theorem answer_list {pointer : Option String} {ids : List String}
    (named : s.pointed w.tree = .ok pointer) (stored : s.documentIds w.tree = .ok ids) :
    program.answer s.list w = s.loadedAll w.tree pointer ids := by
  obtain ⟨journal, ends⟩ := outcome_list s w
  rw [Runner.answer, ends, named, stored]
  rfl

theorem answer_get {pointer : Option String} (named : s.pointed w.tree = .ok pointer) (id : String) :
    program.answer (s.get id) w = s.loaded w.tree id (pointer = some id) := by
  obtain ⟨journal, ends⟩ := outcome_get s id w
  rw [Runner.answer, ends, named]
  rfl

/-- Where each document is a template or no use, the templates among them are listed. -/
theorem list_of_each {pointer : Option String} {ids : List String}
    (named : s.pointed w.tree = .ok pointer) (stored : s.documentIds w.tree = .ok ids)
    (each : ∀ id ∈ ids, FailsOnly (∃ cause, · = .configuration cause) (program.answer (s.get id) w)) :
    program.answer s.list w =
      .ok (ids.filterMap fun id => listed? (program.answer (s.get id) w)) := by
  have none_ends : (ids.map fun id => s.loaded w.tree id (pointer = some id)).findSome? endsListing? =
      none := by
    rw [List.findSome?_eq_none_iff]
    intro x member
    obtain ⟨id, inside, rfl⟩ := List.mem_map.mp member
    have only := each id inside
    rw [answer_get named] at only
    cases given : s.loaded w.tree id (pointer = some id) with
    | ok t => rfl
    | error e =>
      obtain ⟨cause, rfl⟩ := only e given
      rfl
  have same : (listed? ∘ fun id => s.loaded w.tree id (pointer = some id)) =
      fun id => listed? (program.answer (s.get id) w) := by
    funext id
    rw [Function.comp_apply, answer_get named]
  rw [answer_list named stored, loadedAll, none_ends, List.filterMap_map, same]

end FileStore

namespace Resolver

variable {w w' : World} {cause : ConfigurationFault}

/-- A search that finds a template of no use is reported and passed over. -/
theorem outcome_usable_of_configuration (r : Resolver Program) (label : String)
    {fetch : StoreProgram (Option Template)}
    (given : program.outcome fetch w = (.error (.configuration cause), w')) :
    program.outcome (r.usable label fetch) w = (.ok none, program.after (r.report (entry .warning
      ("Template " ++ label ++ " could not be loaded: " ++ cause.message)
      [("template", .text label)])) w') := by
  have run : program.run fetch.run w = (.error (.configuration cause), w') := given
  unfold usable
  rw [Runner.outcome_bind, Runner.outcome_lift, run]
  show program.outcome (r.report _ >>= fun _ => pure none) w' = _
  rw [Runner.outcome_bind, report, Runner.after, Runner.outcome_lift]
  rfl

end Resolver

namespace FileStore

open StoreFault

variable {s : FileStore} {w : World}

/-- Resolving passes over a template that is asked for and no use. -/
theorem resolve_of_configuration (v : Validator) {id : String} (nonempty : id ≠ "")
    {cause : ConfigurationFault} (given : program.answer (s.get id) w = .error (.configuration cause)) :
    ∃ journal, program.answer (Resolver.resolve ⟨s.operations, v⟩ (some id)) w =
      program.answer (Resolver.resolveDefault ⟨s.operations, v⟩) { w with journal := journal } := by
  obtain ⟨journal, ends⟩ := outcome_get s id w
  have searched : program.outcome (s.get id) w =
      (.error (.configuration cause), { w with journal := journal }) :=
    Prod.ext given (by rw [ends])
  have passed := Resolver.outcome_usable_of_configuration ⟨s.operations, v⟩ id searched
  change program.outcome (Resolver.usable _ id (s.operations.get id)) w = _ at passed
  have asked : (some id).filter (· ≠ "") = some id := by simp [Option.filter, nonempty]
  unfold Resolver.resolve
  rw [asked]
  dsimp only
  rw [Runner.answer, StoreProgram.outcome_bind_of_ok passed]
  exact ⟨_, rfl⟩

/-- Resolving passes over a default template that is no use. -/
theorem resolveDefault_of_configuration (v : Validator) {cause : ConfigurationFault}
    (given : program.answer s.getDefault w = .error (.configuration cause)) :
    program.answer (Resolver.resolveDefault ⟨s.operations, v⟩) w =
      .ok ⟨Builtin.template, .builtin⟩ := by
  obtain ⟨journal, ends⟩ := outcome_getDefault s w
  have searched : program.outcome s.getDefault w =
      (.error (.configuration cause), { w with journal := journal }) :=
    Prod.ext given (by rw [ends])
  have passed := Resolver.outcome_usable_of_configuration ⟨s.operations, v⟩ Resolver.defaultLabel
    searched
  change program.outcome (Resolver.usable _ Resolver.defaultLabel s.operations.getDefault) w = _
    at passed
  unfold Resolver.resolveDefault
  rw [Runner.answer, StoreProgram.outcome_bind_of_ok passed]
  rfl

/-- The faults that the operations of a store end in, for one file tree. -/
structure FaultSurface (s : FileStore) (w : World) : Prop where
  /-- The searches fail as foreseen exactly when what they read is legible and can be walked through. -/
  defaultId : FailsOnly Foreseen (program.answer s.defaultId w) ↔ Legible w.tree s.pointerPath
  get : ∀ id, FailsOnly Foreseen (program.answer (s.get id) w) ↔
    Legible w.tree s.pointerPath ∧ ((∃ pointer, s.pointed w.tree = .ok pointer) →
      TemplateId.isValid id = true → Sound w.tree (s.templatePath id))
  getDefault : FailsOnly Foreseen (program.answer s.getDefault w) ↔
    Legible w.tree s.pointerPath ∧ ∀ id, s.pointed w.tree = .ok (some id) →
      TemplateId.isValid id = true → Sound w.tree (s.templatePath id)
  list : Legible w.tree s.pointerPath → w.tree.hasFile s.templatesPath = false →
    (∀ ids, s.documentIds w.tree = .ok ids → ∀ id ∈ ids, TemplateId.isValid id = true →
      Sound w.tree (s.templatePath id)) →
    FailsOnly Foreseen (program.answer s.list w)
  /-- The changes fail as foreseen where the file of the pointer is legible. -/
  upsert : ∀ t, Template.schema.undecodable? t = none → t.toDocument.hasReadableIntegers = true →
    LegibleFile w.tree s.pointerPath → FailsOnly Foreseen (program.answer (s.upsert t) w)
  setDefault : ∀ id, FailsOnly ForeseenByWriters (program.answer (s.setDefault id) w)
  delete : ∀ id, LegibleFile w.tree s.pointerPath →
    FailsOnly Foreseen (program.answer (s.delete id) w)
  /-- A sound document that is no template is a fault of configuration, it alone is left out of
  listings, and resolving passes it over. -/
  refused : ∀ id r, TemplateId.isValid id = true → (∃ pointer, s.pointed w.tree = .ok pointer) →
    readingAt w.tree (s.templatePath id) = .ok r → Walkable r → Unusable id r →
    ∃ cause, program.answer (s.get id) w = .error (.configuration cause)
  listed : ∀ pointer ids, s.pointed w.tree = .ok pointer → s.documentIds w.tree = .ok ids →
    (∀ id ∈ ids, FailsOnly (∃ cause, · = .configuration cause) (program.answer (s.get id) w)) →
    program.answer s.list w = .ok (ids.filterMap fun id => listed? (program.answer (s.get id) w))
  resolved : ∀ v id cause, id ≠ "" →
    program.answer (s.get id) w = .error (.configuration cause) →
    ∃ journal, program.answer (Resolver.resolve ⟨s.operations, v⟩ (some id)) w =
      program.answer (Resolver.resolveDefault ⟨s.operations, v⟩) { w with journal := journal }
  resolvedDefault : ∀ v cause, program.answer s.getDefault w = .error (.configuration cause) →
    program.answer (Resolver.resolveDefault ⟨s.operations, v⟩) w = .ok ⟨Builtin.template, .builtin⟩

/-- Whatever a tree holds, its store fails as foreseen but for documents that are illegible or cannot
be walked through, templates that cannot be written, and a file in the place of a directory. -/
theorem faultSurface (s : FileStore) (w : World) : s.FaultSurface w where
  defaultId := by
    rw [answer_defaultId]
    exact failsOnly_pointed
  get _ := failsOnly_get
  getDefault := failsOnly_getDefault
  list := by
    intro legible directory sound
    obtain ⟨ids, stored⟩ := documentIds_eq_ok directory
    obtain ⟨journal, ends⟩ := outcome_list s w
    rw [Runner.answer, ends, failsOnly_bind, failsOnly_pointed]
    refine ⟨legible, fun pointer _ => ?_⟩
    rw [stored]
    exact failsOnly_loadedAll (sound ids stored)
  upsert _ := failsOnly_upsert
  setDefault id := failsOnly_setDefault s id w
  delete _ := failsOnly_delete
  refused := by
    rintro id r valid ⟨pointer, named⟩ reading walkable unusable
    rw [answer_get named]
    exact loaded_of_unusable valid reading walkable unusable _
  listed _ _ := list_of_each
  resolved v _ _ nonempty := resolve_of_configuration v nonempty
  resolvedDefault v _ := resolveDefault_of_configuration v

/-- A tree with one document, which is a byte that no text holds. -/
def garbled : FileTree :=
  ⟨[(["templates"], .directory), (["templates", "a.json"], .file ⟨#[0xFF]⟩)]⟩

/-- A byte that no text holds is a fault that nobody expects: getting its template, listing all
templates and resolving end in it. -/
theorem garbled_not_foreseen : ∃ e : StoreFault, ¬ e.Foreseen ∧
    program.answer (FileStore.get ⟨[]⟩ "a") { tree := garbled } = .error e ∧
    program.answer (FileStore.list ⟨[]⟩) { tree := garbled } = .error e ∧
    program.answer (Resolver.resolve ⟨FileStore.operations ⟨[]⟩, {}⟩ (some "a")) { tree := garbled } =
      .error e := by
  refine ⟨.undecodable ⟨.utf8, 0xFF, 0, 1, .badStart⟩, nofun, ?_, ?_, ?_⟩
  · rfl
  · have stored : documentIds ⟨[]⟩ garbled = .ok ["a"] := by decide +kernel
    have named : pointed ⟨[]⟩ garbled = .ok none := rfl
    exact (answer_list named stored).trans rfl
  · rfl

end FileStore

end InvoiceForms
