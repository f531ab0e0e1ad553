import InvoiceForms.Proofs.Store.Footprint
import InvoiceForms.Store.Governor
import InvoiceForms.Store.Resolver

/-!
# What the operations of a store do

A program performs actions of a kind only, when all it does is of that kind, whatever its actions give.
The operations that read a store only look. Those that write it do deeds: `FileStore.Deed` lists them,
also those behind an action that fails, with what it takes to remove documents and to point to one.
-/

namespace InvoiceForms

/-- Whether an action changes neither files nor locks. -/
def Action.Looks : {α : Type} → Action α → Prop
  | _, .read _ | _, .has _ | _, .hasFile _ | _, .list _ | _, .report _ | _, .now => True
  | _, .makeDirectories _ | _, .touch _ | _, .acquire _ | _, .release _ | _, .makeTemporary _ _
  | _, .write _ _ | _, .append _ _ | _, .rename _ _ | _, .unlink _ => False

theorem World.tree_perform_of_looks {α : Type} {action : Action α} (looks : action.Looks) (w : World) :
    (w.perform action).2.tree = w.tree := by
  cases action with
  | read | has | hasFile | list | report | now => rfl
  | _ => cases looks

namespace Program

variable {fresh : String → Prop} {allowed wider : {β : Type} → Action β → Prop} {α β : Type}

/-- Whether a program performs actions of a kind only, whatever their results are. -/
def Only (fresh : String → Prop) (allowed : {β : Type} → Action β → Prop) : Program α → Prop
  | done _ => True
  | act action next => allowed action ∧
    ∀ w : World, w.Names fresh → (next (w.perform action).1).Only fresh allowed

theorem Only.bind {p : Program α} {f : α → Program β} (first : p.Only fresh allowed)
    (rest : ∀ a, (f a).Only fresh allowed) : (p >>= f).Only fresh allowed := by
  induction p with
  | done a => exact rest a
  | act action next ih => exact ⟨first.1, fun w named => ih _ (first.2 w named)⟩

theorem Only.mono {p : Program α} (only : p.Only fresh allowed)
    (kinds : ∀ {γ : Type} {action : Action γ}, allowed action → wider action) :
    p.Only fresh wider := by
  induction p with
  | done a => trivial
  | act action next ih => exact ⟨kinds only.1, fun w named => ih _ (only.2 w named)⟩

theorem only_perform {action : Action α} (may : allowed action) :
    (perform action).Only fresh allowed := ⟨may, fun _ _ => trivial⟩

/-- A program that only looks leaves the files as they are. -/
theorem Only.tree_run {p : Program α} (looks : p.Only fresh Action.Looks) {w : World}
    (named : w.Names fresh) : (p.run w).2.tree = w.tree := by
  induction p generalizing w with
  | done a => rfl
  | act action next ih =>
    have rest := ih _ (looks.2 w named) (named.perform action)
    exact rest.trans (World.tree_perform_of_looks looks.1 w)

end Program

section Results

variable {fresh : String → Prop} {allowed wider : {β : Type} → Action β → Prop} {ε α β : Type}

/-- Whether a program that may fail performs actions of a kind only, whatever their results are. -/
def Only (fresh : String → Prop) (allowed : {β : Type} → Action β → Prop) (x : ExceptT ε Program α) :
    Prop := Program.Only fresh allowed x.run

theorem only_pure (a : α) : Only fresh allowed (pure a : ExceptT ε Program α) := trivial

theorem only_throw (e : ε) : Only fresh allowed (throw e : ExceptT ε Program α) := trivial

theorem only_ofExcept (x : Except ε α) :
    Only fresh allowed (MonadExcept.ofExcept x : ExceptT ε Program α) := by
  cases x <;> trivial

theorem only_lift {p : Program α} (only : p.Only fresh allowed) :
    Only fresh allowed (ExceptT.lift p : ExceptT ε Program α) :=
  Program.Only.bind only fun _ => trivial

namespace Only

theorem bind {x : ExceptT ε Program α} {f : α → ExceptT ε Program β} (first : Only fresh allowed x)
    (rest : ∀ a, Only fresh allowed (f a)) : Only fresh allowed (x >>= f) := by
  refine Program.Only.bind (p := x.run) (f := ExceptT.bindCont f) first fun outcome => ?_
  cases outcome with
  | ok a => exact rest a
  | error e => trivial

theorem mono {x : ExceptT ε Program α} (only : Only fresh allowed x)
    (kinds : ∀ {γ : Type} {action : Action γ}, allowed action → wider action) : Only fresh wider x :=
  Program.Only.mono only kinds

end Only

end Results

namespace StoreProgram

variable {fresh : String → Prop} {allowed : {β : Type} → Action β → Prop} {α : Type}

theorem only_perform {action : Action α} (may : allowed action) :
    Only fresh allowed (perform action) := only_lift (Program.only_perform may)

theorem only_attempt {action : Action (Except FileFault α)} (may : allowed action)
    (fault : FileFault → StoreFault) : Only fresh allowed (attempt fault action) := by
  refine (only_perform may).bind fun result => ?_
  cases result with
  | ok a => exact only_pure a
  | error e => exact only_throw _

theorem looks_report (e : JournalEntry) : Only fresh Action.Looks (report e) := only_perform trivial

end StoreProgram

namespace FileStore

open StoreProgram

variable {fresh : String → Prop} {s : FileStore}

/-- Whether a kind of actions includes all that reading a store takes: to read the pointer and the
documents of ids, to ask what is there, and to report. -/
structure Reads (s : FileStore) (allowed : {β : Type} → Action β → Prop) : Prop where
  pointer : allowed (.read s.pointerPath)
  document : ∀ id, TemplateId.isValid id = true → allowed (.read (s.templatePath id))
  has : ∀ p, allowed (.has p)
  hasFile : ∀ p, allowed (.hasFile p)
  list : ∀ p, allowed (.list p)
  report : ∀ e, allowed (.report e)

theorem reads_looks : s.Reads Action.Looks where
  pointer := trivial
  document _ _ := trivial
  has _ := trivial
  hasFile _ := trivial
  list _ := trivial
  report _ := trivial

section Reading

variable {allowed : {β : Type} → Action β → Prop} (reads : s.Reads allowed)

theorem only_readDocument {p : Path} (may : allowed (.read p)) :
    Only fresh allowed (readDocument p) := by
  unfold readDocument
  refine (StoreProgram.only_perform may).bind fun result => ?_
  cases result with
  | ok content => exact only_ofExcept _
  | error e => exact only_pure _

include reads

theorem only_report (e : JournalEntry) : Only fresh allowed (report e) :=
  StoreProgram.only_perform (reads.report e)

theorem only_defaultId : Only fresh allowed s.defaultId := by
  unfold defaultId
  refine (only_readDocument reads.pointer).bind fun reading => ?_
  cases reading with
  | absent => exact only_pure _
  | unreadable e => exact only_throw _
  | malformed e => exact (only_report reads _).bind fun _ => only_pure _
  | found document =>
    cases document with
    | object members => exact only_pure _
    | _ => exact (only_report reads _).bind fun _ => only_pure _

/-- Loading a template reads a document only when its id is one. -/
theorem only_load (id : String) (isDefault : Bool) : Only fresh allowed (s.load id isDefault) := by
  unfold load
  split
  · next valid =>
    refine (only_readDocument (reads.document id valid)).bind fun reading => ?_
    cases reading with
    | absent => exact only_pure _
    | unreadable e => exact only_throw _
    | malformed e => exact only_throw _
    | found document =>
      cases document with
      | object members => exact (only_ofExcept _).bind fun _ => only_pure _
      | _ => exact only_throw _
  · exact only_pure _

theorem only_get (id : String) : Only fresh allowed (s.get id) :=
  (only_defaultId reads).bind fun _ => only_load reads _ _

theorem only_getDefault : Only fresh allowed s.getDefault := by
  unfold getDefault
  refine (only_defaultId reads).bind fun pointer => ?_
  cases pointer with
  | none => exact only_pure _
  | some id =>
    refine (only_load reads id true).bind fun found => ?_
    dsimp only
    split
    · exact (only_report reads _).bind fun _ => only_pure _
    · exact only_pure _

theorem only_filesAmong (names : List String) : Only fresh allowed (s.filesAmong names) := by
  induction names with
  | nil => exact only_pure _
  | cons name rest ih =>
    unfold filesAmong
    exact (StoreProgram.only_perform (reads.hasFile _)).bind fun _ => ih.bind fun _ => only_pure _

theorem only_storedIds : Only fresh allowed s.storedIds := by
  unfold storedIds
  refine (StoreProgram.only_perform (reads.has _)).bind fun there => ?_
  split
  · refine (only_attempt (reads.list _) _).bind fun names => ?_
    exact (only_filesAmong reads names).bind fun _ => only_pure _
  · exact only_pure _

theorem only_loadAll (pointer : Option String) (ids : List String) :
    Only fresh allowed (s.loadAll pointer ids) := by
  induction ids with
  | nil => exact only_pure _
  | cons id rest ih =>
    unfold loadAll
    refine (only_lift (p := (s.load id _).run) (only_load reads id _)).bind fun outcome => ?_
    split
    · exact ih.bind fun _ => only_pure _
    · exact ih
    · exact (only_report reads _).bind fun _ => ih
    · exact only_throw _

theorem only_list : Only fresh allowed s.list :=
  (only_defaultId reads).bind fun _ => (only_storedIds reads).bind fun _ => only_loadAll reads _ _

end Reading

section Looking

theorem looks_defaultId : Only fresh Action.Looks s.defaultId := only_defaultId reads_looks

theorem looks_get (id : String) : Only fresh Action.Looks (s.get id) := only_get reads_looks id

theorem looks_getDefault : Only fresh Action.Looks s.getDefault := only_getDefault reads_looks

theorem looks_list : Only fresh Action.Looks s.list := only_list reads_looks

variable {v : Validator}

theorem looks_usable (label : String) {fetch : StoreProgram (Option Template)}
    (looks : Only fresh Action.Looks fetch) :
    Only fresh Action.Looks (Resolver.usable ⟨s.operations, v⟩ label fetch) := by
  have reports (e : JournalEntry) :
      Only fresh Action.Looks (Resolver.report ⟨s.operations, v⟩ e) := looks_report e
  unfold Resolver.usable
  refine (only_lift (p := fetch.run) looks).bind fun outcome => ?_
  split
  · exact (reports _).bind fun _ => only_pure _
  · exact only_throw _
  · split
    · exact (reports _).bind fun _ => only_pure _
    · exact only_pure _
  · split
    · exact only_throw _
    · split
      · exact (reports _).bind fun _ => only_pure _
      · exact only_pure _

theorem looks_resolveDefault :
    Only fresh Action.Looks (Resolver.resolveDefault ⟨s.operations, v⟩) := by
  unfold Resolver.resolveDefault
  refine (looks_usable _ looks_getDefault).bind fun found => ?_
  cases found with
  | some t => exact only_pure _
  | none => exact (looks_report _).bind fun _ => only_pure _

theorem looks_resolve (requested : Option String) :
    Only fresh Action.Looks (Resolver.resolve ⟨s.operations, v⟩ requested) := by
  unfold Resolver.resolve
  cases requested.filter (· ≠ "") with
  | none => exact looks_resolveDefault
  | some id =>
    refine (looks_usable id (looks_get id)).bind fun found => ?_
    cases found with
    | some t => exact only_pure _
    | none => exact looks_resolveDefault

end Looking

/-- Whether a kind of actions includes all that it takes to hold a lock. -/
structure Locks (s : FileStore) (allowed : {β : Type} → Action β → Prop) (name : String) : Prop where
  templates : allowed (.makeDirectories s.templatesPath)
  locks : allowed (.makeDirectories s.locksPath)
  touch : allowed (.touch (s.lockPath name))
  acquire : allowed (.acquire (s.lockPath name))
  release : allowed (.release (s.lockPath name))

/-- Whether a kind of actions includes all that it takes to replace a file: to make its directory, and
to make, write, and move or remove a temporary file there. -/
structure Replaces (fresh : String → Prop) (allowed : {β : Type} → Action β → Prop)
    (directory : Path) (stem : String) (target : Path) : Prop where
  ensure : allowed (.makeDirectories directory)
  make : allowed (.makeTemporary directory stem)
  write : ∀ name content, fresh name → allowed (.write (directory ++ [name]) content)
  move : ∀ name, fresh name → allowed (.rename (directory ++ [name]) target)
  discard : ∀ name, fresh name → allowed (.unlink (directory ++ [name]))

section Changing

variable {allowed : {β : Type} → Action β → Prop} {α : Type} {name id : String}

theorem only_takeLock (locks : s.Locks allowed name) : Only fresh allowed (s.takeLock name) := by
  unfold takeLock
  refine (only_attempt locks.templates _).bind fun _ => (only_attempt locks.locks _).bind fun _ =>
    (only_attempt locks.touch _).bind fun _ =>
      (StoreProgram.only_perform locks.acquire).bind fun result => ?_
  cases result with
  | acquired => exact only_pure _
  | busy => exact only_throw _
  | failed e => exact only_throw _

theorem only_locked (locks : s.Locks allowed name) {body : StoreProgram α}
    (only : Only fresh allowed body) : Only fresh allowed (s.locked name body) := by
  unfold locked
  refine (only_takeLock locks).bind fun _ => (only_lift (p := body.run) only).bind fun outcome =>
    (StoreProgram.only_perform locks.release).bind fun _ => ?_
  cases outcome with
  | ok a => exact only_pure _
  | error e => exact only_throw _

theorem only_replaceFile {directory target : Path} {stem : String}
    (replaces : Replaces fresh allowed directory stem target) (content : ByteArray) :
    (replaceFile directory stem target content).Only fresh allowed := by
  unfold replaceFile
  refine Program.Only.bind (Program.only_perform replaces.ensure) fun made => ?_
  cases made with
  | error e => trivial
  | ok _ =>
    refine ⟨replaces.make, fun w named => ?_⟩
    cases made : (w.perform (.makeTemporary directory stem)).1 with
    | error e => trivial
    | ok temporary =>
      -- The temporary file has the name that the world gave it.
      obtain ⟨rfl, -⟩ := World.makeTemporary_eq_ok made
      have isFresh := named stem
      have discards : (Program.perform (.unlink (directory ++ [w.temporaryName stem]))).Only fresh
          allowed := Program.only_perform (replaces.discard _ isFresh)
      refine (Program.only_perform (replaces.write _ content isFresh)).bind fun written => ?_
      cases written with
      | error e => exact discards.bind fun _ => trivial
      | ok _ =>
        refine (Program.only_perform (replaces.move _ isFresh)).bind fun moved => ?_
        cases moved with
        | ok _ => trivial
        | error e => exact discards.bind fun _ => trivial

theorem only_replaceDocument {fault : FileFault → StoreFault} {directory target : Path} {stem : String}
    (replaces : Replaces fresh allowed directory stem target) (document : Json) :
    Only fresh allowed (replaceDocument fault directory stem target document) := by
  unfold replaceDocument
  refine (only_lift (only_replaceFile replaces _)).bind fun result => ?_
  cases result with
  | ok _ => exact only_pure _
  | error e => exact only_throw _

theorem only_writeTemplate {t : Template}
    (replaces : Replaces fresh allowed s.templatesPath t.id (s.templatePath t.id)) :
    Only fresh allowed (s.writeTemplate t) := by
  unfold writeTemplate
  split
  · exact only_throw _
  · split
    · exact only_replaceDocument replaces _
    · exact only_throw _

theorem only_upsert (reads : s.Reads allowed) {t : Template} (locks : s.Locks allowed (templateLock t.id))
    (replaces : Replaces fresh allowed s.templatesPath t.id (s.templatePath t.id)) :
    Only fresh allowed (s.upsert t) := by
  unfold upsert
  refine (only_locked locks (only_writeTemplate replaces)).bind fun _ => ?_
  exact (only_report reads _).bind fun _ => (only_defaultId reads).bind fun _ => only_pure _

/-- Pointing to a template takes both locks only when its id is one. -/
theorem only_setDefault (reads : s.Reads allowed)
    (locks : TemplateId.isValid id = true → s.Locks allowed (templateLock id))
    (pointer : s.Locks allowed pointerLock)
    (replaces : Replaces fresh allowed s.root "default" s.pointerPath) :
    Only fresh allowed (s.setDefault id) := by
  unfold setDefault
  split
  · next valid =>
    refine only_locked (locks valid) (only_locked pointer ?_)
    refine (StoreProgram.only_perform (reads.has _)).bind fun there => ?_
    split
    · exact only_replaceDocument replaces _
    · exact only_throw _
  · exact only_throw _

theorem only_clearPointer (reads : s.Reads allowed) (pointer : s.Locks allowed pointerLock)
    (clear : allowed (.unlink s.pointerPath)) (id : String) :
    Only fresh allowed (s.clearPointer id) := by
  unfold clearPointer
  refine only_locked pointer ((only_defaultId reads).bind fun named => ?_)
  split
  · refine (StoreProgram.only_perform clear).bind fun result => ?_
    cases result with
    | ok _ => exact only_pure _
    | error e =>
      dsimp only
      split
      · exact only_pure _
      · exact only_throw _
  · exact only_pure _

/-- Removing a template takes its lock only when its id is one. -/
theorem only_delete (reads : s.Reads allowed)
    (locks : TemplateId.isValid id = true → s.Locks allowed (templateLock id))
    (remove : TemplateId.isValid id = true → allowed (.unlink (s.templatePath id)))
    (pointer : s.Locks allowed pointerLock) (clear : allowed (.unlink s.pointerPath)) :
    Only fresh allowed (s.delete id) := by
  unfold delete
  split
  · next valid =>
    have removes : Only fresh allowed (s.removeTemplate id) := by
      unfold removeTemplate
      refine (StoreProgram.only_perform (remove valid)).bind fun result => ?_
      cases result with
      | ok _ => exact (only_clearPointer reads pointer clear id).bind fun _ => only_pure _
      | error e =>
        dsimp only
        split
        · exact only_pure _
        · exact only_throw _
    refine (only_locked (locks valid) removes).bind fun removed => ?_
    split
    · exact (only_report reads _).bind fun _ => only_pure _
    · exact only_pure _
  · exact only_pure _

end Changing

/-- What an operation that writes a store may do with its files. Temporary files have fresh names. Only
documents of some templates may be removed, and not every operation may point to a template. -/
inductive Deed (s : FileStore) (fresh : String → Prop) (removes : String → Prop) (points : Prop) :
    {β : Type} → Action β → Prop
  | look {β : Type} {action : Action β} (looks : action.Looks) : Deed s fresh removes points action
  | ensureTemplates : Deed s fresh removes points (.makeDirectories s.templatesPath)
  | ensureLocks : Deed s fresh removes points (.makeDirectories s.locksPath)
  | ensureRoot : Deed s fresh removes points (.makeDirectories s.root)
  | touchLock (name : String) : Deed s fresh removes points (.touch (s.lockPath name))
  | acquire (name : String) : Deed s fresh removes points (.acquire (s.lockPath name))
  | release (name : String) : Deed s fresh removes points (.release (s.lockPath name))
  | makeTemporary (stem : String) :
    Deed s fresh removes points (.makeTemporary s.templatesPath stem)
  | write {name : String} (isFresh : fresh name) (content : ByteArray) :
    Deed s fresh removes points (.write (s.templatesPath ++ [name]) content)
  | place {name : String} (isFresh : fresh name) (id : String) :
    Deed s fresh removes points (.rename (s.templatesPath ++ [name]) (s.templatePath id))
  | discard {name : String} (isFresh : fresh name) :
    Deed s fresh removes points (.unlink (s.templatesPath ++ [name]))
  | makeDraft (stem : String) : Deed s fresh removes points (.makeTemporary s.root stem)
  | draft {name : String} (isFresh : fresh name) (content : ByteArray) :
    Deed s fresh removes points (.write (s.root ++ [name]) content)
  | point {name : String} (isFresh : fresh name) (may : points) :
    Deed s fresh removes points (.rename (s.root ++ [name]) s.pointerPath)
  | discardDraft {name : String} (isFresh : fresh name) :
    Deed s fresh removes points (.unlink (s.root ++ [name]))
  | remove {id : String} (may : removes id) :
    Deed s fresh removes points (.unlink (s.templatePath id))
  | clear : Deed s fresh removes points (.unlink s.pointerPath)

/-- Whether all that a program does are deeds of a store. -/
abbrev Does (s : FileStore) (fresh removes : String → Prop) (points : Prop) {ε α : Type}
    (x : ExceptT ε Program α) : Prop := Only fresh (s.Deed fresh removes points) x

section Writing

variable {removes : String → Prop} {points : Prop} {ε α : Type}

/-- Who only looks does no more than any operation may. -/
theorem does_of_looks {x : ExceptT ε Program α} (looks : Only fresh Action.Looks x) :
    s.Does fresh removes points x := looks.mono .look

theorem reads_deeds : s.Reads (s.Deed fresh removes points) where
  pointer := .look trivial
  document _ _ := .look trivial
  has _ := .look trivial
  hasFile _ := .look trivial
  list _ := .look trivial
  report _ := .look trivial

theorem locks_deeds (name : String) : s.Locks (s.Deed fresh removes points) name :=
  ⟨.ensureTemplates, .ensureLocks, .touchLock name, .acquire name, .release name⟩

theorem replaces_document (id : String) : Replaces fresh (s.Deed fresh removes points) s.templatesPath id
    (s.templatePath id) where
  ensure := .ensureTemplates
  make := .makeTemporary id
  write _ content isFresh := .write isFresh content
  move _ isFresh := .place isFresh id
  discard _ isFresh := .discard isFresh

/-- Replacing the pointer takes the right to point. -/
theorem replaces_pointer (may : points) :
    Replaces fresh (s.Deed fresh removes points) s.root "default" s.pointerPath where
  ensure := .ensureRoot
  make := .makeDraft "default"
  write _ content isFresh := .draft isFresh content
  move _ isFresh := .point isFresh may
  discard _ isFresh := .discardDraft isFresh

/-- Storing a template takes no right to remove or to point. -/
theorem does_upsert (t : Template) : s.Does fresh removes points (s.upsert t) :=
  only_upsert reads_deeds (locks_deeds _) (replaces_document t.id)

/-- Pointing to a template takes the right to point. -/
theorem does_setDefault (may : points) (id : String) :
    s.Does fresh removes points (s.setDefault id) :=
  only_setDefault reads_deeds (fun _ => locks_deeds _) (locks_deeds _) (replaces_pointer may)

/-- Removing a template takes the right to remove its document. -/
theorem does_delete {id : String} (may : removes id) :
    s.Does fresh removes points (s.delete id) :=
  only_delete reads_deeds (fun _ => locks_deeds _) (fun _ => .remove may) (locks_deeds _) .clear

variable {v : Validator}

theorem looks_checkUsable (g : Governor Program) (t : Template) :
    Only fresh Action.Looks (g.checkUsable t) := by
  unfold Governor.checkUsable
  split
  · exact only_throw _
  · split
    · exact only_throw _
    · exact only_pure _

theorem does_governor_setDefault (may : points) (id : String) :
    s.Does fresh removes points (Governor.setDefault ⟨s.operations, v⟩ id) := by
  unfold Governor.setDefault
  refine (does_of_looks (looks_get id)).bind fun found => ?_
  cases found with
  | none => exact only_throw _
  | some t =>
    refine (does_of_looks (looks_checkUsable _ t)).bind fun _ => ?_
    refine (does_of_looks looks_defaultId).bind fun _ => ?_
    exact (does_setDefault may id).bind fun _ => does_of_looks (looks_report _)

/-- Saving a template takes the right to point if the template is flagged. -/
theorem does_save {t : Template} (may : t.isDefault = true → points) :
    s.Does fresh removes points (Governor.save ⟨s.operations, v⟩ t) := by
  have stores : s.Does fresh removes points (s.upsert t) := does_upsert t
  unfold Governor.save
  split
  · next flagged =>
    refine (does_of_looks (looks_checkUsable _ t)).bind fun _ => stores.bind fun _ => ?_
    refine (does_governor_setDefault (may flagged) t.id).bind fun _ => ?_
    exact (does_of_looks (looks_get t.id)).bind fun _ => only_pure _
  · exact stores.bind fun _ => only_pure _

end Writing

section Outside

variable {removes : String → Prop} {points : Prop} {α : Type} {q : Path} {n : Node} {w : World}
  (outside : ¬ s.root <+: q) (named : w.Names fresh) (there : w.tree.node? q = some n)

include outside named there

/-- A deed changes nothing but what is below the root, and makes directories where nothing is. -/
theorem Deed.node?_perform {action : Action α} (deed : s.Deed fresh removes points action) :
    (w.perform action).2.tree.node? q = some n := by
  have below {p : Path} : q ≠ s.root ++ p := fun same => outside (same ▸ List.prefix_append _ _)
  have within {p : Path} {name : String} : q ≠ s.root ++ p ++ [name] := by
    rw [List.append_assoc]
    exact below
  have makes (p : Path) : (w.perform (.makeDirectories p)).2.tree.node? q = some n := by
    rw [← there]
    refine World.node?_change fun tree made => ?_
    rw [FileTree.node?_of_makeDirectories_of_some made there, there]
  have stays (apart : ¬ action.Touches fresh q) : (w.perform action).2.tree.node? q = some n :=
    (World.node?_perform named apart).trans there
  cases deed with
  | look looks => rwa [World.tree_perform_of_looks looks]
  | ensureTemplates | ensureLocks | ensureRoot => exact makes _
  | release name => exact there
  | touchLock | acquire | write | discard | remove => exact stays fun same => within same
  | draft | discardDraft | clear => exact stays fun same => below same
  | makeTemporary stem => exact stays fun ⟨_, _, same⟩ => within same
  | makeDraft stem => exact stays fun ⟨_, _, same⟩ => below same
  | place => exact stays fun same => same.elim within within
  | point => exact stays fun same => same.elim below below

/-- What stands outside of a store stays there, whatever is done in the store. -/
theorem node?_run_of_deeds {p : Program α} (does : p.Only fresh (s.Deed fresh removes points)) :
    (p.run w).2.tree.node? q = some n := by
  induction p generalizing w with
  | done a => exact there
  | act action next ih =>
    exact ih _ (named.perform action) (does.1.node?_perform outside named there) (does.2 w named)

end Outside

end FileStore

end InvoiceForms
