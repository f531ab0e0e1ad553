import InvoiceForms.Proofs.Store.Atomicity
import InvoiceForms.Proofs.Store.Calls
import InvoiceForms.Proofs.Store.Listing
import InvoiceForms.Proofs.Store.Usable

/-!
# Stores in a directory and in memory

A directory mirrors a store in memory when its documents are those of the templates in there and its
pointer names the same default. A program tracks a store in memory when every calm run of it from a
directory that mirrors the store ends in one that mirrors a store again. The operations of a store in a
directory do, and so end as those in memory do.
-/

namespace InvoiceForms

open InvoiceForms.Results InvoiceForms.Text
open Runner (program)

namespace FileStore

open StoreProgram

/-- A template whose document a tree holds, where it can be asked for. -/
structure Filed (s : FileStore) (t : Template) (tree : FileTree) : Prop where
  accepted : t.Accepted .sorted Json.distinctHere
  readable : t.toDocument.hasReadableIntegers = true
  holds : s.Holds t tree
  fits : FileTree.Fits s.templatesPath (t.id ++ suffix)

/-- A pointer that can be read and names an id. -/
structure Pointing (s : FileStore) (id : String) (tree : FileTree) : Prop where
  valid : TemplateId.isValid id = true
  reached : tree.Reached s.root
  fits : FileTree.Fits s.root "default.json"

/-- A tree that mirrors a store in memory. -/
structure Mirrors (s : FileStore) (tree : FileTree) (m : MemoryStore) : Prop where
  present : ∀ id, s.Present tree id → ∃ t, Entries.get? id m.templates = some t
  filed : ∀ id t, Entries.get? id m.templates = some t → t.id = id ∧ s.Filed t tree
  distinct : (Entries.keys m.templates).Nodup
  pointer : tree.node? s.pointerPath = m.pointer.map fun id => .file (pointerContent id)
  pointing : ∀ id, m.pointer = some id → s.Pointing id tree

variable {s : FileStore} {w w' : World} {tree tree' : FileTree} {m m' : MemoryStore} {t : Template}
  {id : String} {flag : Bool} {α β : Type}

theorem Filed.congr (filed : s.Filed t tree)
    (same : tree'.node? (s.templatePath t.id) = tree.node? (s.templatePath t.id))
    (reached : ∀ p, tree.Reached p → tree'.Reached p) : s.Filed t tree' :=
  { filed with holds := filed.holds.congr same (reached _) }

/-- The flag of a template does not count. -/
theorem Filed.withFlag (filed : s.Filed t tree) : s.Filed { t with isDefault := flag } tree where
  accepted := { filed.accepted with }
  readable := filed.readable
  holds := { filed.holds with }
  fits := filed.fits

theorem Pointing.congr (pointing : s.Pointing id tree)
    (reached : ∀ p, tree.Reached p → tree'.Reached p) : s.Pointing id tree' :=
  { pointing with reached := reached _ pointing.reached }

theorem Vacant.mirrors (vacant : s.Vacant tree) : s.Mirrors tree {} where
  present id there := by
    rw [Present, vacant.document] at there
    cases there
  filed _ _ found := by cases found
  distinct := .nil
  pointer := vacant.pointer
  pointing _ named := by cases named

namespace Mirrors

theorem of_unchanged (mirrors : s.Mirrors tree m) (same : s.Unchanged tree tree')
    (reached : ∀ p, tree.Reached p → tree'.Reached p) : s.Mirrors tree' m where
  present id there := mirrors.present id (there.congr (same _ (.document id)).symm)
  filed id t found := by
    obtain ⟨rfl, filed⟩ := mirrors.filed id t found
    exact ⟨rfl, filed.congr (same _ (.document t.id)) reached⟩
  distinct := mirrors.distinct
  pointer := (same _ .pointer).trans mirrors.pointer
  pointing id named := (mirrors.pointing id named).congr reached

/-- What the file of the pointer says is what the store in memory points to. -/
theorem pointer_eq (mirrors : s.Mirrors tree m) : s.pointer tree = .ok m.pointer := by
  unfold FileStore.pointer
  rw [mirrors.pointer]
  cases named : m.pointer with
  | none => rfl
  | some id => exact pointing_pointerDocument (mirrors.pointing id named).valid

/-- It is read, if nothing about it fails. -/
theorem pointed_eq (mirrors : s.Mirrors tree m)
    (read : ∀ e, tree.read s.pointerPath = .error e → e.cause = .missing) :
    s.pointed tree = .ok m.pointer := by
  rw [← mirrors.pointer_eq, pointed, FileStore.pointer]
  have file := mirrors.pointer
  cases named : m.pointer with
  | none =>
    rw [named] at file
    change tree.node? s.pointerPath = none at file
    rw [file, pointerPath, readingAt_of_none read file]
    rfl
  | some id =>
    obtain ⟨-, ⟨⟨n, root⟩, inside⟩, -⟩ := mirrors.pointing id named
    rw [pointerPath, readingAt_calm read root inside]
    split <;> rfl

/-- A document is found under the id of each template in memory, and only there. -/
theorem find_of_get? (mirrors : s.Mirrors tree m) (found : Entries.get? id m.templates = some t) :
    tree.find (s.templatePath id) = .ok (.file (encode (documentText t.toDocument))) := by
  obtain ⟨rfl, -, -, holds, fits⟩ := mirrors.filed id t found
  rw [templatePath, fits.find_eq holds.reachedTemplates, ← templatePath, holds.document]

theorem get?_of_node? {n : Node} (mirrors : s.Mirrors tree m)
    (there : tree.node? (s.templatePath id) = some n) : ∃ t, Entries.get? id m.templates = some t := by
  refine mirrors.present id ?_
  rw [Present, there]
  rfl

theorem isValid_of_get? (mirrors : s.Mirrors tree m) (found : Entries.get? id m.templates = some t) :
    TemplateId.isValid id = true := by
  obtain ⟨rfl, filed⟩ := mirrors.filed id t found
  exact filed.accepted.isValid_id

/-- The template that is loaded is the sorted one of the store in memory, if nothing about it fails. -/
theorem loaded_eq (mirrors : s.Mirrors tree m) (read : TemplateId.isValid id = true →
      ∀ e, tree.read (s.templatePath id) = .error e → e.cause = .missing) :
    s.loaded tree id flag = .ok ((Entries.get? id m.templates).map (·.sorted flag)) := by
  cases found : Entries.get? id m.templates with
  | none =>
    unfold loaded
    split
    · next valid =>
      have nothing : tree.node? (s.templatePath id) = none := by
        cases there : tree.node? (s.templatePath id) with
        | none => rfl
        | some n =>
          obtain ⟨t, held⟩ := mirrors.get?_of_node? there
          rw [found] at held
          cases held
      rw [templatePath, readingAt_of_none (read valid) nothing]
      rfl
    · rfl
  | some t =>
    obtain ⟨rfl, accepted, readable, holds, fits⟩ := mirrors.filed id t found
    exact loaded_of_holds accepted readable holds fits flag

end Mirrors

/-- Whether every calm run of a program from a tree that mirrors a store in memory ends in an answer and
a tree that mirrors such a store which go together. -/
def Tracks (s : FileStore) (m : MemoryStore) (x : StoreProgram α)
    (ends : Except StoreFault α → MemoryStore → Prop) : Prop :=
  ∀ w, w.Names IsTemporary → s.Mirrors w.tree m → Calm x w →
    ∃ m', s.Mirrors (program.after x w).tree m' ∧ ends (program.answer x w) m'

section Following

variable {ends : Except StoreFault α → MemoryStore → Prop} {x : StoreProgram α}

theorem tracks_pure {a : α} (given : ends (.ok a) m) : s.Tracks m (pure a) ends :=
  fun _ _ mirrors _ => ⟨m, mirrors, given⟩

theorem tracks_throw {e : StoreFault} (given : ends (.error e) m) : s.Tracks m (throw e) ends :=
  fun _ _ mirrors _ => ⟨m, mirrors, given⟩

/-- What follows the first part may rely on what that ends in. -/
theorem Tracks.bind {f : β → StoreProgram α} {y : StoreProgram β} (mid : β → MemoryStore → Prop)
    (first : s.Tracks m y fun r m' => match r with
      | .ok b => mid b m'
      | .error e => ends (.error e) m')
    (rest : ∀ b m', mid b m' → s.Tracks m' (f b) ends) : s.Tracks m (y >>= f) ends := by
  intro w named mirrors calm
  obtain ⟨calm, calm'⟩ := calm.of_bind
  obtain ⟨m', kept, behind⟩ := first w named mirrors calm
  have named' : (program.after y w).Names IsTemporary := names_after named
  unfold Runner.after Runner.answer at *
  rcases ended : program.outcome y w with ⟨e | b, w'⟩
  · rw [ended] at kept behind
    rw [outcome_bind_of_error ended]
    exact ⟨m', kept, behind⟩
  · rw [ended] at kept behind named'
    rw [outcome_bind_of_ok ended]
    exact rest b m' behind w' named' kept (calm' ended)

/-- A program may be looked at where the store is mirrored. -/
theorem Tracks.of_mirrors (given : ∀ tree, s.Mirrors tree m → s.Tracks m x ends) :
    s.Tracks m x ends := fun w named mirrors => given w.tree mirrors w named mirrors

theorem Tracks.mono {ends' : Except StoreFault α → MemoryStore → Prop} (tracks : s.Tracks m x ends)
    (weaker : ∀ r m', ends r m' → ends' r m') : s.Tracks m x ends' := by
  intro w named mirrors calm
  obtain ⟨m', kept, behind⟩ := tracks w named mirrors calm
  exact ⟨m', kept, weaker _ _ behind⟩

/-- A first part that always ends the same way can be taken as done. -/
theorem Tracks.bind_known {f : β → StoreProgram α} {y : StoreProgram β} {b : β}
    (first : s.Tracks m y fun r m'' => r = .ok b ∧ m'' = m') (rest : s.Tracks m' (f b) ends) :
    s.Tracks m (y >>= f) ends := by
  refine Tracks.bind (fun b' m'' => b' = b ∧ m'' = m') (first.mono ?_) ?_
  · rintro _ _ ⟨rfl, rfl⟩
    exact ⟨rfl, rfl⟩
  · rintro _ _ ⟨rfl, rfl⟩
    exact rest

/-- A value made of a result goes along with it. -/
theorem Tracks.map {f : β → α} {y : StoreProgram β}
    (tracks : s.Tracks m y fun r m' => ends (r.map f) m') : s.Tracks m (do return f (← y)) ends := by
  intro w named mirrors calm
  obtain ⟨m', kept, behind⟩ := tracks w named mirrors calm.of_bind.1
  refine ⟨m', ?_, ?_⟩
  · rwa [Runner.after, Runner.outcome_bind_pure]
  · rwa [Runner.answer, Runner.outcome_bind_pure]

theorem mirrors_of_leaves (leaves : s.Leaves x) (named : w.Names IsTemporary)
    (mirrors : s.Mirrors w.tree m) : s.Mirrors (program.after x w).tree m :=
  mirrors.of_unchanged (leaves w named) fun _ => Program.reached_run

/-- A program that leaves all documents and the pointer keeps the mirrored store. -/
theorem Leaves.tracks (leaves : s.Leaves x) (answers : ∀ w, s.Mirrors w.tree m → Calm x w →
    ends (program.answer x w) m) : s.Tracks m x ends :=
  fun w named mirrors calm => ⟨m, mirrors_of_leaves leaves named mirrors, answers w mirrors calm⟩

/-- Under a lock a program tracks what it tracks without. -/
theorem Tracks.locked {name : String} (inside : s.Tracks m x ends) :
    s.Tracks m (s.locked name x) ends := by
  intro w named mirrors calm
  have calm' := calm
  unfold FileStore.locked at calm'
  obtain ⟨first, rest⟩ := calm'.of_bind
  obtain ⟨w₁, taken, -⟩ := takeLock_calm first
  have mirrors₁ := mirrors_of_leaves (leaves_takeLock s name) named mirrors
  rw [Runner.after, taken] at mirrors₁
  have calm₁ : Calm x w₁ := (Program.calm_bind.mp (rest taken).of_bind.1).1
  obtain ⟨m', kept, behind⟩ := inside w₁ (names_of_outcome named taken) mirrors₁ calm₁
  refine ⟨m', ?_, ?_⟩
  · rw [Runner.after, outcome_locked taken]
    exact kept
  · rw [Runner.answer, outcome_locked taken]
    exact behind

end Following

section Reading

/-- The templates of a store in memory as a directory gives them. -/
def shown (m : MemoryStore) (pointer : Option String) (id : String) : Option Template :=
  (Entries.get? id m.templates).map (·.sorted (pointer = some id))

theorem tracks_report (entry : JournalEntry) :
    s.Tracks m (report entry) fun r m' => r = .ok () ∧ m' = m :=
  (leaves_of_avoids fun _ _ => avoids_report entry).tracks fun _ _ _ => ⟨rfl, rfl⟩

theorem tracks_defaultId : s.Tracks m s.defaultId fun r m' => r = .ok m.pointer ∧ m' = m := by
  refine (leaves_of_avoids fun _ _ => avoids_defaultId).tracks fun w mirrors calm => ⟨?_, rfl⟩
  rw [answer_defaultId]
  exact mirrors.pointed_eq (calm_perform.mp calm.of_bind.1.of_bind.1)

theorem leaves_load (id : String) (flag : Bool) : s.Leaves (s.load id flag) := by
  intro w _
  rw [Runner.after, outcome_load]
  exact fun _ _ => rfl

theorem tracks_load (id : String) (flag : Bool) : s.Tracks m (s.load id flag) fun r m' =>
    r = .ok ((Entries.get? id m.templates).map (·.sorted flag)) ∧ m' = m := by
  refine (leaves_load id flag).tracks fun w mirrors calm => ⟨?_, rfl⟩
  rw [Runner.answer, outcome_load]
  refine mirrors.loaded_eq fun valid => ?_
  unfold load at calm
  rw [if_pos valid] at calm
  exact calm_perform.mp calm.of_bind.1.of_bind.1

theorem tracks_get (id : String) : s.Tracks m (s.get id) fun r m' =>
    r = .ok (shown m m.pointer id) ∧ m' = m :=
  tracks_defaultId.bind_known (tracks_load id _)

theorem tracks_getDefault : s.Tracks m s.getDefault fun r m' =>
    r = .ok (m.pointer.bind (shown m m.pointer)) ∧ m' = m := by
  refine tracks_defaultId.bind_known ?_
  cases named : m.pointer with
  | none => exact tracks_pure ⟨rfl, rfl⟩
  | some id =>
    have given : shown m (some id) id = (Entries.get? id m.templates).map (·.sorted true) := by
      rw [shown, decide_eq_true rfl]
    refine (tracks_load id true).bind_known ?_
    show s.Tracks m _ fun r m' => r = .ok (shown m (some id) id) ∧ m' = m
    rw [given]
    dsimp only
    split
    · exact (tracks_report _).bind_known (tracks_pure ⟨rfl, rfl⟩)
    · exact tracks_pure ⟨rfl, rfl⟩

theorem leaves_storedIds : s.Leaves s.storedIds := by
  intro w _
  rw [Runner.after, outcome_storedIds]
  exact fun _ _ => rfl

/-- The ids that are listed are those of the templates in memory. -/
theorem Mirrors.mem_documentIds_iff {ids : List String} (mirrors : s.Mirrors tree m)
    (stored : s.documentIds tree = .ok ids) :
    id ∈ ids ↔ ∃ t, Entries.get? id m.templates = some t := by
  rw [FileStore.mem_documentIds_iff stored, FileTree.hasFile_iff]
  constructor
  · rintro ⟨-, content, found⟩
    exact mirrors.get?_of_node? (FileTree.node?_of_find found)
  · rintro ⟨t, found⟩
    refine ⟨?_, _, mirrors.find_of_get? found⟩
    rintro rfl
    exact TemplateId.ne_empty_of_isValid (mirrors.isValid_of_get? found) rfl

/-- In a calm run the ids of the documents are listed. -/
theorem documentIds_of_calm (calm : Calm s.storedIds w) : ∃ ids, s.documentIds w.tree = .ok ids := by
  unfold documentIds
  split
  · next there =>
    have rest := calm.of_bind.2 (outcome_perform _ _)
    change Calm (if w.tree.has s.templatesPath = true then _ else _) _ at rest
    rw [if_pos there] at rest
    obtain ⟨names, listed⟩ := calm_attempt rest.of_bind.1
    change w.tree.list s.templatesPath = .ok names at listed
    rw [listed]
    exact ⟨_, rfl⟩
  · exact ⟨_, rfl⟩

theorem tracks_storedIds : s.Tracks m s.storedIds fun r m' => ∃ ids, r = .ok ids ∧
    (∀ id, id ∈ ids ↔ ∃ t, Entries.get? id m.templates = some t) ∧ m' = m := by
  refine leaves_storedIds.tracks fun w mirrors calm => ?_
  obtain ⟨ids, stored⟩ := documentIds_of_calm calm
  refine ⟨ids, ?_, fun id => mirrors.mem_documentIds_iff stored, rfl⟩
  rw [Runner.answer, outcome_storedIds, stored]

/-- Where each id is that of a template in memory, all of them are loaded. -/
theorem Mirrors.loadedAll_eq {pointer : Option String} {ids : List String} (mirrors : s.Mirrors tree m)
    (there : ∀ id ∈ ids, ∃ t, Entries.get? id m.templates = some t) :
    s.loadedAll tree pointer ids = .ok (ids.filterMap (shown m pointer)) := by
  induction ids with
  | nil => rfl
  | cons id rest ih =>
    obtain ⟨first, rest⟩ := List.forall_mem_cons.mp there
    obtain ⟨t, found⟩ := first
    have loads : s.loaded tree id (pointer = some id) = .ok (some (t.sorted (pointer = some id))) := by
      obtain ⟨rfl, accepted, readable, holds, fits⟩ := mirrors.filed id t found
      exact loaded_of_holds accepted readable holds fits _
    rw [loadedAll_cons, loads, ih rest, List.filterMap_cons, shown, found]
    rfl

theorem leaves_loadAll (pointer : Option String) (ids : List String) :
    s.Leaves (s.loadAll pointer ids) := by
  intro w _
  obtain ⟨journal, ended⟩ := outcome_loadAll s pointer ids w
  rw [Runner.after, ended]
  exact fun _ _ => rfl

theorem tracks_list : s.Tracks m s.list fun r m' => ∃ ts, r = .ok ts ∧
    (∀ t, t ∈ ts ↔ ∃ id, shown m m.pointer id = some t) ∧ m' = m := by
  refine tracks_defaultId.bind_known ?_
  refine Tracks.bind (fun ids m' =>
    (∀ id, id ∈ ids ↔ ∃ t, Entries.get? id m.templates = some t) ∧ m' = m)
    (tracks_storedIds.mono ?_) ?_
  · rintro _ _ ⟨ids, rfl, given⟩
    exact given
  · rintro ids m' ⟨stored, rfl⟩
    refine (leaves_loadAll m'.pointer ids).tracks fun w mirrors _ => ?_
    obtain ⟨journal, ended⟩ := outcome_loadAll s m'.pointer ids w
    rw [Runner.answer, ended, mirrors.loadedAll_eq fun id inside => (stored id).mp inside]
    refine ⟨_, rfl, fun t => ?_, rfl⟩
    rw [List.mem_filterMap]
    refine exists_congr fun id => and_iff_right_of_imp fun found => (stored id).mpr ?_
    obtain ⟨u, held, -⟩ := Option.map_eq_some_iff.mp found
    exact ⟨u, held⟩

end Reading

section Writing

/-- Storing a template puts its document in the place of its id. -/
theorem tracks_upsert (accepted : t.Accepted .sorted Json.distinctHere)
    (readable : t.toDocument.hasReadableIntegers = true) : s.Tracks m (s.upsert t) fun r m' =>
      r = .ok (m.materialize t) ∧ m' = m.upsert t := by
  intro w named mirrors calm
  obtain ⟨w', stored, holds, pointer⟩ := upsert_calm accepted.undecodable? readable calm
  have locks : Calm (s.locked (templateLock t.id) (s.writeTemplate t)) w :=
    (Program.calm_bind.mp calm).1
  have others {id : String} (other : id ≠ t.id) :
      (program.after (s.upsert t) w).tree.node? (s.templatePath id) = w.tree.node? (s.templatePath id) :=
    (avoids_upsert_of_not_common not_common_templatePath
      fun same => other (templatePath_injective same)).node?_after named
  have reached : ∀ p, w.tree.Reached p → (program.after (s.upsert t) w).tree.Reached p :=
    fun _ => Program.reached_run
  obtain rfl : program.after (s.upsert t) w = w' := congrArg Prod.snd stored
  rw [mirrors.pointer_eq] at stored
  refine ⟨m.upsert t, ⟨fun id there => ?_, fun id u found => ?_, ?_, ?_, fun id named => ?_⟩,
    congrArg Prod.fst stored, rfl⟩
  · by_cases same : id = t.id
    · exact ⟨_, by rw [same]; exact Entries.get?_set_self _ _ _⟩
    · obtain ⟨u, found⟩ := mirrors.present id (there.congr (others same).symm)
      exact ⟨u, (Entries.get?_set_of_ne same _ _).trans found⟩
  · by_cases same : id = t.id
    · subst same
      obtain rfl : { t with isDefault := false } = u :=
        Option.some.inj ((Entries.get?_set_self _ _ _).symm.trans found)
      have filed : s.Filed t (program.after (s.upsert t) w).tree :=
        ⟨accepted, readable, holds, fits_document (fits_of_locked locks)⟩
      exact ⟨rfl, filed.withFlag⟩
    · obtain ⟨rfl, filed⟩ := mirrors.filed id u ((Entries.get?_set_of_ne same _ _).symm.trans found)
      exact ⟨rfl, filed.congr (others same) reached⟩
  · exact Entries.nodup_keys_set mirrors.distinct _ _
  · exact pointer.trans mirrors.pointer
  · exact (mirrors.pointing id named).congr reached

/-- Nothing is found in memory under what is no id. -/
theorem Mirrors.get?_of_not_valid (mirrors : s.Mirrors tree m) (invalid : ¬ TemplateId.isValid id = true) :
    Entries.get? id m.templates = none := by
  cases found : Entries.get? id m.templates with
  | none => rfl
  | some t => exact absurd (mirrors.isValid_of_get? found) invalid

/-- There is something at the place of a document when there is a template in memory. -/
theorem tracks_hasDocument (id : String) : s.Tracks m (perform (.has (s.templatePath id)))
    fun r m' => r = .ok (Entries.get? id m.templates).isSome ∧ m' = m := by
  have leaves : s.Leaves (perform (.has (s.templatePath id))) :=
    leaves_of_avoids fun _ _ => avoids_perform _ not_false
  refine leaves.tracks fun w mirrors _ => ⟨?_, rfl⟩
  refine congrArg Except.ok (Bool.eq_iff_iff.mpr ?_)
  show w.tree.has (s.templatePath id) = true ↔ _
  rw [Option.isSome_iff_exists]
  constructor
  · intro there
    obtain ⟨n, found⟩ := Option.isSome_iff_exists.mp (FileTree.node?_of_has there)
    exact mirrors.get?_of_node? found
  · rintro ⟨t, found⟩
    rw [FileTree.has, mirrors.find_of_get? found]
    rfl

/-- The document of a pointer replaces the pointer. -/
theorem tracks_replacePointer {fault : FileFault → StoreFault}
    (found : Entries.get? id m.templates = some t) :
    s.Tracks m (replaceDocument fault s.root "default" s.pointerPath (pointerDocument id)) fun r m' =>
      r = .ok () ∧ m' = { m with pointer := some id } := by
  intro w named mirrors calm
  obtain ⟨w', replaced, -, -, file, -⟩ := replaceDocument_calm calm
  have documents (other : String) : w'.tree.node? (s.templatePath other) =
      w.tree.node? (s.templatePath other) := by
    have way : ¬ s.templatePath other <+: s.root := fun way =>
      not_common_templatePath (.templates (way.trans (List.prefix_append _ _)))
    have avoids : Avoids IsTemporary (s.templatePath other)
        (replaceDocument fault s.root "default" s.pointerPath (pointerDocument id)) :=
      avoids_replaceDocument way (fun _ _ => templatePath_ne_draft) pointerPath_ne_templatePath.symm
    exact avoids.node?_of_outcome named replaced
  have reached : ∀ p, w.tree.Reached p → w'.tree.Reached p := fun p there => by
    have kept : (program.after (replaceDocument fault s.root "default" s.pointerPath
      (pointerDocument id)) w).tree.Reached p := Program.reached_run there
    rwa [Runner.after, pointerPath, replaced] at kept
  rw [Runner.after, Runner.answer, pointerPath, replaced]
  refine ⟨{ m with pointer := some id }, ⟨fun other there => ?_, fun other u held => ?_,
    mirrors.distinct, file, fun other points => ?_⟩, rfl, rfl⟩
  · exact mirrors.present other (there.congr (documents other).symm)
  · obtain ⟨rfl, filed⟩ := mirrors.filed other u held
    exact ⟨rfl, filed.congr (documents u.id) reached⟩
  · cases points
    obtain ⟨rfl, filed⟩ := mirrors.filed id t found
    have root : w.tree.Reached s.root := filed.holds.reachedTemplates.of_append
    exact ⟨filed.accepted.isValid_id, reached _ root, fits_pointer filed.fits⟩

/-- Pointing to a template writes its id to the pointer if there is a document. -/
theorem tracks_setDefault (id : String) : s.Tracks m (s.setDefault id) fun r m' =>
    r = (m.setDefault id).map (fun _ => ()) ∧ m' = (m.setDefault id).toOption.getD m := by
  unfold setDefault
  split
  · refine Tracks.locked (Tracks.locked ((tracks_hasDocument id).bind_known ?_))
    unfold MemoryStore.setDefault
    cases found : Entries.get? id m.templates with
    | some t => exact tracks_replacePointer found
    | none => exact tracks_throw ⟨rfl, rfl⟩
  · next invalid =>
    refine Tracks.of_mirrors fun tree mirrors => tracks_throw ?_
    rw [MemoryStore.setDefault, mirrors.get?_of_not_valid invalid]
    exact ⟨rfl, rfl⟩

/-- A file that is found can be removed. -/
theorem unlink_of_find {p : Path} {content : ByteArray} (found : tree.find p = .ok (.file content)) :
    tree.unlink p = .ok (tree.remove p) := by
  unfold FileTree.unlink
  rw [found]
  rfl

/-- Removing a file keeps all directories. -/
theorem reached_remove {p : Path} {content : ByteArray} (found : tree.find p = .ok (.file content))
    (q : Path) (reached : tree.Reached q) : (tree.remove p).Reached q := by
  refine reached.of_directories fun r there => ?_
  rw [FileTree.node?_remove_of_ne (FileTree.ne_of_find there found), there]

theorem tracks_unlinkPointer (named : m.pointer = some id) :
    s.Tracks m (perform (.unlink s.pointerPath)) fun r m' =>
      r = .ok (.ok ()) ∧ m' = { m with pointer := none } := by
  intro w _ mirrors _
  obtain ⟨-, root, fits⟩ := mirrors.pointing id named
  have found : w.tree.find s.pointerPath = .ok (.file (pointerContent id)) := by
    rw [pointerPath, fits.find_eq root, ← pointerPath, mirrors.pointer, named]
    rfl
  have documents (other : String) : (w.tree.remove s.pointerPath).node? (s.templatePath other) =
      w.tree.node? (s.templatePath other) :=
    FileTree.node?_remove_of_ne pointerPath_ne_templatePath.symm
  rw [Runner.after, Runner.answer, outcome_unlink (unlink_of_find found)]
  refine ⟨{ m with pointer := none }, ⟨fun other there => ?_, fun other u held => ?_, mirrors.distinct,
    ?_, fun other points => by cases points⟩, rfl, rfl⟩
  · exact mirrors.present other (there.congr (documents other).symm)
  · obtain ⟨rfl, filed⟩ := mirrors.filed other u held
    exact ⟨rfl, filed.congr (documents u.id) (reached_remove found)⟩
  · exact FileTree.node?_remove_self (by simp [pointerPath])

theorem tracks_unlinkDocument (held : Entries.get? id m.templates = some t) :
    s.Tracks m (perform (.unlink (s.templatePath id))) fun r m' =>
      r = .ok (.ok ()) ∧ m' = { m with templates := Entries.erase id m.templates } := by
  intro w _ mirrors _
  have found := mirrors.find_of_get? held
  have others {other : String} (distinct : other ≠ id) :
      (w.tree.remove (s.templatePath id)).node? (s.templatePath other) =
        w.tree.node? (s.templatePath other) :=
    FileTree.node?_remove_of_ne fun same => distinct (templatePath_injective same)
  have gone : (w.tree.remove (s.templatePath id)).node? (s.templatePath id) = none :=
    FileTree.node?_remove_self (by simp [templatePath])
  rw [Runner.after, Runner.answer, outcome_unlink (unlink_of_find found)]
  refine ⟨{ m with templates := Entries.erase id m.templates }, ⟨fun other there => ?_,
    fun other u still => ?_, Entries.nodup_keys_erase mirrors.distinct id, ?_, fun other points => ?_⟩,
    rfl, rfl⟩
  · have distinct : other ≠ id := by
      rintro rfl
      rw [Present, gone] at there
      cases there
    obtain ⟨u, kept⟩ := mirrors.present other (there.congr (others distinct).symm)
    exact ⟨u, (Entries.get?_erase_of_ne distinct _).trans kept⟩
  · have distinct : other ≠ id := by
      rintro rfl
      rw [Entries.get?_erase_self mirrors.distinct] at still
      cases still
    rw [Entries.get?_erase_of_ne distinct] at still
    obtain ⟨rfl, filed⟩ := mirrors.filed other u still
    exact ⟨rfl, filed.congr (others distinct) (reached_remove found)⟩
  · exact (FileTree.node?_remove_of_ne pointerPath_ne_templatePath).trans mirrors.pointer
  · exact (mirrors.pointing other points).congr (reached_remove found)

/-- Where there is no template in memory, there is no file to remove. -/
theorem tracks_unlinkNothing (nothing : Entries.get? id m.templates = none) :
    s.Tracks m (perform (.unlink (s.templatePath id))) fun r m' =>
      (∃ e, r = .ok (.error e) ∧ e.cause = .missing) ∧ m' = m := by
  intro w named mirrors calm
  have missing := calm_perform.mp calm
  rw [Runner.after, Runner.answer, outcome_perform]
  change ∀ e, (w.change (w.tree.unlink (s.templatePath id))).1 = .error e → e.cause = .missing at missing
  change ∃ m', s.Mirrors (w.change (w.tree.unlink (s.templatePath id))).2.tree m' ∧
    (∃ e, Except.ok (w.change (w.tree.unlink (s.templatePath id))).1 = .ok (.error e) ∧ _) ∧ _
  cases removed : w.tree.unlink (s.templatePath id) with
  | ok tree =>
    obtain ⟨content, found, -⟩ := FileTree.unlink_eq_ok removed
    obtain ⟨t, held⟩ := mirrors.get?_of_node? (FileTree.node?_of_find found)
    rw [nothing] at held
    cases held
  | error e =>
    rw [removed] at missing
    exact ⟨m, mirrors, ⟨e, rfl, missing e rfl⟩, rfl⟩

/-- Taking back a pointer that names a template leaves no pointer. -/
theorem tracks_clearPointer (id : String) : s.Tracks m (s.clearPointer id) fun r m' =>
    r = .ok () ∧ m' = { m with pointer := if m.pointer = some id then none else m.pointer } := by
  refine Tracks.locked (tracks_defaultId.bind_known ?_)
  split
  · next named => exact (tracks_unlinkPointer named).bind_known (tracks_pure ⟨rfl, rfl⟩)
  · exact tracks_pure ⟨rfl, rfl⟩

/-- Removing a template takes its document, and the pointer with it. -/
theorem tracks_removeTemplate (id : String) : s.Tracks m (s.removeTemplate id) fun r m' =>
    r = .ok (m.delete id).1 ∧ m' = (m.delete id).2 := by
  unfold removeTemplate MemoryStore.delete
  cases held : Entries.get? id m.templates with
  | some t =>
    refine (tracks_unlinkDocument held).bind_known ((tracks_clearPointer id).bind_known ?_)
    exact tracks_pure ⟨rfl, rfl⟩
  | none =>
    refine Tracks.bind (fun result m' => (∃ e, result = .error e ∧ e.cause = .missing) ∧ m' = m)
      ((tracks_unlinkNothing held).mono ?_) ?_
    · rintro _ _ ⟨⟨e, rfl, missing⟩, rfl⟩
      exact ⟨⟨e, rfl, missing⟩, rfl⟩
    · rintro _ _ ⟨⟨e, rfl, missing⟩, rfl⟩
      dsimp only
      rw [if_pos missing]
      exact tracks_pure ⟨rfl, rfl⟩

theorem tracks_delete (id : String) : s.Tracks m (s.delete id) fun r m' =>
    r = .ok (m.delete id).1 ∧ m' = (m.delete id).2 := by
  unfold delete
  split
  · refine Tracks.bind_known (Tracks.locked (tracks_removeTemplate id)) ?_
    split
    · exact (tracks_report _).bind_known (tracks_pure ⟨rfl, rfl⟩)
    · exact tracks_pure ⟨rfl, rfl⟩
  · next invalid =>
    refine Tracks.of_mirrors fun tree mirrors => tracks_pure ?_
    rw [MemoryStore.delete, mirrors.get?_of_not_valid invalid]
    exact ⟨rfl, rfl⟩

end Writing

end FileStore

end InvoiceForms
