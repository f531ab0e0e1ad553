import InvoiceForms.Proofs.Store.Discipline
import InvoiceForms.Proofs.Store.Paths

/-!
# What a lock protects

A process owns the paths that its locks guard: nobody else touches them as long as it holds the locks.
So what it found there stays true, whatever the others do, and its own moves change the documents and
the pointer in few ways. `Effect` says in which.
-/

namespace InvoiceForms

namespace Phase

/-- The lock files that a process has locked, the last one first. -/
def locks (s : FileStore) : Phase → List Path
  | free => []
  | holding id | removed id => [s.lockPath (FileStore.templateLock id)]
  | clearing id | naming id | both id | stored id | drafted id _ =>
    [s.lockPath FileStore.pointerLock, s.lockPath (FileStore.templateLock id)]

/-- Whether a path is guarded by a lock that is held in a phase. -/
def Owns (s : FileStore) (phase : Phase) (q : Path) : Prop := ∃ lock ∈ phase.locks s, s.Guards lock q

/-- Whether a template was removed that the pointer may still name. -/
def Removing : Phase → String → Prop
  | removed id, other | clearing id, other | naming id, other => other = id
  | _, _ => False

end Phase

/-- What a process may rely on in a phase. -/
def Phase.Fact (s : FileStore) (tree : FileTree) : Phase → Prop
  | free => True
  | holding _ | removed _ | clearing _ | both _ => tree.Reached s.root
  | naming _ => tree.Reached s.root ∧ ∃ content, tree.node? s.pointerPath = some (.file content)
  | stored id => tree.Reached s.root ∧ s.Present tree id
  | drafted id name => tree.Reached s.root ∧ s.Present tree id ∧ IsTemporary name ∧
    ∃ content, tree.node? (s.root ++ [name]) = some (.file content) ∧
      (FileStore.readingOf content).bind FileStore.pointerOf = .ok (some id)

namespace FileStore

variable {s : FileStore} {removes : String → Prop} {β : Type} {phase here : Phase}
  {action : Action β} {after : β → Phase} {q : Path} {w : World} {tree tree' : FileTree}
  {id name : String}

/-- A removal that may still be named holds the lock of its template. -/
theorem mem_locks_of_removing (removing : phase.Removing id) :
    s.lockPath (templateLock id) ∈ phase.locks s := by
  cases phase with
  | removed other | clearing other | naming other =>
    obtain rfl := removing
    simp [Phase.locks]
  | _ => cases removing

/-- What a process relies on stays true while the paths that it owns stay as they are. -/
theorem fact_congr (fact : phase.Fact s tree)
    (same : ∀ q, phase.Owns s q → tree'.node? q = tree.node? q)
    (reached : tree.Reached s.root → tree'.Reached s.root) : phase.Fact s tree' := by
  have mine : s.lockPath pointerLock ∈ phase.locks s → tree'.node? s.pointerPath = tree.node? s.pointerPath :=
    fun held => same _ ⟨_, held, .pointer⟩
  have document {id : String} (held : s.lockPath (templateLock id) ∈ phase.locks s)
      (there : s.Present tree id) : s.Present tree' id := there.congr (same _ ⟨_, held, .document id⟩)
  cases phase with
  | free => trivial
  | holding id | removed id | clearing id | both id => exact reached fact
  | naming id =>
    obtain ⟨root, content, there⟩ := fact
    exact ⟨reached root, content, (mine List.mem_cons_self).trans there⟩
  | stored id =>
    obtain ⟨root, there⟩ := fact
    exact ⟨reached root, document (by simp [Phase.locks]) there⟩
  | drafted id name =>
    obtain ⟨root, there, temporary, content, held, names⟩ := fact
    refine ⟨reached root, document (by simp [Phase.locks]) there, temporary, content, ?_, names⟩
    rw [same _ ⟨_, List.mem_cons_self, .draft temporary⟩]
    exact held

/-- A move touches what its phase owns, and what any process may touch. -/
theorem Move.touches (move : Move s removes phase action after)
    (touched : action.Touches IsTemporary q) : phase.Owns s q ∨ s.Common q := by
  cases move with
  | read | report | find | look | releasePointer | releaseStored | releaseTemplate => cases touched
  | ensureTemplates => exact .inr (.templates touched)
  | ensureLocks => exact .inr (.locks touched)
  | ensureRoot => exact .inr (.templates (touched.trans (List.prefix_append _ _)))
  | touchLock | lockTemplate | lockPointer | lockCleared =>
    obtain rfl := touched
    exact .inr (.lock _)
  | makeTemporary =>
    obtain ⟨name, temporary, rfl⟩ := touched
    exact .inr (.temporary temporary)
  | write id temporary =>
    obtain rfl := touched
    exact .inr (.temporary temporary)
  | place id temporary =>
    rcases touched with rfl | rfl
    · exact .inr (.temporary temporary)
    · exact .inl ⟨_, List.mem_cons_self, .document id⟩
  | @remove id =>
    obtain rfl := touched
    exact .inl ⟨_, List.mem_cons_self, .document id⟩
  | makeDraft =>
    obtain ⟨name, temporary, rfl⟩ := touched
    exact .inl ⟨_, List.mem_cons_self, .draft temporary⟩
  | draft id temporary =>
    obtain rfl := touched
    exact .inl ⟨_, List.mem_cons_self, .draft temporary⟩
  | point id temporary =>
    rcases touched with rfl | rfl
    · exact .inl ⟨_, List.mem_cons_self, .draft temporary⟩
    · exact .inl ⟨_, List.mem_cons_self, .pointer⟩
  | clear =>
    obtain rfl := touched
    exact .inl ⟨_, List.mem_cons_self, .pointer⟩

/-- The locks behind a move are those that its phase says. -/
theorem Move.locks (move : Move s removes phase action after) (result : β) :
    (after result).locks s = action.holding (phase.locks s) := by
  cases move with
  | remove | find | look =>
    dsimp only
    split <;> rfl
  | releasePointer | releaseStored | releaseTemplate => exact (List.erase_cons_head ..).symm
  | _ => rfl

/-- A move gives back no lock but one that is held. -/
theorem Move.returns (move : Move s removes phase action after) (given : action.Returns q) :
    q ∈ phase.locks s := by
  cases move with
  | releasePointer | releaseStored | releaseTemplate =>
    obtain rfl := given
    exact List.mem_cons_self
  | _ => cases given

/-- Only templates whose documents may be removed are. -/
theorem Move.removing (move : Move s removes phase action after) {result : β}
    (removing : (after result).Removing id) : phase.Removing id ∨ removes id := by
  cases move with
  | read | report | ensureTemplates | ensureLocks | ensureRoot | touchLock | lockCleared =>
    exact .inl removing
  | remove allowed =>
    dsimp only at removing
    split at removing
    · obtain rfl := removing
      exact .inr allowed
    · cases removing
  | look other =>
    dsimp only at removing
    split at removing
    · exact .inl removing
    · cases removing
  | find other =>
    dsimp only at removing
    split at removing <;> cases removing
  | _ => cases removing

/-- What a move does to what locks guard: what the process may rely on behind it, how a document and the
pointer can change, and when a removal is over. -/
structure Effect (s : FileStore) (tree tree' : FileTree) (phase here : Phase) : Prop where
  fact : here.Fact s tree'
  document (id : String) : tree'.node? (s.templatePath id) = tree.node? (s.templatePath id) ∨
    (∃ content, tree'.node? (s.templatePath id) = some (.file content)) ∨
    tree'.node? (s.templatePath id) = none ∧ here.Removing id
  pointer : tree'.node? s.pointerPath = tree.node? s.pointerPath ∨
    tree'.node? s.pointerPath = none ∨ ∃ id, s.pointer tree' = .ok (some id) ∧ s.Present tree' id
  removing (id : String) : phase.Removing id → here.Removing id ∨ s.pointer tree' ≠ .ok (some id)

/-- Where nothing that locks guard changes, only what is relied on has to be shown. -/
theorem Effect.of_frame (fact : here.Fact s tree')
    (same : ∀ lock q, s.Guards lock q → tree'.node? q = tree.node? q)
    (removing : ∀ id, phase.Removing id → here.Removing id) : Effect s tree tree' phase here where
  fact := fact
  document id := .inl (same _ _ (.document id))
  pointer := .inl (same _ _ .pointer)
  removing id given := .inl (removing id given)

/-- Reading the pointer without a fault says what it names. -/
theorem pointer_of_read (reached : tree.Reached s.root)
    (calm : ∀ e, tree.read s.pointerPath = .error e → e.cause = .missing) :
    (readingFrom (tree.read s.pointerPath)).bind pointerOf = s.pointer tree := by
  obtain ⟨⟨m, walked⟩, directory⟩ := reached
  have reading : readingFrom (tree.read s.pointerPath) = readingAt tree s.pointerPath := by
    unfold readingFrom readingAt
    cases tree.read s.pointerPath <;> rfl
  rw [reading, pointerPath, readingAt_calm calm walked directory, pointer, pointerPath]
  split <;> rfl

/-- What names a template when it is read is a file. -/
theorem file_of_namedBy? (named : namedBy? (tree.read s.pointerPath) = some id) :
    ∃ content, tree.node? s.pointerPath = some (.file content) := by
  cases read : tree.read s.pointerPath with
  | ok content =>
    have found := (FileTree.find_eq_ok_iff.mp (FileTree.read_eq_ok_iff.mp read)).2
    obtain ⟨-, -, -, there⟩ := FileTree.walk_concat_eq_ok_iff.mp found
    exact ⟨content, there⟩
  | error e =>
    rw [read] at named
    unfold namedBy? readingFrom at named
    dsimp only at named
    by_cases missing : e.cause = .missing
    · rw [if_pos missing] at named
      cases named
    · rw [if_neg missing] at named
      cases named

/-- The pointer is removed where its file is there and nothing but a missing file is allowed to fail. -/
theorem unlink_of_file (reached : tree.Reached s.root) {content : ByteArray}
    (there : tree.node? s.pointerPath = some (.file content))
    (calm : ∀ e, tree.unlink s.pointerPath = .error e → e.cause = .missing) :
    tree.unlink s.pointerPath = .ok (tree.remove s.pointerPath) := by
  obtain ⟨⟨m, walked⟩, directory⟩ := reached
  have found : tree.find s.pointerPath = .ok (.file content) := by
    rcases FileTree.read_of_node? walked directory there with read | long
    · exact FileTree.read_eq_ok_iff.mp read
    · change tree.read s.pointerPath = _ at long
      unfold FileTree.read at long
      unfold FileTree.unlink at calm
      cases found : tree.find s.pointerPath with
      | error e =>
        rw [found] at long calm
        cases long
        cases calm _ rfl
      | ok n =>
        rw [found] at long
        cases n <;> cases long
  unfold FileTree.unlink
  rw [found]
  rfl

theorem pointer_of_none (absent : tree.node? s.pointerPath = none) : s.pointer tree = .ok none := by
  unfold pointer
  rw [absent]

section Moves

variable (named : w.Names IsTemporary)

include named

/-- Moving a temporary file to the place of a document changes that document alone. -/
theorem effect_place (temporary : IsTemporary name)
    (succeeds : (w.perform (.rename (s.templatesPath ++ [name]) (s.templatePath id))).1 = .ok ())
    (reached : w.tree.Reached s.root) : Effect s w.tree
      (w.perform (.rename (s.templatesPath ++ [name]) (s.templatePath id))).2.tree (.holding id)
      (.holding id) := by
  have apart (q : Path) (source : q ≠ s.templatesPath ++ [name]) (target : q ≠ s.templatePath id) :
      (w.perform (.rename (s.templatesPath ++ [name]) (s.templatePath id))).2.tree.node? q =
        w.tree.node? q := World.node?_perform named fun same => same.elim source target
  refine ⟨World.reached_perform reached, fun other => ?_, .inl (apart _ ?_ ?_), fun _ => False.elim⟩
  · by_cases same : other = id
    · subst same
      obtain ⟨tree, moved, world⟩ := World.change_eq_ok succeeds
      obtain ⟨content, -, rfl⟩ := FileTree.rename_eq_ok moved
      refine .inr (.inl ⟨content, ?_⟩)
      change (w.change _).2.tree.node? _ = _
      rw [world]
      exact FileTree.node?_put_self (by simp [templatePath])
    · refine .inl (apart _ ?_ ?_)
      · exact fun given => not_common_templatePath (given ▸ Common.temporary temporary)
      · exact fun given => same (templatePath_injective given)
  · exact fun given => not_common_pointerPath (given ▸ Common.temporary temporary)
  · exact pointerPath_ne_templatePath

/-- Removing a document changes it alone, and says so. -/
theorem effect_remove (reached : w.tree.Reached s.root) :
    Effect s w.tree (w.perform (.unlink (s.templatePath id))).2.tree (.holding id)
      (if (w.perform (.unlink (s.templatePath id))).1 = .ok () then .removed id else .holding id) := by
  have apart (q : Path) (other : q ≠ s.templatePath id) :
      (w.perform (.unlink (s.templatePath id))).2.tree.node? q = w.tree.node? q :=
    World.node?_perform named other
  have root : (w.perform (.unlink (s.templatePath id))).2.tree.Reached s.root :=
    World.reached_perform reached
  refine ⟨?_, fun other => ?_, .inl (apart _ pointerPath_ne_templatePath), fun _ => False.elim⟩
  · split <;> exact root
  · by_cases same : other = id
    · subst same
      cases removed : w.tree.unlink (s.templatePath other) with
      | ok tree =>
        have done : (w.perform (.unlink (s.templatePath other))).1 = .ok () := by
          show (w.change _).1 = _
          rw [removed]
          rfl
        rw [if_pos done]
        refine .inr (.inr ⟨?_, rfl⟩)
        obtain ⟨content, -, rfl⟩ := FileTree.unlink_eq_ok removed
        show (w.change _).2.tree.node? _ = _
        rw [removed]
        exact FileTree.node?_remove_self (by simp [templatePath])
      | error e =>
        refine .inl ?_
        show (w.change _).2.tree.node? _ = _
        rw [removed]
        rfl
    · exact .inl (apart _ fun given => same (templatePath_injective given))

/-- Making a draft of the pointer changes no document. -/
theorem effect_makeDraft {stem : String} (reached : w.tree.Reached s.root)
    (there : s.Present w.tree id) :
    Effect s w.tree (w.perform (.makeTemporary s.root stem)).2.tree (.stored id) (.stored id) := by
  have document (other : String) : (w.perform (.makeTemporary s.root stem)).2.tree.node?
      (s.templatePath other) = w.tree.node? (s.templatePath other) := by
    refine World.node?_perform named ?_
    rintro ⟨name, -, given⟩
    exact templatePath_ne_draft given
  have pointer : (w.perform (.makeTemporary s.root stem)).2.tree.node? s.pointerPath =
      w.tree.node? s.pointerPath := by
    refine World.node?_perform named ?_
    rintro ⟨name, temporary, given⟩
    exact pointerPath_ne_draft temporary given
  exact ⟨⟨World.reached_perform reached, there.congr (document id)⟩, fun other => .inl (document other),
    .inl pointer, fun _ => False.elim⟩

/-- Writing a draft of the pointer changes no document. -/
theorem effect_draft (temporary : IsTemporary name) {content : ByteArray}
    (pointing : (readingOf content).bind pointerOf = .ok (some id))
    (succeeds : (w.perform (.write (s.root ++ [name]) content)).1 = .ok ())
    (reached : w.tree.Reached s.root) (there : s.Present w.tree id) : Effect s w.tree
      (w.perform (.write (s.root ++ [name]) content)).2.tree (.stored id) (.drafted id name) := by
  have document (other : String) : (w.perform (.write (s.root ++ [name]) content)).2.tree.node?
      (s.templatePath other) = w.tree.node? (s.templatePath other) :=
    World.node?_perform named templatePath_ne_draft
  have pointer : (w.perform (.write (s.root ++ [name]) content)).2.tree.node? s.pointerPath =
      w.tree.node? s.pointerPath := World.node?_perform named (pointerPath_ne_draft temporary)
  have held : (w.perform (.write (s.root ++ [name]) content)).2.tree.node? (s.root ++ [name]) =
      some (.file content) := by
    obtain ⟨tree, written, world⟩ := World.change_eq_ok succeeds
    change (w.change _).2.tree.node? _ = _
    rw [world, FileTree.write_eq_ok written]
    exact FileTree.node?_put_self (by simp)
  exact ⟨⟨World.reached_perform reached, there.congr (document id), temporary, content, held, pointing⟩,
    fun other => .inl (document other), .inl pointer, fun _ => False.elim⟩

/-- Moving the draft to the place of the pointer lets it name a template that is there. -/
theorem effect_point (succeeds : (w.perform (.rename (s.root ++ [name]) s.pointerPath)).1 = .ok ())
    (fact : (Phase.drafted id name).Fact s w.tree) : Effect s w.tree
      (w.perform (.rename (s.root ++ [name]) s.pointerPath)).2.tree (.drafted id name) (.stored id) := by
  obtain ⟨reached, there, -, content, held, pointing⟩ := fact
  have document (other : String) :
      (w.perform (.rename (s.root ++ [name]) s.pointerPath)).2.tree.node? (s.templatePath other) =
        w.tree.node? (s.templatePath other) := by
    refine World.node?_perform named ?_
    rintro (given | given)
    · exact templatePath_ne_draft given
    · exact pointerPath_ne_templatePath given.symm
  have present : s.Present (w.perform (.rename (s.root ++ [name]) s.pointerPath)).2.tree id :=
    there.congr (document id)
  obtain ⟨tree, moved, world⟩ := World.change_eq_ok succeeds
  have put : (w.perform (.rename (s.root ++ [name]) s.pointerPath)).2.tree.node? s.pointerPath =
      some (.file content) := by
    change (w.change _).2.tree.node? _ = _
    rw [world]
    exact (FileTree.rename_within moved held).2.2
  refine ⟨⟨World.reached_perform reached, present⟩, fun other => .inl (document other),
    .inr (.inr ⟨id, ?_, present⟩), fun _ => False.elim⟩
  unfold pointer
  rw [put]
  exact pointing

/-- Removing the pointer while it is there leaves none. -/
theorem effect_clear (succeeds : (Action.unlink s.pointerPath).Succeeds
      (w.perform (.unlink s.pointerPath)).1) (fact : (Phase.naming id).Fact s w.tree) :
    Effect s w.tree (w.perform (.unlink s.pointerPath)).2.tree (.naming id) (.both id) := by
  obtain ⟨reached, content, there⟩ := fact
  have document (other : String) : (w.perform (.unlink s.pointerPath)).2.tree.node?
      (s.templatePath other) = w.tree.node? (s.templatePath other) :=
    World.node?_perform named fun given => pointerPath_ne_templatePath given.symm
  have calm (e : FileFault) (failed : w.tree.unlink s.pointerPath = .error e) :
      e.cause = .missing := by
    apply succeeds e
    show (w.change _).1 = _
    rw [failed]
    rfl
  have gone : (w.perform (.unlink s.pointerPath)).2.tree.node? s.pointerPath = none := by
    show (w.change _).2.tree.node? _ = _
    rw [unlink_of_file reached there calm]
    exact FileTree.node?_remove_self (by simp [pointerPath])
  refine ⟨World.reached_perform reached, fun other => .inl (document other), .inr (.inl gone),
    fun _ _ => .inr ?_⟩
  rw [pointer_of_none gone]
  intro names
  cases names

end Moves

/-- A pointer that was looked at names the template that is removed, or another one. -/
theorem effect_look (succeeds : (Action.read s.pointerPath).Succeeds
      (w.perform (.read s.pointerPath)).1) (reached : w.tree.Reached s.root) :
    Effect s w.tree w.tree (.clearing id)
      (if namedBy? (w.tree.read s.pointerPath) = some id then .naming id else .both id) := by
  split
  · next names =>
    exact .of_frame ⟨reached, file_of_namedBy? names⟩ (fun _ _ _ => rfl) fun _ removing => removing
  · next other =>
    refine ⟨reached, fun _ => .inl rfl, .inl rfl, ?_⟩
    rintro _ rfl
    refine .inr fun names => other ?_
    rw [← pointer_of_read reached succeeds] at names
    rw [namedBy?, names]

/-- What each move does to what locks guard. -/
theorem Move.effect (move : Move s removes phase action after) (named : w.Names IsTemporary)
    (succeeds : action.Succeeds (w.perform action).1) (fact : phase.Fact s w.tree) :
    Effect s w.tree (w.perform action).2.tree phase (after (w.perform action).1) := by
  have root : w.tree.Reached s.root → (w.perform action).2.tree.Reached s.root := World.reached_perform
  have apart (q : Path) (untouched : ¬ action.Touches IsTemporary q) :
      (w.perform action).2.tree.node? q = w.tree.node? q := World.node?_perform named untouched
  have frame (common : ∀ q, action.Touches IsTemporary q → s.Common q) (lock q : Path)
      (guards : s.Guards lock q) : (w.perform action).2.tree.node? q = w.tree.node? q :=
    apart q fun touched => not_common_of_guards guards (common q touched)
  have stay (common : ∀ q, action.Touches IsTemporary q → s.Common q) :
      Effect s w.tree (w.perform action).2.tree phase phase := by
    refine .of_frame (fact_congr fact ?_ root) (frame common) fun _ => id
    rintro q ⟨lock, -, guards⟩
    exact frame common lock q guards
  cases move with
  | read | report => exact stay fun _ => False.elim
  | ensureTemplates => exact stay fun _ => .templates
  | ensureLocks => exact stay fun _ => .locks
  | ensureRoot => exact stay fun _ way => .templates (way.trans (List.prefix_append _ _))
  | touchLock phase name => exact stay fun _ same => same ▸ .lock name
  | makeTemporary => exact stay fun _ ⟨_, temporary, same⟩ => same ▸ .temporary temporary
  | write id temporary => exact stay fun _ same => same ▸ .temporary temporary
  | lockTemplate id =>
    obtain ⟨tree, appended, -⟩ := World.acquire_eq_acquired succeeds
    obtain ⟨m, locks⟩ := FileTree.reached_of_update appended
    obtain ⟨walked, directory, -, -⟩ := FileTree.walk_concat_eq_ok_iff.mp locks
    exact .of_frame (root ⟨walked, directory⟩) (frame fun _ same => same ▸ .lock _) fun _ => False.elim
  | lockPointer id =>
    exact .of_frame (root fact) (frame fun _ same => same ▸ .lock _) fun _ => False.elim
  | lockCleared id =>
    exact .of_frame (root fact) (frame fun _ same => same ▸ .lock _) fun _ removing => removing
  | releasePointer id => exact .of_frame fact (frame fun _ => False.elim) fun _ => False.elim
  | releaseStored id => exact .of_frame fact.1 (frame fun _ => False.elim) fun _ => False.elim
  | releaseTemplate id => exact .of_frame trivial (frame fun _ => False.elim) fun _ => False.elim
  | place id temporary => exact effect_place named temporary succeeds fact
  | remove allowed => exact effect_remove named fact
  | find id =>
    dsimp only
    split
    · next there =>
      exact .of_frame ⟨fact, FileTree.node?_of_has there⟩ (frame fun _ => False.elim)
        fun _ => False.elim
    · exact .of_frame fact (frame fun _ => False.elim) fun _ => False.elim
  | makeDraft id stem => exact effect_makeDraft named fact.1 fact.2
  | draft id temporary pointing => exact effect_draft named temporary pointing succeeds fact.1 fact.2
  | point id temporary => exact effect_point named succeeds fact
  | look id => exact effect_look succeeds fact
  | clear id => exact effect_clear named succeeds fact

end FileStore

end InvoiceForms
