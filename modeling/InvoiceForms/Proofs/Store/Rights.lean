import InvoiceForms.Proofs.Store.Deeds
import InvoiceForms.Proofs.Store.Ownership
import InvoiceForms.Proofs.Store.Places

/-!
# Rights over documents and the pointer

What an action does not take away stays. Of all that the operations of a store do, only those that may
remove a template take its document away, and only those that may point make the pointer name one. Who
removes with care takes a document away only when it has seen that the pointer does not name it.
-/

namespace InvoiceForms

/-- Whether an action takes away what is at a path, if it succeeds. -/
def Action.Removes : {α : Type} → Action α → Path → Prop
  | _, .unlink p, q => q = p
  | _, .rename source _, q => q = source
  | _, _, _ => False

namespace FileTree

variable {t t' : FileTree} {p q : Path}

theorem isSome_put {n : Node} (there : (t.node? q).isSome = true) : ((t.put p n).node? q).isSome = true := by
  by_cases same : q = p
  · subst same
    by_cases top : q = []
    · subst top
      rfl
    · rw [node?_put_self top]
      rfl
  · rwa [node?_put_of_ne same]

theorem isSome_of_update {f : ByteArray → ByteArray} (given : t.update p f = .ok t')
    (there : (t.node? q).isSome = true) : (t'.node? q).isSome = true := by
  obtain ⟨old, rfl⟩ := update_eq_ok given
  exact isSome_put there

/-- Walking into a directory that is reached depends on what is there alone. -/
theorem Reached.walk_concat {d : Path} (reached : t.Reached d) (name : String) :
    t.walk [] (d ++ [name]) =
      if maxNameBytes < name.utf8ByteSize then .error .nameTooLong
      else match t.node? (d ++ [name]) with
        | some n => .ok n
        | none => .error .missing := by
  obtain ⟨⟨m, walked⟩, inside⟩ := reached
  rw [walk_append, walked]
  show t.walk ([] ++ d) [name] = _
  rw [List.nil_append, walk, inside]
  dsimp only
  split
  · rfl
  · cases found : t.node? (d ++ [name]) with
    | none => rfl
    | some n =>
      rw [Option.isNone_some, if_neg Bool.false_ne_true, walk, found]
      rfl

theorem read_congr {d : Path} {name : String} (reached : t.Reached d) (reached' : t'.Reached d)
    (same : t'.node? (d ++ [name]) = t.node? (d ++ [name])) :
    t'.read (d ++ [name]) = t.read (d ++ [name]) := by
  unfold read find
  rw [reached.walk_concat, reached'.walk_concat, same]

end FileTree

namespace World

variable {w : World} {α : Type} {action : Action α} {q : Path}

theorem isSome_change {changed : Except FileFault FileTree} (there : (w.tree.node? q).isSome = true)
    (kept : ∀ tree, changed = .ok tree → (tree.node? q).isSome = true) :
    ((w.change changed).2.tree.node? q).isSome = true := by
  cases changed with
  | ok tree => exact kept tree rfl
  | error e => exact there

/-- What an action does not take away is there behind it. -/
theorem isSome_perform (keeps : ¬ action.Removes q) (there : (w.tree.node? q).isSome = true) :
    ((w.perform action).2.tree.node? q).isSome = true := by
  cases action with
  | makeDirectories p =>
    refine isSome_change there fun tree made => ?_
    obtain ⟨n, found⟩ := Option.isSome_iff_exists.mp there
    rw [FileTree.node?_of_makeDirectories_of_some made found]
    rfl
  | touch p =>
    refine isSome_change there fun tree touched => ?_
    unfold FileTree.touch at touched
    split at touched
    · cases touched
      exact there
    · exact FileTree.isSome_of_update touched there
  | write p content => exact isSome_change there fun _ given => FileTree.isSome_of_update given there
  | append p content => exact isSome_change there fun _ given => FileTree.isSome_of_update given there
  | rename source target =>
    refine isSome_change there fun tree moved => ?_
    obtain ⟨content, -, rfl⟩ := FileTree.rename_eq_ok moved
    refine FileTree.isSome_put ?_
    rwa [FileTree.node?_remove_of_ne keeps]
  | unlink p =>
    refine isSome_change there fun tree removed => ?_
    obtain ⟨content, -, rfl⟩ := FileTree.unlink_eq_ok removed
    rwa [FileTree.node?_remove_of_ne keeps]
  | acquire p =>
    show ((w.acquire p).2.tree.node? q).isSome = true
    unfold acquire
    cases appended : w.tree.append p .empty with
    | error e => exact there
    | ok tree =>
      dsimp only
      split <;> exact FileTree.isSome_of_update appended there
  | makeTemporary directory stem =>
    show ((w.makeTemporary directory stem).2.tree.node? q).isSome = true
    unfold makeTemporary
    dsimp only
    split
    · next written => exact FileTree.isSome_of_update written there
    · exact there
  | _ => exact there

end World

namespace FileStore

variable {s : FileStore} {tree : FileTree} {id : String}

/-- What reading the pointer gives names what the pointer names. -/
theorem namedBy?_read_iff : namedBy? (tree.read s.pointerPath) = some id ↔
    s.pointed tree = .ok (some id) := by
  have same : readingFrom (tree.read s.pointerPath) = readingAt tree s.pointerPath := by
    unfold readingFrom readingAt
    cases tree.read s.pointerPath <;> rfl
  unfold namedBy? pointed
  rw [same]
  cases (readingAt tree s.pointerPath).bind pointerOf <;> simp

theorem namedBy?_eq_some {result : Except FileFault ByteArray} (named : namedBy? result = some id) :
    ∃ content members, result = .ok content ∧
      readingOf content = .ok (.found (.object members)) ∧ pointedId? members = some id := by
  unfold namedBy? readingFrom at named
  cases result with
  | error e =>
    by_cases missing : e.cause = .missing
    · simp [missing, Except.bind, pointerOf] at named
    · simp [missing, Except.bind, pointerOf] at named
  | ok content =>
    refine ⟨content, ?_⟩
    dsimp only at named
    cases reading : readingOf content with
    | error e => simp [reading, Except.bind] at named
    | ok r =>
      rw [reading] at named
      cases r with
      | found document =>
        cases document with
        | object members => exact ⟨members, rfl, rfl, named⟩
        | _ => cases named
      | _ => cases named

/-- Looking for the pointer reads one file, and where that names a template there is no more to do. -/
theorem defaultId_eq : ∃ rest, s.defaultId.run = (Program.perform (.read s.pointerPath) >>= rest) ∧
    ∀ result id, namedBy? result = some id → rest result = pure (.ok (some id)) := by
  refine ⟨_, rfl, fun result id named => ?_⟩
  obtain ⟨content, members, rfl, reading, names⟩ := namedBy?_eq_some named
  change Program.bind (MonadExcept.ofExcept (readingOf content) : StoreProgram Reading).run _ = _
  rw [reading, ← names]
  rfl

/-- Whether the pointer stands in its directory, if it stands anywhere. -/
def Grounded (s : FileStore) (tree : FileTree) : Prop :=
  tree.node? s.pointerPath ≠ none → tree.Reached s.root

theorem pointed_congr {tree' : FileTree} (grounded : s.Grounded tree) (reached' : tree'.Reached s.root)
    (same : tree'.node? s.pointerPath = tree.node? s.pointerPath)
    (names : s.pointed tree' = .ok (some id)) : s.pointed tree = .ok (some id) := by
  obtain ⟨content, there⟩ := file_of_namedBy? (namedBy?_read_iff.mpr names)
  have reached : tree.Reached s.root := grounded (by simp [← same, there])
  rw [← namedBy?_read_iff] at names ⊢
  rwa [pointerPath, FileTree.read_congr reached reached' same] at names

namespace Deed

variable {removes : String → Prop} {points : Prop} {α : Type} {action : Action α}
  (deed : s.Deed IsTemporary removes points action)

include deed

/-- Who takes away the document of a template unlinks it, and has the right to. -/
theorem unlinks (taken : action.Removes (s.templatePath id)) :
    removes id ∧ (⟨α, action⟩ : Sigma Action) = ⟨_, .unlink (s.templatePath id)⟩ := by
  have common {goal : Prop} {name : String} (temporary : IsTemporary name)
      (same : s.templatePath id = s.templatesPath ++ [name]) : goal :=
    absurd (same ▸ Common.temporary temporary) not_common_templatePath
  cases deed with
  | look looks =>
    cases action with
    | unlink | rename => cases looks
    | _ => cases taken
  | place isFresh other => exact common isFresh taken
  | discard isFresh => exact common isFresh taken
  | point isFresh may => exact absurd taken templatePath_ne_draft
  | discardDraft isFresh => exact absurd taken templatePath_ne_draft
  | remove may =>
    obtain rfl := templatePath_injective taken
    exact ⟨may, rfl⟩
  | clear => exact absurd taken.symm pointerPath_ne_templatePath
  | _ => cases taken

/-- A deed leaves the pointer as it is, takes it away, or moves a file from its directory there. -/
theorem pointer_cases {w : World} (named : w.Names IsTemporary) :
    (w.perform action).2.tree.node? s.pointerPath = w.tree.node? s.pointerPath ∨
      (w.perform action).2.tree.node? s.pointerPath = none ∨
      points ∧ (w.perform action).2.tree.Reached s.root := by
  have stays (apart : ¬ action.Touches IsTemporary s.pointerPath) :
      (w.perform action).2.tree.node? s.pointerPath = w.tree.node? s.pointerPath :=
    World.node?_perform named apart
  have aside (common : s.Common s.pointerPath) : False := not_common_pointerPath common
  cases deed with
  | look looks => exact .inl (by rw [World.tree_perform_of_looks looks])
  | release => exact .inl rfl
  | ensureTemplates => exact .inl (stays fun way => aside (.templates way))
  | ensureLocks => exact .inl (stays fun way => aside (.locks way))
  | ensureRoot =>
    exact .inl (stays fun way => aside (.templates (way.trans (List.prefix_append _ _))))
  | touchLock name => exact .inl (stays fun same => aside (same ▸ .lock name))
  | acquire name => exact .inl (stays fun same => aside (same ▸ .lock name))
  | makeTemporary =>
    exact .inl (stays fun ⟨_, temporary, same⟩ => aside (same ▸ .temporary temporary))
  | write isFresh => exact .inl (stays fun same => aside (same ▸ .temporary isFresh))
  | discard isFresh => exact .inl (stays fun same => aside (same ▸ .temporary isFresh))
  | place isFresh id =>
    exact .inl (stays fun same => same.elim (fun same => aside (same ▸ .temporary isFresh))
      pointerPath_ne_templatePath)
  | makeDraft =>
    exact .inl (stays fun ⟨_, temporary, same⟩ => pointerPath_ne_draft temporary same)
  | draft isFresh => exact .inl (stays (pointerPath_ne_draft isFresh))
  | discardDraft isFresh => exact .inl (stays (pointerPath_ne_draft isFresh))
  | remove => exact .inl (stays pointerPath_ne_templatePath)
  | clear =>
    cases removed : w.tree.unlink s.pointerPath with
    | error e =>
      refine .inl ?_
      show (w.change _).2.tree.node? _ = _
      rw [removed]
      rfl
    | ok tree =>
      refine .inr (.inl ?_)
      obtain ⟨content, -, rfl⟩ := FileTree.unlink_eq_ok removed
      show (w.change _).2.tree.node? _ = _
      rw [removed]
      exact FileTree.node?_remove_self (by simp [pointerPath])
  | @point name isFresh may =>
    cases moved : w.tree.rename (s.root ++ [name]) s.pointerPath with
    | error e =>
      refine .inl ?_
      show (w.change _).2.tree.node? _ = _
      rw [moved]
      rfl
    | ok tree =>
      obtain ⟨content, found, -⟩ := FileTree.rename_eq_ok moved
      obtain ⟨walked, directory, -⟩ :=
        FileTree.walk_concat_eq_ok_iff.mp (FileTree.find_eq_ok_iff.mp found).2
      exact .inr (.inr ⟨may, World.reached_perform ⟨walked, directory⟩⟩)

end Deed

end FileStore

/-- Whether the result of an action shows that the pointer does not name a template. -/
def Action.Clears (s : FileStore) (id : String) : {α : Type} → Action α → α → Prop
  | _, .read p, result => p = s.pointerPath ∧ FileStore.namedBy? result ≠ some id
  | _, _, _ => False

/-- Whether a program takes away the document of a template only when it has seen that the pointer does
not name it. -/
def Program.Checks (s : FileStore) (id : String) {α : Type} : Program α → Prop
  | done _ => True
  | act action next => ¬ action.Removes (s.templatePath id) ∧ ∀ w : World, w.Names IsTemporary →
    action.Clears s id (w.perform action).1 ∨ (next (w.perform action).1).Checks s id

namespace Program

variable {s : FileStore} {id : String} {α β : Type}

theorem Checks.bind {p : Program α} {f : α → Program β} (first : p.Checks s id)
    (rest : ∀ a, (f a).Checks s id) : (p >>= f).Checks s id := by
  induction p with
  | done a => exact rest a
  | act action next ih => exact ⟨first.1, fun w named => (first.2 w named).imp_right (ih _)⟩

/-- Who takes no document away need not look. -/
theorem Only.checks {allowed : {β : Type} → Action β → Prop} {p : Program α}
    (only : p.Only IsTemporary allowed)
    (keeps : ∀ {β : Type} {action : Action β}, allowed action → ¬ action.Removes (s.templatePath id)) :
    p.Checks s id := by
  induction p with
  | done a => trivial
  | act action next ih => exact ⟨keeps only.1, fun w named => .inr (ih _ (only.2 w named))⟩

end Program

end InvoiceForms
