import InvoiceForms.Proofs.Store.Access
import InvoiceForms.Proofs.Store.Footprint

/-!
# What stands in the way of files

Where the directories of a store are there and a name is short enough, the node at a path alone says
what file operations on it give. So it can be said without running anything when a lock is taken, a
document is removed, and the pointer is read.
-/

namespace InvoiceForms

open InvoiceForms.Results
open Runner (program)

namespace FileTree

variable {t t' : FileTree} {p d e : Path} {name : String} {content : ByteArray}

/-- In a directory that is reached, what is found is the node. -/
theorem Fits.find_eq (fits : Fits d name) (reached : t.Reached d) : t.find (d ++ [name]) =
    match t.node? (d ++ [name]) with
    | some n => .ok n
    | none => .error { cause := .missing, path := d ++ [name] } := by
  cases found : t.node? (d ++ [name]) with
  | some n =>
    exact find_eq_ok_iff.mpr
      ⟨fits.path, walk_concat_eq_ok_iff.mpr ⟨reached.walked, reached.directory, fits.name, found⟩⟩
  | none =>
    have missing := fits.read_missing reached found
    unfold read at missing
    cases given : t.find (d ++ [name]) with
    | ok n =>
      obtain ⟨-, -, -, there⟩ := walk_concat_eq_ok_iff.mp (find_eq_ok_iff.mp given).2
      rw [found] at there
      cases there
    | error e =>
      rw [given] at missing
      cases missing
      rfl

/-- What leads to a directory that is reached is reached. -/
theorem Reached.of_append (reached : t.Reached (d ++ e)) : t.Reached d := by
  induction e using List.reverseRecOn with
  | nil => rwa [List.append_nil] at reached
  | append_singleton e name ih =>
    rw [← List.append_assoc] at reached
    exact ih (reached_concat_iff.mp reached).1

/-- Directories that are there need not be made. -/
theorem makeFrom_of_reached {target names : Path} (reached : t.Reached (d ++ names)) :
    makeFrom target t d names = .ok t := by
  induction names generalizing d with
  | nil => rfl
  | cons name names ih =>
    rw [List.append_cons] at reached
    obtain ⟨-, short, there⟩ := reached_concat_iff.mp reached.of_append
    unfold makeFrom
    dsimp only
    rw [if_neg (Nat.not_lt.mpr short), there]
    exact ih reached

theorem makeDirectories_of_reached (reached : t.Reached p) (short : tooLong p = false) :
    t.makeDirectories p = .ok t := by
  unfold makeDirectories
  rw [short]
  exact makeFrom_of_reached (d := []) reached

/-- The directories that are made lead on from the one that was reached. -/
theorem reached_of_makeFrom {target names : Path} (reached : t.Reached d)
    (made : makeFrom target t d names = .ok t') : t'.Reached (d ++ names) := by
  induction names generalizing t d with
  | nil =>
    cases made
    rwa [List.append_nil]
  | cons name names ih =>
    rw [List.append_cons]
    unfold makeFrom at made
    dsimp only at made
    split at made
    · cases made
    · next short =>
      split at made
      · next there => exact ih (reached_concat_iff.mpr ⟨reached, Nat.not_lt.mp short, there⟩) made
      · split at made <;> cases made
      · next missing =>
        refine ih (reached_concat_iff.mpr ⟨?_, Nat.not_lt.mp short, node?_put_self (by simp)⟩) made
        refine reached.of_directories fun q there => ?_
        rw [node?_put_of_ne, there]
        rintro rfl
        rw [missing] at there
        cases there

theorem reached_of_makeDirectories (made : t.makeDirectories p = .ok t') :
    t'.Reached p ∧ tooLong p = false := by
  unfold makeDirectories at made
  split at made
  · cases made
  · next short => exact ⟨reached_of_makeFrom (d := []) ⟨⟨_, rfl⟩, rfl⟩ made, Bool.not_eq_true _ ▸ short⟩

/-- A directory has no longer path than what is in it. -/
theorem size_shown_le_concat (d : Path) (name : String) :
    d.shown.utf8ByteSize ≤ (d ++ [name] : Path).shown.utf8ByteSize := by
  induction d with
  | nil => exact Nat.zero_le _
  | cons part d ih =>
    unfold Path.shown Text.joinWith at ih ⊢
    have longer : ("/".intercalate (part :: (d ++ [name]))).utf8ByteSize =
        part.utf8ByteSize + "/".utf8ByteSize + ("/".intercalate (d ++ [name])).utf8ByteSize := by
      rw [String.intercalate_cons_of_ne_nil (by simp)]
      simp only [String.utf8ByteSize_append]
    rw [List.cons_append, longer]
    by_cases last : d = []
    · subst last
      rw [String.intercalate_singleton]
      omega
    · rw [String.intercalate_cons_of_ne_nil last]
      simp only [String.utf8ByteSize_append]
      omega

theorem tooLong_of_concat (short : tooLong (d ++ [name]) = false) : tooLong d = false := by
  have longer := size_shown_le_concat d name
  unfold tooLong at short ⊢
  rw [decide_eq_false_iff_not] at short ⊢
  omega

/-- A file can be made or changed where no directory stands. -/
theorem Fits.update_eq (fits : Fits d name) (reached : t.Reached d) (f : ByteArray → ByteArray) :
    t.update (d ++ [name]) f =
      match t.node? (d ++ [name]) with
      | some (.file old) => .ok (t.put (d ++ [name]) (.file (f old)))
      | some .directory => fail .isDirectory (d ++ [name])
      | none => .ok (t.put (d ++ [name]) (.file (f .empty))) := by
  unfold update
  rw [fits.find_eq reached]
  cases t.node? (d ++ [name]) with
  | some n => cases n <;> rfl
  | none =>
    obtain ⟨m, walked⟩ := reached.walked
    have parent : t.find d = .ok m := find_eq_ok_iff.mpr ⟨tooLong_of_concat fits.path, walked⟩
    dsimp only
    rw [if_pos rfl, List.dropLast_concat, parent]

/-- Touching makes a file where nothing stands. -/
theorem Fits.touch_eq (fits : Fits d name) (reached : t.Reached d) : t.touch (d ++ [name]) =
    .ok (if (t.node? (d ++ [name])).isNone then t.put (d ++ [name]) (.file .empty) else t) := by
  unfold touch has
  rw [fits.update_eq reached, fits.find_eq reached]
  cases t.node? (d ++ [name]) with
  | some n => rfl
  | none => rfl

theorem Fits.unlink_eq (fits : Fits d name) (reached : t.Reached d) : t.unlink (d ++ [name]) =
    match t.node? (d ++ [name]) with
    | some (.file _) => .ok (t.remove (d ++ [name]))
    | some .directory => fail .isDirectory (d ++ [name])
    | none => fail .missing (d ++ [name]) := by
  unfold unlink
  rw [fits.find_eq reached]
  cases t.node? (d ++ [name]) with
  | some n => cases n <;> rfl
  | none => rfl

theorem Fits.read_eq (fits : Fits d name) (reached : t.Reached d) : t.read (d ++ [name]) =
    match t.node? (d ++ [name]) with
    | some (.file content) => .ok content
    | some .directory => fail .isDirectory (d ++ [name])
    | none => fail .missing (d ++ [name]) := by
  unfold read
  rw [fits.find_eq reached]
  cases t.node? (d ++ [name]) with
  | some n => cases n <;> rfl
  | none => rfl

end FileTree

namespace World

variable {w : World} {p : Path}

/-- Changing files takes no lock and frees none. -/
@[simp] theorem locked_change (w : World) (changed : Except FileFault FileTree) :
    (w.change changed).2.locked = w.locked := by
  cases changed <;> rfl

/-- Removing what is no directory fails only where nothing is. -/
theorem missing_of_unlink {d : Path} {name : String} {e : FileFault} (fits : FileTree.Fits d name)
    (reached : w.tree.Reached d) (other : w.tree.node? (d ++ [name]) ≠ some .directory)
    (failed : (w.perform (.unlink (d ++ [name]))).1 = .error e) : e.cause = .missing := by
  change (w.change (w.tree.unlink (d ++ [name]))).1 = _ at failed
  rw [fits.unlink_eq reached] at failed
  cases found : w.tree.node? (d ++ [name]) with
  | none =>
    rw [found] at failed
    cases failed
    rfl
  | some n =>
    rw [found] at failed
    cases n with
    | directory => exact absurd found other
    | file content => cases failed

theorem reached_of_makeDirectories (given : (w.perform (.makeDirectories p)).1 = .ok ()) :
    (w.perform (.makeDirectories p)).2.tree.Reached p ∧ FileTree.tooLong p = false := by
  obtain ⟨tree, made, world⟩ := change_eq_ok given
  change (w.change (w.tree.makeDirectories p)).2.tree.Reached p ∧ _
  rw [world]
  exact FileTree.reached_of_makeDirectories made

theorem locked_acquire (given : (w.acquire p).1 = .acquired) :
    (w.acquire p).2.locked = p :: w.locked := by
  unfold acquire at given ⊢
  cases appended : w.tree.append p .empty with
  | error e =>
    rw [appended] at given
    cases given
  | ok tree =>
    rw [appended] at given
    dsimp only at given ⊢
    split at given
    · cases given
    · next free => rw [if_neg free]

theorem acquire_eq_acquired_iff {d : Path} {name : String} (fits : FileTree.Fits d name)
    (reached : w.tree.Reached d) : (w.acquire (d ++ [name])).1 = .acquired ↔
      d ++ [name] ∉ w.locked ∧ w.tree.node? (d ++ [name]) ≠ some .directory := by
  unfold acquire FileTree.append
  rw [fits.update_eq reached]
  cases found : w.tree.node? (d ++ [name]) with
  | none => by_cases held : d ++ [name] ∈ w.locked <;> simp [held]
  | some n =>
    cases n with
    | directory => simp [FileTree.fail]
    | file old => by_cases held : d ++ [name] ∈ w.locked <;> simp [held]

end World

namespace FileStore

open StoreProgram

variable {s : FileStore} {w w' : World} {tree : FileTree} {name : String}

/-- A tree in which the directories of a store are there and can be asked for. -/
structure Ready (s : FileStore) (tree : FileTree) : Prop where
  templates : tree.Reached s.templatesPath
  locks : tree.Reached s.locksPath
  templatesShort : FileTree.tooLong s.templatesPath = false
  locksShort : FileTree.tooLong s.locksPath = false

theorem Ready.root (ready : s.Ready tree) : tree.Reached s.root := ready.templates.of_append

theorem Ready.perform {α : Type} (ready : s.Ready w.tree) (action : Action α) :
    s.Ready (w.perform action).2.tree :=
  { ready with
    templates := World.reached_perform ready.templates
    locks := World.reached_perform ready.locks }

/-- Whoever takes a lock finds the directories there, and holds the lock besides those held before. -/
theorem of_takeLock (taken : program.outcome (s.takeLock name) w = (.ok (), w')) :
    s.Ready w'.tree ∧ FileTree.Fits s.locksPath (name ++ ".lock") ∧
      w'.locked = s.lockPath name :: w.locked := by
  have calm : Calm (s.takeLock name) w := (candid_takeLock name).calm_of_ok (congrArg Prod.fst taken)
  unfold takeLock at calm taken
  obtain ⟨first, rest⟩ := calm.of_bind
  have templates := outcome_attempt (calm_attempt first) noAccess
  obtain ⟨second, rest⟩ := (rest templates).of_bind
  have locks := outcome_attempt (calm_attempt second) noAccess
  obtain ⟨third, rest⟩ := (rest locks).of_bind
  have touched := outcome_attempt (calm_attempt third) noAccess
  have acquired := calm_perform.mp (rest touched).of_bind.1
  rw [outcome_bind_of_ok templates, outcome_bind_of_ok locks, outcome_bind_of_ok touched,
    outcome_bind_of_ok (outcome_perform _ _), acquired] at taken
  cases taken
  obtain ⟨reached, short⟩ := World.reached_of_makeDirectories (calm_attempt first)
  obtain ⟨reached', short'⟩ := World.reached_of_makeDirectories (calm_attempt second)
  obtain ⟨tree, touched, -⟩ := World.change_eq_ok (calm_attempt third)
  have ready : s.Ready ((w.perform (.makeDirectories s.templatesPath)).2.perform
      (.makeDirectories s.locksPath)).2.tree :=
    ⟨World.reached_perform reached, reached', short, short'⟩
  refine ⟨(ready.perform _).perform _, .of_touch touched, (World.locked_acquire acquired).trans ?_⟩
  show s.lockPath name :: (World.change _ _).2.locked = _
  rw [World.locked_change]
  show s.lockPath name :: (World.change _ _).2.locked = _
  rw [World.locked_change]
  show s.lockPath name :: (World.change _ _).2.locked = _
  rw [World.locked_change]

/-- What bars a lock: it is held, or a directory stands in its place. -/
def Barred (s : FileStore) (name : String) (w : World) : Prop :=
  s.lockPath name ∈ w.locked ∨ w.tree.node? (s.lockPath name) = some .directory

/-- Where the directories are there, only a lock that is barred is not taken. -/
theorem takeLock_eq_error_iff (ready : s.Ready w.tree)
    (fits : FileTree.Fits s.locksPath (name ++ ".lock")) :
    (∃ e, program.answer (s.takeLock name) w = .error e) ↔ s.Barred name w := by
  let touched : FileTree := if (w.tree.node? (s.lockPath name)).isNone
    then w.tree.put (s.lockPath name) (.file .empty) else w.tree
  have templates : w.perform (.makeDirectories s.templatesPath) = (.ok (), w) :=
    congrArg w.change (FileTree.makeDirectories_of_reached ready.templates ready.templatesShort)
  have locks : w.perform (.makeDirectories s.locksPath) = (.ok (), w) :=
    congrArg w.change (FileTree.makeDirectories_of_reached ready.locks ready.locksShort)
  have touches : w.perform (.touch (s.lockPath name)) = (.ok (), { w with tree := touched }) :=
    congrArg w.change (fits.touch_eq ready.locks)
  have reached : touched.Reached s.locksPath := by
    have kept : (w.perform (.touch (s.lockPath name))).2.tree.Reached s.locksPath :=
      World.reached_perform ready.locks
    rwa [touches] at kept
  have node : touched.node? (s.lockPath name) = some .directory ↔
      w.tree.node? (s.lockPath name) = some .directory := by
    cases found : w.tree.node? (s.lockPath name) with
    | some n =>
      have same : touched = w.tree := by simp [touched, found]
      rw [same, found]
    | none =>
      have made : touched = w.tree.put (s.lockPath name) (.file .empty) := by simp [touched, found]
      rw [made, FileTree.node?_put_self (by simp [lockPath])]
      simp
  have tried : program.outcome (perform (.acquire (s.lockPath name))) { w with tree := touched } =
      (.ok (World.acquire { w with tree := touched } (s.lockPath name)).1,
        (World.acquire { w with tree := touched } (s.lockPath name)).2) := outcome_perform _ _
  have asked : (∃ e, program.answer (s.takeLock name) w = .error e) ↔
      (World.acquire { w with tree := touched } (s.lockPath name)).1 ≠ .acquired := by
    unfold takeLock
    rw [Runner.answer, outcome_bind_of_ok (outcome_attempt (congrArg Prod.fst templates) noAccess),
      templates, outcome_bind_of_ok (outcome_attempt (congrArg Prod.fst locks) noAccess), locks,
      outcome_bind_of_ok (outcome_attempt (congrArg Prod.fst touches) noAccess), touches,
      outcome_bind_of_ok tried]
    cases (World.acquire { w with tree := touched } (s.lockPath name)).1 with
    | acquired => simp
    | busy => simp
    | failed e => simp
  rw [asked, Barred, ← node, Ne, lockPath, World.acquire_eq_acquired_iff fits reached]
  tauto

/-- What is wrong with a pointer that cannot be read: it is a directory, or a file whose content is no
text or has integers without measure. -/
def PointerUnreadable (s : FileStore) (tree : FileTree) : Prop :=
  tree.node? s.pointerPath = some .directory ∨
    ∃ content e, tree.node? s.pointerPath = some (.file content) ∧ readingOf content = .error e

theorem pointerUnreadable_congr {tree tree' : FileTree}
    (same : tree'.node? s.pointerPath = tree.node? s.pointerPath) :
    s.PointerUnreadable tree' ↔ s.PointerUnreadable tree := by
  unfold PointerUnreadable
  rw [same]

/-- What a file holds has been read. -/
theorem readingOf_ne_unreadable (content : ByteArray) (e : FileFault) :
    readingOf content ≠ .ok (.unreadable e) := by
  unfold readingOf
  split
  · exact nofun
  · split <;> exact nofun

theorem pointed_eq_error_iff (reached : tree.Reached s.root)
    (fits : FileTree.Fits s.root "default.json") :
    (∃ e, s.pointed tree = .error e) ↔ s.PointerUnreadable tree := by
  unfold pointed readingAt PointerUnreadable
  rw [pointerPath, fits.read_eq reached]
  cases tree.node? (s.root ++ ["default.json"]) with
  | none => simp [FileTree.fail, pointerOf, Except.bind]
  | some n =>
    cases n with
    | directory => simp [FileTree.fail, pointerOf, Except.bind]
    | file content =>
      dsimp only
      cases reading : readingOf content with
      | error e => simp [Except.bind, reading]
      | ok r =>
        cases r with
        | unreadable e => exact absurd reading (readingOf_ne_unreadable content e)
        | found document => cases document <;> simp [pointerOf, Except.bind, reading]
        | _ => simp [pointerOf, Except.bind, reading]

end FileStore

end InvoiceForms
