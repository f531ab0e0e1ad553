import InvoiceForms.Proofs.Store.Calm

/-!
# What stores do to their files

In a calm run a lock is taken, a document is replaced and nothing else changes but the directories
of the store and the file of the lock. What is read after that is what was written.
-/

namespace InvoiceForms

open InvoiceForms.Text
open Runner (program)

namespace World

variable {w : World} {p : Path}

/-- A change that succeeds takes over the changed tree. -/
theorem change_eq_ok {changed : Except FileFault FileTree} (given : (w.change changed).1 = .ok ()) :
    ∃ tree, changed = .ok tree ∧ (w.change changed).2 = { w with tree := tree } := by
  cases changed with
  | ok tree => exact ⟨tree, rfl, rfl⟩
  | error e => cases given

theorem acquire_eq_acquired (given : (w.acquire p).1 = .acquired) :
    ∃ tree, w.tree.append p .empty = .ok tree ∧ (w.acquire p).2.tree = tree := by
  unfold acquire at given ⊢
  cases appended : w.tree.append p .empty with
  | error e =>
    rw [appended] at given
    cases given
  | ok tree =>
    rw [appended] at given
    dsimp only at given ⊢
    split at given
    · cases given
    · next free => exact ⟨tree, rfl, by rw [if_neg free]⟩

theorem node?_of_makeDirectories {q : Path} (given : (w.perform (.makeDirectories p)).1 = .ok ())
    (aside : ¬ q <+: p) : (w.perform (.makeDirectories p)).2.tree.node? q = w.tree.node? q := by
  obtain ⟨tree, made, world⟩ := change_eq_ok given
  change (w.change (w.tree.makeDirectories p)).2.tree.node? q = _
  rw [world]
  exact FileTree.node?_of_makeDirectories made aside

theorem node?_of_touch {q : Path} (given : (w.perform (.touch p)).1 = .ok ()) (other : q ≠ p) :
    (w.perform (.touch p)).2.tree.node? q = w.tree.node? q := by
  obtain ⟨tree, touched, world⟩ := change_eq_ok given
  change (w.change (w.tree.touch p)).2.tree.node? q = _
  rw [world]
  exact FileTree.node?_of_touch touched other

theorem node?_of_acquire {q : Path} (given : (w.perform (.acquire p)).1 = .acquired) (other : q ≠ p) :
    (w.perform (.acquire p)).2.tree.node? q = w.tree.node? q := by
  obtain ⟨tree, appended, same⟩ := acquire_eq_acquired given
  change (w.acquire p).2.tree.node? q = _
  rw [same]
  exact FileTree.node?_of_append appended other

theorem makeTemporary_eq_ok {stem : String} {temporary : Path}
    (given : (w.makeTemporary p stem).1 = .ok temporary) :
    temporary = p ++ [w.temporaryName stem] ∧
      (w.makeTemporary p stem).2 = { w with tree := w.tree.put temporary (.file .empty) } := by
  unfold makeTemporary at given ⊢
  dsimp only at given ⊢
  cases written : w.tree.write (p ++ [w.temporaryName stem]) .empty with
  | error e =>
    rw [written] at given
    cases given
  | ok tree =>
    rw [written] at given
    cases given
    rw [FileTree.write_eq_ok written]
    exact ⟨rfl, rfl⟩

end World

namespace FileStore

open StoreProgram

variable {s : FileStore} {w : World}

/-- Taking a lock in a calm run leaves everything but directories and the file of the lock. -/
theorem takeLock_calm {name : String} (calm : Calm (s.takeLock name) w) : ∃ w',
    program.outcome (s.takeLock name) w = (.ok (), w') ∧
      ∀ q, ¬ q <+: s.templatesPath → ¬ q <+: s.locksPath → q ≠ s.lockPath name →
        w'.tree.node? q = w.tree.node? q := by
  unfold takeLock at calm ⊢
  obtain ⟨first, rest⟩ := calm.of_bind
  have templates := outcome_attempt (calm_attempt first) noAccess
  obtain ⟨second, rest⟩ := (rest templates).of_bind
  have locks := outcome_attempt (calm_attempt second) noAccess
  obtain ⟨third, rest⟩ := (rest locks).of_bind
  have touched := outcome_attempt (calm_attempt third) noAccess
  have taken := calm_perform.mp (rest touched).of_bind.1
  let w₁ := (w.perform (.makeDirectories s.templatesPath)).2
  let w₂ := (w₁.perform (.makeDirectories s.locksPath)).2
  let w₃ := (w₂.perform (.touch (s.lockPath name))).2
  refine ⟨(w₃.perform (.acquire (s.lockPath name))).2, ?_, ?_⟩
  · rw [outcome_bind_of_ok templates, outcome_bind_of_ok locks, outcome_bind_of_ok touched,
      outcome_bind_of_ok (outcome_perform _ _), taken]
    rfl
  · intro q aside aside' other
    rw [World.node?_of_acquire taken other, World.node?_of_touch (calm_attempt third) other,
      World.node?_of_makeDirectories (calm_attempt second) aside',
      World.node?_of_makeDirectories (calm_attempt first) aside]

/-- A file that is replaced in a calm run holds the new content, and its directory is reached. What is
neither in the directory nor on the way to it stays. -/
theorem replaceFile_calm {directory : Path} {stem name : String} {content : ByteArray}
    (calm : (replaceFile directory stem (directory ++ [name]) content).Calm w) : ∃ w',
    (replaceFile directory stem (directory ++ [name]) content).run w = (.ok (), w') ∧
      (∃ m, w'.tree.walk [] directory = .ok m) ∧ w'.tree.node? directory = some .directory ∧
      w'.tree.node? (directory ++ [name]) = some (.file content) ∧
      ∀ q, ¬ q <+: directory → ¬ directory <+: q → w'.tree.node? q = w.tree.node? q := by
  unfold replaceFile at calm ⊢
  obtain ⟨made, rest⟩ := calm.of_perform
  have made' : (w.perform (.makeDirectories directory)).1 = .ok () := made
  rw [Program.run_perform_bind, made']
  rw [made'] at rest
  let w₁ := (w.perform (.makeDirectories directory)).2
  obtain ⟨⟨temporary, named⟩, rest⟩ := rest.of_perform
  dsimp only
  rw [Program.run_perform_bind, named]
  rw [named] at rest
  let w₂ := (w₁.perform (.makeTemporary directory stem)).2
  obtain ⟨written, rest⟩ := rest.of_perform
  have written' : (w₂.perform (.write temporary content)).1 = .ok () := written
  dsimp only
  rw [Program.run_perform_bind, written']
  rw [written'] at rest
  let w₃ := (w₂.perform (.write temporary content)).2
  obtain ⟨moved, rest⟩ := rest.of_perform
  have moved' : (w₃.perform (.rename temporary (directory ++ [name]))).1 = .ok () := moved
  dsimp only
  rw [Program.run_perform_bind, moved']
  refine ⟨(w₃.perform (.rename temporary (directory ++ [name]))).2, rfl, ?_⟩
  obtain ⟨path, world₂⟩ := World.makeTemporary_eq_ok named
  obtain ⟨tree₃, wrote, world₃⟩ := World.change_eq_ok written'
  obtain ⟨tree₄, renamed, world₄⟩ := World.change_eq_ok moved'
  obtain ⟨fresh, rfl⟩ : ∃ fresh, temporary = directory ++ [fresh] := ⟨_, path⟩
  have first : w₂.tree = w₁.tree.put (directory ++ [fresh]) (.file .empty) :=
    congrArg World.tree world₂
  have second : w₃.tree = tree₃ := congrArg World.tree world₃
  have third : (w₃.perform (.rename (directory ++ [fresh]) (directory ++ [name]))).2.tree = tree₄ :=
    congrArg World.tree world₄
  rw [first] at wrote
  rw [second] at renamed
  obtain ⟨reached, inside, there, frame⟩ := FileTree.replaced_within wrote renamed
  rw [third]
  refine ⟨reached, inside, there, fun q aside below => ?_⟩
  rw [frame q below, World.node?_of_makeDirectories made' aside]

theorem replaceDocument_calm {fault : FileFault → StoreFault} {directory : Path} {stem name : String}
    {document : Json}
    (calm : Calm (replaceDocument fault directory stem (directory ++ [name]) document) w) : ∃ w',
    program.outcome (replaceDocument fault directory stem (directory ++ [name]) document) w =
        (.ok (), w') ∧
      (∃ m, w'.tree.walk [] directory = .ok m) ∧ w'.tree.node? directory = some .directory ∧
      w'.tree.node? (directory ++ [name]) = some (.file (encode (documentText document))) ∧
      ∀ q, ¬ q <+: directory → ¬ directory <+: q → w'.tree.node? q = w.tree.node? q := by
  unfold replaceDocument at calm ⊢
  obtain ⟨w', ends, facts⟩ := replaceFile_calm (Program.calm_bind.mp calm.of_bind.1).1
  refine ⟨w', ?_, facts⟩
  have lifted := Runner.outcome_lift (ε := StoreFault) program
    (replaceFile directory stem (directory ++ [name]) (encode (documentText document))) w
  change _ = (Except.ok (Program.run _ w).1, (Program.run _ w).2) at lifted
  rw [ends] at lifted
  rw [outcome_bind_of_ok lifted]
  rfl

/-- A program under a lock is run behind taking the lock, and ends as it does. -/
theorem locked_calm {α : Type} {name : String} {body : StoreProgram α}
    (calm : Calm (s.locked name body) w) : ∃ w₁ w₂,
    (∀ q, ¬ q <+: s.templatesPath → ¬ q <+: s.locksPath → q ≠ s.lockPath name →
      w₁.tree.node? q = w.tree.node? q) ∧
    Calm body w₁ ∧ program.outcome (s.locked name body) w = (program.answer body w₁, w₂) ∧
      w₂.tree = (program.after body w₁).tree := by
  unfold locked at calm ⊢
  obtain ⟨first, rest⟩ := calm.of_bind
  obtain ⟨w₁, taken, frame⟩ := takeLock_calm first
  obtain ⟨lifted, -⟩ := (rest taken).of_bind
  rcases given : program.run body.run w₁ with ⟨answer, after⟩
  refine ⟨w₁, (after.perform (.release (s.lockPath name))).2, frame,
    (Program.calm_bind.mp lifted).1, ?_, ?_⟩
  · rw [outcome_bind_of_ok taken, outcome_bind_of_ok (Runner.outcome_lift _ _ _),
      outcome_bind_of_ok (outcome_perform _ _)]
    simp only [Runner.answer, Runner.outcome, given]
    cases answer <;> rfl
  · simp only [Runner.after, Runner.outcome, given]
    rfl

/-- The file of a lock that is taken can be asked for. -/
theorem fits_of_locked {α : Type} {name : String} {body : StoreProgram α}
    (calm : Calm (s.locked name body) w) : FileTree.Fits s.locksPath (name ++ ".lock") := by
  unfold locked at calm
  obtain ⟨takes, -⟩ := calm.of_bind
  unfold takeLock at takes
  obtain ⟨first, rest⟩ := takes.of_bind
  obtain ⟨second, rest⟩ := (rest (outcome_attempt (calm_attempt first) noAccess)).of_bind
  obtain ⟨third, -⟩ := (rest (outcome_attempt (calm_attempt second) noAccess)).of_bind
  obtain ⟨tree, touched, -⟩ := World.change_eq_ok (calm_attempt third)
  exact .of_touch touched

/-- What a tree says of the document at a path. -/
def readingAt (tree : FileTree) (p : Path) : Except StoreFault Reading :=
  match tree.read p with
  | .ok content => readingOf content
  | .error e => .ok (if e.cause = .missing then .absent else .unreadable e)

theorem outcome_readDocument (p : Path) (w : World) :
    program.outcome (readDocument p) w = (readingAt w.tree p, w) := by
  unfold readDocument
  rw [outcome_bind_of_ok (outcome_perform (.read p) w)]
  show program.outcome (match w.tree.read p with | .ok _ => _ | .error _ => _) w = _
  unfold readingAt
  cases w.tree.read p with
  | ok content =>
    dsimp only
    cases readingOf content <;> rfl
  | error e => rfl

theorem read_of_unreadable {tree : FileTree} {p : Path} {e : FileFault}
    (reading : readingAt tree p = .ok (.unreadable e)) : tree.read p = .error e := by
  unfold readingAt at reading
  cases given : tree.read p with
  | ok content =>
    rw [given] at reading
    change readingOf content = _ at reading
    unfold readingOf at reading
    split at reading
    · cases reading
    · split at reading <;> cases reading
  | error e' =>
    rw [given] at reading
    by_cases missing : e'.cause = .missing
    · simp [missing] at reading
    · simpa [missing] using reading

/-- What the reading of a pointer says. -/
def pointerOf : Reading → Except StoreFault (Option String)
  | .absent => .ok none
  | .unreadable e => .error (.unavailable (.readPointer e))
  | .malformed _ => .ok none
  | .found (.object members) => .ok (pointedId? members)
  | .found _ => .ok none

/-- Looking for the pointer changes the journal at most. -/
theorem outcome_defaultId (s : FileStore) (w : World) : ∃ journal, program.outcome s.defaultId w =
    ((readingAt w.tree s.pointerPath).bind pointerOf, { w with journal := journal }) := by
  unfold defaultId
  cases reading : readingAt w.tree s.pointerPath with
  | error e =>
    refine ⟨w.journal, ?_⟩
    rw [outcome_bind_of_error (by rw [outcome_readDocument, reading])]
    rfl
  | ok r =>
    have given : program.outcome (readDocument s.pointerPath) w = (.ok r, w) := by
      rw [outcome_readDocument, reading]
    rw [outcome_bind_of_ok given]
    cases r with
    | absent => exact ⟨w.journal, rfl⟩
    | unreadable e => exact ⟨w.journal, rfl⟩
    | malformed e => exact ⟨_, rfl⟩
    | found document => cases document <;> exact ⟨_, rfl⟩

/-- Where reading does not fail, the node in a directory that is reached says what is read. -/
theorem readingAt_calm {tree : FileTree} {d : Path} {name : String} {m : Node}
    (calm : ∀ e, tree.read (d ++ [name]) = .error e → e.cause = .missing)
    (reached : tree.walk [] d = .ok m) (inside : tree.node? d = some .directory) :
    readingAt tree (d ++ [name]) =
      match tree.node? (d ++ [name]) with
      | some (.file content) => readingOf content
      | _ => .ok .absent := by
  unfold readingAt
  cases read : tree.read (d ++ [name]) with
  | ok content =>
    have found := FileTree.read_eq_ok_iff.mp read
    obtain ⟨-, -, -, there⟩ :=
      FileTree.walk_concat_eq_ok_iff.mp (FileTree.find_eq_ok_iff.mp found).2
    rw [there]
  | error e =>
    have missing := calm e read
    dsimp only
    rw [if_pos missing]
    split
    · next content there =>
      rcases FileTree.read_of_node? reached inside there with given | given
      · rw [given] at read
        cases read
      · rw [given] at read
        cases read
        cases missing
    · rfl

/-- The id that the pointer of a store names, as far as its document can be read. -/
def pointer (s : FileStore) (tree : FileTree) : Except StoreFault (Option String) :=
  match tree.node? s.pointerPath with
  | some (.file content) => (readingOf content).bind pointerOf
  | _ => .ok none

theorem outcome_defaultId_calm {m : Node} (calm : Calm s.defaultId w)
    (reached : w.tree.walk [] s.root = .ok m) (inside : w.tree.node? s.root = some .directory) :
    ∃ journal, program.outcome s.defaultId w = (s.pointer w.tree, { w with journal := journal }) := by
  obtain ⟨journal, ends⟩ := outcome_defaultId s w
  have read := calm_perform.mp calm.of_bind.1.of_bind.1
  refine ⟨journal, ends.trans (congrArg (·, _) ?_)⟩
  rw [pointerPath, readingAt_calm read reached inside, pointer, pointerPath]
  split <;> rfl

/-- A tree in which the document of a template stands where the store looks for it. -/
structure Holds (s : FileStore) (t : Template) (tree : FileTree) : Prop where
  reached : ∃ m, tree.walk [] s.templatesPath = .ok m
  directory : tree.node? s.templatesPath = some .directory
  document : tree.node? (s.templatePath t.id) = some (.file (encode (documentText t.toDocument)))

/-- The root of a store that holds a document is reached, too. -/
theorem Holds.root {t : Template} {tree : FileTree} (holds : s.Holds t tree) :
    (∃ m, tree.walk [] s.root = .ok m) ∧ tree.node? s.root = some .directory := by
  obtain ⟨m, reached⟩ := holds.reached
  obtain ⟨root, inside, -, -⟩ := FileTree.walk_concat_eq_ok_iff.mp reached
  exact ⟨root, inside⟩

/-- Where the file of a template's lock can be asked for, its document can be, too: its path is
shorter. -/
theorem fits_document {id : String} (fits : FileTree.Fits s.locksPath (templateLock id ++ ".lock")) :
    FileTree.Fits s.templatesPath (id ++ suffix) := by
  obtain ⟨path, name⟩ := fits
  have ends : ".json".utf8ByteSize ≤ ".lock".utf8ByteSize := by decide
  have starts : "templates".utf8ByteSize ≤ ".locks".utf8ByteSize + "template-".utf8ByteSize := by
    decide
  unfold templateLock at path name
  refine ⟨?_, ?_⟩
  · unfold locksPath at path
    unfold templatesPath
    rw [List.append_assoc] at path ⊢
    refine FileTree.tooLong_append path nofun nofun ?_
    simp only [Path.shown, joinWith, suffix, List.singleton_append, String.intercalate_cons_cons,
      String.intercalate_singleton, String.utf8ByteSize_append]
    omega
  · simp only [suffix, String.utf8ByteSize_append] at name ⊢
    omega

/-- Where a document can be asked for, the pointer can be, too. -/
theorem fits_pointer {id : String} (fits : FileTree.Fits s.templatesPath (id ++ suffix)) :
    FileTree.Fits s.root "default.json" := by
  have path := fits.path
  have starts : "default.json".utf8ByteSize ≤ "templates".utf8ByteSize + "/".utf8ByteSize +
    ".json".utf8ByteSize := by decide
  unfold templatesPath at path
  rw [List.append_assoc] at path
  refine ⟨FileTree.tooLong_append path nofun nofun ?_, by decide⟩
  simp only [Path.shown, joinWith, suffix, List.singleton_append, String.intercalate_cons_cons,
    String.intercalate_singleton, String.utf8ByteSize_append]
  omega

theorem not_prefix_of_last {d : Path} {a b : String} {rest : Path} (distinct : a ≠ b) :
    ¬ d ++ [a] <+: d ++ b :: rest := by
  rw [List.prefix_append_right_inj]
  rintro ⟨more, same⟩
  exact distinct (List.cons.inj same).1

/-- Writing a template under its lock in a calm run puts its document in place, and leaves the pointer
as it is. -/
theorem writeLocked_calm {t : Template} (decodable : Template.schema.undecodable? t = none)
    (few : t.toDocument.hasReadableIntegers = true)
    (calm : Calm (s.locked (templateLock t.id) (s.writeTemplate t)) w) : ∃ w',
    program.outcome (s.locked (templateLock t.id) (s.writeTemplate t)) w = (.ok (), w') ∧
      s.Holds t w'.tree ∧ w'.tree.node? s.pointerPath = w.tree.node? s.pointerPath := by
  obtain ⟨w₁, w₂, frame, body, locked, tree⟩ := locked_calm calm
  have replaces : s.writeTemplate t = replaceDocument
      (fun e => .unavailable (.writeTemplate t.id e)) s.templatesPath t.id
      (s.templatesPath ++ [t.id ++ suffix]) t.toDocument := by
    unfold writeTemplate
    rw [decodable]
    exact if_pos few
  rw [replaces] at body
  obtain ⟨w₃, written, reached, directory, document, frame'⟩ := replaceDocument_calm body
  rw [← replaces] at written
  have answer : program.answer (s.writeTemplate t) w₁ = .ok () := congrArg Prod.fst written
  have after : program.after (s.writeTemplate t) w₁ = w₃ := congrArg Prod.snd written
  rw [answer] at locked
  rw [after] at tree
  have lock : s.pointerPath ≠ s.lockPath (templateLock t.id) := by
    unfold pointerPath lockPath locksPath
    intro same
    have length := congrArg List.length same
    simp at length
  have aside : ¬ s.pointerPath <+: s.templatesPath := not_prefix_of_last (by decide)
  refine ⟨w₂, locked, ?_, ?_⟩
  · rw [tree]
    exact ⟨reached, directory, document⟩
  · rw [tree, frame' _ aside (not_prefix_of_last (by decide)),
      frame _ aside (not_prefix_of_last (by decide)) lock]

/-- Storing a template in a calm run gives it with the flag that the pointer says. -/
theorem upsert_calm {t : Template} (decodable : Template.schema.undecodable? t = none)
    (few : t.toDocument.hasReadableIntegers = true) (calm : Calm (s.upsert t) w) : ∃ w',
    program.outcome (s.upsert t) w =
        ((s.pointer w.tree).map fun p => { t with isDefault := p = some t.id }, w') ∧
      s.Holds t w'.tree ∧ w'.tree.node? s.pointerPath = w.tree.node? s.pointerPath := by
  unfold upsert at calm ⊢
  obtain ⟨first, rest⟩ := calm.of_bind
  obtain ⟨w₂, locked, holds, kept⟩ := writeLocked_calm decodable few first
  -- The report and the look for the pointer leave the tree as it is.
  have reported := outcome_perform (.report (entry .info "Saved invoice template"
    [("template", .text t.id)])) w₂
  obtain ⟨calm', -⟩ := ((rest locked).of_bind.2 reported).of_bind
  obtain ⟨⟨m, root⟩, inside⟩ := holds.root
  obtain ⟨journal, pointed⟩ := outcome_defaultId_calm calm' root inside
  have same : s.pointer w₂.tree = s.pointer w.tree := by
    unfold pointer
    rw [kept]
  change _ = (s.pointer w₂.tree, { w₂ with journal := journal }) at pointed
  refine ⟨{ w₂ with journal := journal }, ?_, holds, kept⟩
  rw [outcome_bind_of_ok locked]
  refine (outcome_bind_of_ok reported _).trans ?_
  rw [same] at pointed
  cases named : s.pointer w.tree with
  | ok p =>
    rw [named] at pointed
    rw [outcome_bind_of_ok pointed]
    rfl
  | error e =>
    rw [named] at pointed
    rw [outcome_bind_of_error pointed]
    rfl

end FileStore

end InvoiceForms
