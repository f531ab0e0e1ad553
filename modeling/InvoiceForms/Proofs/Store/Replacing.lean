import InvoiceForms.Proofs.Store.Paths
import InvoiceForms.Proofs.Store.Places

/-!
# Files that are replaced in one step

Any step on the way to a new document can fail: making directories stops half-way, no temporary file is
made, a text breaks off while it is turned into bytes or written, the move is refused. Mishaps say which
steps do, and `FileStore.replaceDocument_all_or_nothing` that the file then holds the new document or is
as it was, that the temporary file is gone, and that no other file has changed.
-/

namespace InvoiceForms

open InvoiceForms.Results InvoiceForms.Text

/-- The name of a file without its ending. A dot at the start or at the end of the name begins none. -/
def stemOf (name : String) : String :=
  let cs := name.toList
  let ending := (cs.reverse.takeWhile (· ≠ '.')).length
  if 0 < ending ∧ ending + 1 < cs.length then String.ofList (cs.take (cs.length - (ending + 1))) else name

/-- The stem of the file at a path. -/
def Path.stem (p : Path) : String := stemOf (p.getLastD "")

/-- Whether a name can be that of a temporary file for a file with a stem: the stem behind a dot, with
anything in between the stem and the ending. -/
def IsDraftName (stem name : String) : Prop := ∃ middle, name = "." ++ stem ++ middle ++ ".tmp"

/-- The ending of temporary files is what their stems leave out. -/
theorem length_le_stemOf {name : String} (temporary : IsTemporary name) :
    name.toList.length ≤ (stemOf name).toList.length + 4 := by
  obtain ⟨front, whole⟩ := temporary
  have ending : name.toList.reverse.takeWhile (· ≠ '.') = ['p', 'm', 't'] := by
    rw [← whole, List.reverse_append]
    rfl
  unfold stemOf
  dsimp only
  rw [ending]
  split
  · rw [String.toList_ofList, List.length_take, List.length_cons, List.length_cons, List.length_singleton]
    omega
  · omega

/-- No file is its own temporary file. -/
theorem ne_of_isDraftName {name draft : String} (shaped : IsDraftName (stemOf name) draft) :
    name ≠ draft := by
  rintro rfl
  obtain ⟨middle, same⟩ := shaped
  have temporary : IsTemporary name :=
    ⟨_, String.toList_append.symm.trans (congrArg String.toList same.symm)⟩
  have short := length_le_stemOf temporary
  have long := congrArg (fun n => n.toList.length) same
  simp only [String.toList_append, List.length_append] at long
  have dot : ".".toList.length = 1 := rfl
  have tmp : ".tmp".toList.length = 4 := rfl
  omega

/-- What stops a step: the fault that it gives, and what is done until then. That is a part of the
directories to be made, and any bytes in a file to be written. -/
structure Mishap where
  fault : FileFault
  depth : Nat := 0
  content : ByteArray := .empty

namespace World

/-- What is left of an action that is stopped. Removing a file is not stopped, nor is what cannot fail. -/
def stop (w : World) (m : Mishap) : {α : Type} → Action α → α × World
  | _, .makeDirectories p => (.error m.fault, (w.change (w.tree.makeDirectories (p.take m.depth))).2)
  | _, .write p _ => (.error m.fault, (w.change (w.tree.write p m.content)).2)
  | _, .append p _ => (.error m.fault, (w.change (w.tree.append p m.content)).2)
  | _, .makeTemporary _ _ => (.error m.fault, w)
  | _, .rename _ _ => (.error m.fault, w)
  | _, .touch _ => (.error m.fault, w)
  | _, .read _ => (.error m.fault, w)
  | _, .list _ => (.error m.fault, w)
  | _, .acquire _ => (.failed m.fault, w)
  | _, action => w.perform action

/-- Performs an action unless a mishap stops it. -/
def attempt {α : Type} (w : World) (mishap : Option Mishap) (action : Action α) : α × World :=
  mishap.elim (w.perform action) fun m => w.stop m action

end World

namespace Program

variable {α β : Type}

/-- Runs a program to its end while mishaps stop some of its actions: one entry for each action, and none
stops where the entries end. -/
def runUnder : Program α → List (Option Mishap) → World → α × World
  | done a, _, w => (a, w)
  | act action next, mishaps, w =>
    let (b, w) := w.attempt mishaps.head?.join action
    (next b).runUnder mishaps.tail w

/-- Without mishaps a program is run as it is. -/
theorem runUnder_nil (p : Program α) (w : World) : p.runUnder [] w = p.run w := by
  induction p generalizing w with
  | done a => rfl
  | act action next ih => exact ih _ _

theorem runUnder_perform_bind (action : Action α) (f : α → Program β) (mishaps : List (Option Mishap))
    (w : World) : (perform action >>= f).runUnder mishaps w =
      (f (w.attempt mishaps.head?.join action).1).runUnder mishaps.tail
        (w.attempt mishaps.head?.join action).2 := rfl

/-- What follows a program without acting does not count. -/
theorem runUnder_bind_of_done {f : α → Program β} {g : α → β} (ends : ∀ a, f a = done (g a))
    (p : Program α) (mishaps : List (Option Mishap)) (w : World) :
    (p.bind f).runUnder mishaps w = (g (p.runUnder mishaps w).1, (p.runUnder mishaps w).2) := by
  induction p generalizing mishaps w with
  | done a =>
    show (f a).runUnder mishaps w = _
    rw [ends]
    rfl
  | act action next ih => exact ih _ _ _

end Program

namespace FileTree

variable {t t' u : FileTree} {p q directory : Path} {name : String} {content : ByteArray}

/-- Whether there is the same at a path in two trees, or in the second one a directory that was missing
on the way to another path. -/
def SameOrMade (directory : Path) (t t' : FileTree) (q : Path) : Prop :=
  t'.node? q = t.node? q ∨ q <+: directory ∧ t.node? q = none ∧ t'.node? q = some .directory

/-- Making directories makes those that are missing and nothing else. -/
theorem sameOrMade_of_makeDirectories (made : t.makeDirectories p = .ok t') (way : p <+: directory)
    (q : Path) : SameOrMade directory t t' q := by
  by_cases before : q <+: p
  · cases there : t.node? q with
    | some n => exact .inl ((node?_of_makeDirectories_of_some made there).trans there.symm)
    | none =>
      obtain ⟨rest, rfl⟩ := before
      have reached : t'.Reached q := (reached_of_makeDirectories made).1.of_append
      exact .inr ⟨(List.prefix_append _ _).trans way, there, reached.directory⟩
  · exact .inl (node?_of_makeDirectories made before)

/-- A tree with a temporary file in a directory that is reached, and otherwise as another tree. -/
structure Draft (directory : Path) (name : String) (content : ByteArray) (t t' : FileTree) : Prop where
  reached : t'.Reached directory
  fits : Fits directory name
  file : t'.node? (directory ++ [name]) = some (.file content)
  rest : ∀ q, q ≠ directory ++ [name] → t'.node? q = t.node? q

/-- Writing a file where nothing is makes a draft. -/
theorem draft_of_write (reached : t.Reached directory) (absent : t.node? (directory ++ [name]) = none)
    (written : t.write (directory ++ [name]) content = .ok t') : Draft directory name content t t' := by
  obtain ⟨fits, -⟩ := of_update written
  obtain rfl := write_eq_ok written
  refine ⟨?_, fits, node?_put_self (by simp), fun q other => node?_put_of_ne other⟩
  refine reached.of_directories fun q there => ?_
  rw [node?_put_of_ne, there]
  rintro rfl
  rw [absent] at there
  cases there

namespace Draft

/-- A draft is one with whatever it is written over with. -/
theorem put (draft : Draft directory name content t t') (content' : ByteArray) :
    Draft directory name content' t (t'.put (directory ++ [name]) (.file content')) := by
  refine ⟨?_, draft.fits, node?_put_self (by simp), fun q other =>
    (node?_put_of_ne other).trans (draft.rest q other)⟩
  refine draft.reached.of_directories fun q there => ?_
  rw [node?_put_of_ne, there]
  rintro rfl
  rw [draft.file] at there
  cases there

theorem write_eq (draft : Draft directory name content t t') (content' : ByteArray) :
    t'.write (directory ++ [name]) content' = .ok (t'.put (directory ++ [name]) (.file content')) := by
  unfold write
  rw [draft.fits.update_eq draft.reached, draft.file]

/-- The temporary file can be removed, and what is left is what was there without it. -/
theorem unlink_eq (draft : Draft directory name content t t') :
    t'.unlink (directory ++ [name]) = .ok (t'.remove (directory ++ [name])) := by
  rw [draft.fits.unlink_eq draft.reached, draft.file]

theorem node?_remove (draft : Draft directory name content t t')
    (absent : t.node? (directory ++ [name]) = none) (q : Path) :
    (t'.remove (directory ++ [name])).node? q = t.node? q := by
  by_cases same : q = directory ++ [name]
  · rw [same, node?_remove_self (by simp), absent]
  · rw [node?_remove_of_ne same, draft.rest q same]

end Draft

end FileTree

namespace World

variable {w : World} {mishap : Option Mishap} {p source target : Path} {stem name : String}
  {directory : Path} {content draftContent : ByteArray} {t : FileTree}

/-- Making directories gives them, or a fault with some of them made. -/
theorem attempt_makeDirectories_cases (w : World) (mishap : Option Mishap) (p : Path) :
    (∃ tree, w.tree.makeDirectories p = .ok tree ∧
      w.attempt mishap (.makeDirectories p) = (.ok (), { w with tree := tree })) ∨
    ∃ e tree, w.attempt mishap (.makeDirectories p) = (.error e, { w with tree := tree }) ∧
      ∀ q, FileTree.SameOrMade p w.tree tree q := by
  cases mishap with
  | none =>
    show (∃ tree, _ ∧ w.change (w.tree.makeDirectories p) = _) ∨
      ∃ e tree, w.change (w.tree.makeDirectories p) = _ ∧ _
    cases w.tree.makeDirectories p with
    | ok tree => exact .inl ⟨tree, rfl, rfl⟩
    | error e => exact .inr ⟨e, w.tree, rfl, fun q => .inl rfl⟩
  | some m =>
    refine .inr ⟨m.fault, ?_⟩
    show ∃ tree, (_, (w.change (w.tree.makeDirectories (p.take m.depth))).2) = _ ∧ _
    cases made : w.tree.makeDirectories (p.take m.depth) with
    | ok tree =>
      exact ⟨tree, rfl, FileTree.sameOrMade_of_makeDirectories made (List.take_prefix _ _)⟩
    | error e => exact ⟨w.tree, rfl, fun q => .inl rfl⟩

/-- A temporary file is made, or nothing is. -/
theorem attempt_makeTemporary_cases (w : World) (mishap : Option Mishap) (directory : Path)
    (stem : String) :
    (∃ tree, w.tree.write (directory ++ [w.temporaryName stem]) .empty = .ok tree ∧
      w.attempt mishap (.makeTemporary directory stem) =
        (.ok (directory ++ [w.temporaryName stem]), { w with tree := tree })) ∨
    ∃ e, w.attempt mishap (.makeTemporary directory stem) = (.error e, w) := by
  cases mishap with
  | none =>
    show (∃ tree, _ ∧ w.makeTemporary directory stem = _) ∨ ∃ e, w.makeTemporary directory stem = _
    unfold makeTemporary
    dsimp only
    cases w.tree.write (directory ++ [w.temporaryName stem]) .empty with
    | ok tree => exact .inl ⟨tree, rfl, rfl⟩
    | error e => exact .inr ⟨e, rfl⟩
  | some m => exact .inr ⟨m.fault, rfl⟩

/-- A draft stays a draft when it is written, with the whole content unless that fails. -/
theorem attempt_write_cases (draft : FileTree.Draft directory name draftContent t w.tree)
    (mishap : Option Mishap) (content : ByteArray) : ∃ r tree content',
      w.attempt mishap (.write (directory ++ [name]) content) = (r, { w with tree := tree }) ∧
        FileTree.Draft directory name content' t tree ∧ (r = .ok () → content' = content) := by
  cases mishap with
  | none =>
    refine ⟨.ok (), _, content, ?_, draft.put content, fun _ => rfl⟩
    show w.change (w.tree.write (directory ++ [name]) content) = _
    rw [draft.write_eq]
    rfl
  | some m =>
    refine ⟨.error m.fault, _, m.content, ?_, draft.put m.content, nofun⟩
    show (_, (w.change (w.tree.write (directory ++ [name]) m.content)).2) = _
    rw [draft.write_eq]
    rfl

/-- A file is moved, or nothing is. -/
theorem attempt_rename_cases (w : World) (mishap : Option Mishap) (source target : Path) :
    (∃ tree, w.tree.rename source target = .ok tree ∧
      w.attempt mishap (.rename source target) = (.ok (), { w with tree := tree })) ∨
    ∃ e, w.attempt mishap (.rename source target) = (.error e, w) := by
  cases mishap with
  | none =>
    show (∃ tree, _ ∧ w.change (w.tree.rename source target) = _) ∨
      ∃ e, w.change (w.tree.rename source target) = _
    cases w.tree.rename source target with
    | ok tree => exact .inl ⟨tree, rfl, rfl⟩
    | error e => exact .inr ⟨e, rfl⟩
  | some m => exact .inr ⟨m.fault, rfl⟩

/-- Removing a draft always goes well. -/
theorem attempt_unlink_eq (draft : FileTree.Draft directory name content t w.tree)
    (mishap : Option Mishap) : w.attempt mishap (.unlink (directory ++ [name])) =
      (.ok (), { w with tree := w.tree.remove (directory ++ [name]) }) := by
  have removes : w.perform (.unlink (directory ++ [name])) =
      (.ok (), { w with tree := w.tree.remove (directory ++ [name]) }) := by
    show w.change (w.tree.unlink (directory ++ [name])) = _
    rw [draft.unlink_eq]
    rfl
  cases mishap with
  | none => exact removes
  | some m => exact removes

end World

namespace FileStore

open StoreProgram

/-- How replacing a file ends, be it with mishaps or without: the file holds the new content, or there is
an error and it is as before; the temporary file is not there, and all else is the same but for directories
on the way to the file. -/
structure AllOrNothing {ε : Type} (target temporary : Path) (content : ByteArray) (t : FileTree)
    (outcome : Except ε Unit × World) : Prop where
  replaced : outcome.1 = .ok () → outcome.2.tree.node? target = some (.file content)
  spared : ∀ e, outcome.1 = .error e → outcome.2.tree.node? target = t.node? target
  cleared : outcome.2.tree.node? temporary = none
  rest : ∀ q, q ≠ target → FileTree.SameOrMade target.dropLast t outcome.2.tree q

variable {w : World} {t t' made : FileTree} {target directory : Path} {name stem : String}
  {content : ByteArray} {document : Json}

/-- The file itself is no directory on the way to it. -/
theorem node?_of_sameOrMade (same : FileTree.SameOrMade target.dropLast t t' target) :
    t'.node? target = t.node? target := by
  rcases same with same | ⟨way, absent, -⟩
  · exact same
  · have short := way.length_le
    rw [List.length_dropLast] at short
    obtain rfl : target = [] := List.length_eq_zero_iff.mp (by omega)
    cases absent

/-- Neither is what stands beside it. -/
theorem node?_beside_of_sameOrMade
    (same : FileTree.SameOrMade directory t t' (directory ++ [name])) :
    t'.node? (directory ++ [name]) = t.node? (directory ++ [name]) := by
  refine same.resolve_right fun ⟨way, _⟩ => ?_
  have short := way.length_le
  rw [List.length_append, List.length_singleton] at short
  omega

/-- A fault that leaves what there is once the directories are made. -/
theorem allOrNothing_of_error {ε : Type} {e : ε} (same : ∀ q, FileTree.SameOrMade target.dropLast t made q)
    (absent : t.node? (target.dropLast ++ [name]) = none)
    (agree : ∀ q, w.tree.node? q = made.node? q) :
    AllOrNothing target (target.dropLast ++ [name]) content t (Except.error e, w) := by
  have same' (q : Path) : FileTree.SameOrMade target.dropLast t w.tree q := by
    rw [FileTree.SameOrMade, agree]
    exact same q
  exact ⟨nofun, fun _ _ => node?_of_sameOrMade (same' _),
    (node?_beside_of_sameOrMade (same' _)).trans absent, fun q _ => same' q⟩

/-- A file that is moved from beside its place is there, and is nowhere else. -/
theorem allOrNothing_of_rename {ε : Type} (same : ∀ q, FileTree.SameOrMade target.dropLast t made q)
    (absent : made.node? (target.dropLast ++ [name]) = none) (other : target ≠ target.dropLast ++ [name])
    (draft : FileTree.Draft target.dropLast name content made t')
    (moved : t'.rename (target.dropLast ++ [name]) target = .ok w.tree) :
    AllOrNothing target (target.dropLast ++ [name]) content t ((.ok () : Except ε Unit), w) := by
  have place : target ≠ [] := by
    rintro rfl
    unfold FileTree.rename at moved
    split at moved <;> cases moved
  obtain ⟨held, found, after⟩ := FileTree.rename_eq_ok moved
  obtain rfl : held = content :=
    Node.file.inj (Option.some.inj ((FileTree.node?_of_find found).symm.trans draft.file))
  have rest (q : Path) (aside : q ≠ target) : w.tree.node? q = made.node? q := by
    rw [after, FileTree.node?_put_of_ne aside, draft.node?_remove absent]
  refine ⟨fun _ => ?_, nofun, (rest _ other.symm).trans absent, fun q aside => ?_⟩
  · rw [after]
    exact FileTree.node?_put_self place
  · rw [FileTree.SameOrMade, rest q aside]
    exact same q

/-- A draft that is given up is removed, and the fault is given. -/
theorem runUnder_unlink (draft : FileTree.Draft directory name content t w.tree) (e : FileFault)
    (mishaps : List (Option Mishap)) :
    (do let _ ← Program.perform (.unlink (directory ++ [name])); return .error e
      : Program (Except FileFault Unit)).runUnder mishaps w =
      (.error e, { w with tree := w.tree.remove (directory ++ [name]) }) := by
  rw [Program.runUnder_perform_bind, World.attempt_unlink_eq draft]
  rfl

/-- Replacing a file through a temporary one beside it succeeds or leaves no trace but directories. -/
theorem replaceFile_all_or_nothing (mishaps : List (Option Mishap))
    (absent : w.tree.node? (target.dropLast ++ [w.temporaryName stem]) = none)
    (other : target ≠ target.dropLast ++ [w.temporaryName stem]) :
    AllOrNothing target (target.dropLast ++ [w.temporaryName stem]) content w.tree
      ((replaceFile target.dropLast stem target content).runUnder mishaps w) := by
  unfold replaceFile
  rw [Program.runUnder_perform_bind]
  rcases World.attempt_makeDirectories_cases w mishaps.head?.join target.dropLast with
    ⟨made, given, attempted⟩ | ⟨e, made, attempted, same⟩
  · have same (q : Path) : FileTree.SameOrMade target.dropLast w.tree made q :=
      FileTree.sameOrMade_of_makeDirectories given (List.prefix_refl _) q
    have absent' := (node?_beside_of_sameOrMade (same _)).trans absent
    rw [attempted]
    dsimp only
    rw [Program.runUnder_perform_bind]
    rcases World.attempt_makeTemporary_cases { w with tree := made } mishaps.tail.head?.join
      target.dropLast stem with ⟨tree₁, opened, attempted⟩ | ⟨e, attempted⟩
    · have draft := FileTree.draft_of_write (FileTree.reached_of_makeDirectories given).1 absent' opened
      rw [attempted]
      dsimp only
      rw [Program.runUnder_perform_bind]
      obtain ⟨r, tree₂, content', attempted, draft, whole⟩ := World.attempt_write_cases
        (w := { w with tree := tree₁ }) draft mishaps.tail.tail.head?.join content
      have cleans (e : FileFault) (mishaps : List (Option Mishap)) :
          AllOrNothing target (target.dropLast ++ [w.temporaryName stem]) content w.tree
            ((do let _ ← Program.perform (.unlink (target.dropLast ++ [w.temporaryName stem]))
                 return .error e : Program (Except FileFault Unit)).runUnder mishaps
              { w with tree := tree₂ }) := by
        rw [runUnder_unlink (w := { w with tree := tree₂ }) draft]
        exact allOrNothing_of_error same absent (draft.node?_remove absent')
      rw [attempted]
      cases r with
      | error e => exact cleans e _
      | ok _ =>
        obtain rfl := whole rfl
        dsimp only
        rw [Program.runUnder_perform_bind]
        rcases World.attempt_rename_cases { w with tree := tree₂ } mishaps.tail.tail.tail.head?.join
          (target.dropLast ++ [w.temporaryName stem]) target with ⟨tree₃, moved, attempted⟩ | ⟨e, attempted⟩
        · rw [attempted]
          exact allOrNothing_of_rename same absent' other draft moved
        · rw [attempted]
          exact cleans e _
    · rw [attempted]
      exact allOrNothing_of_error same absent fun _ => rfl
  · rw [attempted]
    exact allOrNothing_of_error same absent fun _ => rfl

/-- What a fault is taken for does not count. -/
theorem AllOrNothing.mapError {temporary : Path} {outcome : Except FileFault Unit × World}
    (given : AllOrNothing target temporary content t outcome) (fault : FileFault → StoreFault) :
    AllOrNothing target temporary content t (outcome.1.mapError fault, outcome.2) := by
  obtain ⟨r, w⟩ := outcome
  refine ⟨fun done => given.replaced ?_, fun e failed => ?_, given.cleared, given.rest⟩
  · exact mapError_eq_ok.mp done
  · cases r with
    | ok _ => cases failed
    | error e' => exact given.spared e' rfl

/-- A path is not that of the temporary file beside it. -/
theorem ne_draft {draft : String} (shaped : IsDraftName target.stem draft) :
    target ≠ target.dropLast ++ [draft] := by
  cases target using List.reverseRecOn with
  | nil => exact nofun
  | append_singleton directory name =>
    rw [List.dropLast_concat]
    intro same
    have name' : name = draft := List.singleton_inj.mp (List.append_cancel_left same)
    rw [Path.stem, List.getLastD_concat] at shaped
    exact ne_of_isDraftName shaped name'

/-- The document in a file is replaced as the file is. -/
theorem runUnder_replaceDocument (fault : FileFault → StoreFault) (directory : Path) (stem : String)
    (target : Path) (document : Json) (mishaps : List (Option Mishap)) (w : World) :
    (replaceDocument fault directory stem target document).run.runUnder mishaps w =
      let (r, w') := (replaceFile directory stem target (encode (documentText document))).runUnder mishaps w
      (r.mapError fault, w') := by
  have lifted := Program.runUnder_bind_of_done (f := fun r => .done (.ok r))
    (g := Except.ok (ε := StoreFault)) (fun _ => rfl)
    (replaceFile directory stem target (encode (documentText document))) mishaps w
  refine (Program.runUnder_bind_of_done (g := fun r => r.bind (·.mapError fault)) ?_ _ mishaps w).trans ?_
  · rintro (e | e | u) <;> rfl
  · exact congrArg (fun out => (Except.bind out.1 (·.mapError fault), out.2)) lifted

/-- Replacing the document in a file that is not its own temporary file is all or nothing. -/
theorem allOrNothing_of_replaceDocument (fault : FileFault → StoreFault) (document : Json)
    (mishaps : List (Option Mishap))
    (absent : w.tree.node? (target.dropLast ++ [w.temporaryName stem]) = none)
    (other : target ≠ target.dropLast ++ [w.temporaryName stem]) :
    AllOrNothing target (target.dropLast ++ [w.temporaryName stem]) (encode (documentText document)) w.tree
      ((replaceDocument fault target.dropLast stem target document).run.runUnder mishaps w) := by
  have file : AllOrNothing target (target.dropLast ++ [w.temporaryName stem])
      (encode (documentText document)) w.tree ((replaceFile target.dropLast stem target
        (encode (documentText document))).runUnder mishaps w) :=
    replaceFile_all_or_nothing mishaps absent other
  rw [runUnder_replaceDocument]
  exact file.mapError fault

/-- However the steps of replacing the document in a file fail, and whatever the file was, it holds the new
document when there is no error and is as before when there is one. The temporary file is gone and no other
file has changed. The temporary file gets a name that starts with the stem of the file behind a dot, and
that is not taken. -/
theorem replaceDocument_all_or_nothing (fault : FileFault → StoreFault) (target : Path) (document : Json)
    (mishaps : List (Option Mishap)) (shaped : IsDraftName target.stem (w.temporaryName target.stem))
    (absent : w.tree.node? (target.dropLast ++ [w.temporaryName target.stem]) = none) :
    AllOrNothing target (target.dropLast ++ [w.temporaryName target.stem]) (encode (documentText document))
      w.tree
      ((replaceDocument fault target.dropLast target.stem target document).run.runUnder mishaps w) :=
  allOrNothing_of_replaceDocument fault document mishaps absent (ne_draft shaped)

/-- A store with a pointer. -/
def pointedWorld : World where
  tree := ⟨[(["store"], .directory),
    (["store", "default.json"], .file (encode (documentText (pointerDocument "a"))))]⟩

/-- The text of a document breaks off behind its first character. -/
def tornText : List (Option Mishap) :=
  [none, none, some { fault := { cause := .missing, path := [] }, content := encode "\x7b" }]

/-- A pointer whose new text breaks off is as it was, and nothing is beside it. -/
theorem torn_pointer_all_or_nothing :
    IsDraftName (stemOf "default.json") (pointedWorld.temporaryName (stemOf "default.json")) ∧
    ((replaceDocument noAccess ["store"] "default" ["store", "default.json"]
      (pointerDocument "b")).run.runUnder tornText pointedWorld).1 =
        .error (noAccess { cause := .missing, path := [] }) ∧
    AllOrNothing ["store", "default.json"] ["store", ".default.tmp"]
      (encode (documentText (pointerDocument "b"))) pointedWorld.tree
      ((replaceDocument noAccess ["store"] "default" ["store", "default.json"]
        (pointerDocument "b")).run.runUnder tornText pointedWorld) := by
  have shaped : IsDraftName (stemOf "default.json") (pointedWorld.temporaryName (stemOf "default.json")) :=
    ⟨"", by decide⟩
  refine ⟨shaped, by decide, ?_⟩
  exact replaceDocument_all_or_nothing noAccess ["store", "default.json"] (pointerDocument "b") tornText
    shaped (by decide)

/-- The stem of a document's name is the id. -/
theorem stemOf_document {id : String} (nonempty : id ≠ "") : stemOf (id ++ suffix) = id := by
  have some : 0 < id.toList.length := by
    rw [List.length_pos_iff]
    simpa using nonempty
  have ending : (id ++ suffix).toList.reverse.takeWhile (· ≠ '.') = ['n', 'o', 's', 'j'] := by
    rw [String.toList_append, List.reverse_append]
    rfl
  have length : (id ++ suffix).toList.length = id.toList.length + 5 := by
    rw [String.toList_append, List.length_append]
    rfl
  unfold stemOf
  dsimp only
  rw [ending, length, if_pos (by simp; omega), String.toList_append]
  simp

/-- Writing the document of a template is all or nothing, be it one that can be written or not. -/
theorem writeTemplate_all_or_nothing {s : FileStore} {t : Template} (nonempty : t.id ≠ "")
    (mishaps : List (Option Mishap)) (shaped : IsDraftName t.id (w.temporaryName t.id))
    (absent : w.tree.node? (s.templatesPath ++ [w.temporaryName t.id]) = none) :
    AllOrNothing (s.templatePath t.id) (s.templatesPath ++ [w.temporaryName t.id])
      (encode (documentText t.toDocument)) w.tree ((s.writeTemplate t).run.runUnder mishaps w) := by
  have directory : (s.templatePath t.id).dropLast = s.templatesPath := List.dropLast_concat
  have stem : (s.templatePath t.id).stem = t.id := by
    rw [Path.stem, templatePath, List.getLastD_concat, stemOf_document nonempty]
  have other : s.templatePath t.id ≠ (s.templatePath t.id).dropLast ++ [w.temporaryName t.id] :=
    ne_draft (by rwa [stem])
  have refused (e : StoreFault) : AllOrNothing (s.templatePath t.id)
      (s.templatesPath ++ [w.temporaryName t.id]) (encode (documentText t.toDocument)) w.tree
      ((Except.error e : Except StoreFault Unit), w) := by
    refine ⟨fun done => ?_, fun _ _ => rfl, absent, fun _ _ => .inl rfl⟩
    cases done
  unfold writeTemplate
  split
  · exact refused _
  · split
    · have whole := allOrNothing_of_replaceDocument (fun e => .unavailable (.writeTemplate t.id e))
        t.toDocument mishaps (by rwa [directory]) other
      rw [directory] at whole
      exact whole
    · exact refused _

/-- So is writing the document of the pointer. -/
theorem replacePointer_all_or_nothing {s : FileStore} (id : String) (mishaps : List (Option Mishap))
    (shaped : IsDraftName "default" (w.temporaryName "default"))
    (absent : w.tree.node? (s.root ++ [w.temporaryName "default"]) = none) :
    AllOrNothing s.pointerPath (s.root ++ [w.temporaryName "default"])
      (encode (documentText (pointerDocument id))) w.tree
      ((replaceDocument (fun e => .unavailable (.writePointer e)) s.root "default" s.pointerPath
        (pointerDocument id)).run.runUnder mishaps w) := by
  have directory : s.pointerPath.dropLast = s.root := List.dropLast_concat
  have stem : s.pointerPath.stem = "default" := by
    rw [Path.stem, pointerPath, List.getLastD_concat]
    decide
  have other : s.pointerPath ≠ s.pointerPath.dropLast ++ [w.temporaryName "default"] :=
    ne_draft (by rwa [stem])
  have whole := allOrNothing_of_replaceDocument (fun e => .unavailable (.writePointer e))
    (pointerDocument id) mishaps (by rwa [directory]) other
  rw [directory] at whole
  exact whole

end FileStore

end InvoiceForms
