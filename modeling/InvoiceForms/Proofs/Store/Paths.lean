import InvoiceForms.Proofs.Store.Interleaving

/-!
# The paths of a store

The documents, the pointer, the lock files and the temporary files of a store stand at different
paths, and different documents do, too.
-/

namespace InvoiceForms

theorem getLast?_of_isTemporary {name : String} (temporary : IsTemporary name) :
    name.toList.getLast? = some 'p' := by
  obtain ⟨front, same⟩ := temporary
  rw [← same]
  exact List.getLast?_append_of_ne_nil _ (by decide)

namespace FileStore

open StoreProgram

/-- Whether there is anything at the place of a document. -/
def Present (s : FileStore) (tree : FileTree) (id : String) : Prop :=
  (tree.node? (s.templatePath id)).isSome = true

variable {s : FileStore} {q : Path} {id name : String} {tree tree' : FileTree}

theorem Present.congr (there : s.Present tree id)
    (same : tree'.node? (s.templatePath id) = tree.node? (s.templatePath id)) : s.Present tree' id := by
  unfold Present
  rw [same]
  exact there

/-- The name of a document is no name of a temporary file. -/
theorem document_not_temporary (id : String) : ¬ IsTemporary (id ++ suffix) := by
  intro temporary
  have last := getLast?_of_isTemporary temporary
  rw [String.toList_append, List.getLast?_append_of_ne_nil _ (by decide)] at last
  exact absurd last (by decide)

theorem templatePath_injective {id other : String} (same : s.templatePath id = s.templatePath other) :
    id = other := by
  have names : id ++ suffix = other ++ suffix := by simpa [templatePath] using same
  have texts := congrArg String.toList names
  rw [String.toList_append, String.toList_append] at texts
  exact String.toList_inj.mp (List.append_cancel_right texts)

theorem pointerPath_ne_templatePath : s.pointerPath ≠ s.templatePath id := by
  intro same
  have length := congrArg List.length same
  simp [pointerPath, templatePath, templatesPath] at length

/-- A path that any process may change, whatever locks it holds: directories, lock files, and temporary
files beside the documents. -/
inductive Common (s : FileStore) : Path → Prop
  | templates {q : Path} (way : q <+: s.templatesPath) : Common s q
  | locks {q : Path} (way : q <+: s.locksPath) : Common s q
  | lock (name : String) : Common s (s.lockPath name)
  | temporary {name : String} (temporary : IsTemporary name) : Common s (s.templatesPath ++ [name])

theorem beside_of_not_common (apart : ¬ s.Common q) (name : String) : s.Beside name q :=
  ⟨fun way => apart (.templates way), fun way => apart (.locks way),
    fun same => apart (same ▸ .lock name)⟩

theorem not_common_templatePath : ¬ s.Common (s.templatePath id) := by
  intro common
  generalize at_path : s.templatePath id = q at common
  cases common with
  | templates way =>
    have length := way.length_le
    rw [← at_path, templatePath, List.length_append] at length
    exact absurd length (by simp)
  | locks way =>
    have length := way.length_le
    simp [← at_path, templatePath, templatesPath, locksPath] at length
  | lock name => simp [templatePath, templatesPath, lockPath, locksPath] at at_path
  | @temporary name temporary =>
    have named : id ++ suffix = name := by simpa [templatePath] using at_path
    exact document_not_temporary id (named ▸ temporary)

theorem not_common_pointerPath : ¬ s.Common s.pointerPath := by
  intro common
  generalize at_path : s.pointerPath = q at common
  cases common with
  | templates way => exact not_prefix_of_last (by decide) (at_path ▸ way)
  | locks way => exact not_prefix_of_last (by decide) (at_path ▸ way)
  | lock name =>
    have length := congrArg List.length at_path
    simp [pointerPath, lockPath, locksPath] at length
  | temporary temporary =>
    have length := congrArg List.length at_path
    simp [pointerPath, templatesPath] at length

theorem not_common_draft (temporary : IsTemporary name) : ¬ s.Common (s.root ++ [name]) := by
  have last := getLast?_of_isTemporary temporary
  have apart {other : String} (wrong : other.toList.getLast? ≠ some 'p') : name ≠ other :=
    fun same => wrong (same ▸ last)
  intro common
  generalize at_path : s.root ++ [name] = q at common
  cases common with
  | templates way => exact not_prefix_of_last (apart (by decide)) (at_path ▸ way)
  | locks way => exact not_prefix_of_last (apart (by decide)) (at_path ▸ way)
  | lock name =>
    have length := congrArg List.length at_path
    simp [lockPath, locksPath] at length
  | temporary temporary =>
    have length := congrArg List.length at_path
    simp [templatesPath] at length

/-- Which paths a lock keeps others from: the document of a template, or the pointer with the temporary
files beside it. -/
inductive Guards (s : FileStore) : Path → Path → Prop
  | document (id : String) : Guards s (s.lockPath (templateLock id)) (s.templatePath id)
  | pointer : Guards s (s.lockPath pointerLock) s.pointerPath
  | draft {name : String} (temporary : IsTemporary name) :
    Guards s (s.lockPath pointerLock) (s.root ++ [name])

theorem not_common_of_guards {lock : Path} (guards : s.Guards lock q) : ¬ s.Common q := by
  cases guards with
  | document id => exact not_common_templatePath
  | pointer => exact not_common_pointerPath
  | draft temporary => exact not_common_draft temporary

theorem templatePath_ne_draft : s.templatePath id ≠ s.root ++ [name] := by
  intro same
  have length := congrArg List.length same
  simp [templatePath, templatesPath] at length

theorem pointerPath_ne_draft (temporary : IsTemporary name) : s.pointerPath ≠ s.root ++ [name] := by
  intro same
  obtain rfl : name = "default.json" := by
    rw [pointerPath, List.append_cancel_left_eq, List.cons.injEq] at same
    exact same.1.symm
  exact absurd (getLast?_of_isTemporary temporary) (by decide)

/-- A path is guarded by one lock at most. -/
theorem Guards.unique {lock other : Path} (guards : s.Guards lock q) (guards' : s.Guards other q) :
    lock = other := by
  cases guards with
  | document id =>
    generalize at_path : s.templatePath id = p at guards'
    cases guards' with
    | document id' => rw [templatePath_injective at_path]
    | pointer => exact absurd at_path.symm pointerPath_ne_templatePath
    | draft temporary => exact absurd at_path templatePath_ne_draft
  | pointer =>
    generalize at_path : s.pointerPath = p at guards'
    cases guards' with
    | document id' => exact absurd at_path pointerPath_ne_templatePath
    | pointer | draft temporary => rfl
  | @draft name temporary =>
    generalize at_path : s.root ++ [name] = p at guards'
    cases guards' with
    | document id' => exact absurd at_path.symm templatePath_ne_draft
    | pointer | draft temporary => rfl

theorem lockPath_pointerLock_ne : s.lockPath pointerLock ≠ s.lockPath (templateLock id) := by
  intro same
  have names : pointerLock ++ ".lock" = templateLock id ++ ".lock" := by simpa [lockPath] using same
  have first := congrArg (fun name => name.toList.head?) names
  simp [pointerLock, templateLock] at first

end FileStore

end InvoiceForms
