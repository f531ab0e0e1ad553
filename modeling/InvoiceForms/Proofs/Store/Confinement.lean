import InvoiceForms.Proofs.Store.Calls
import InvoiceForms.Proofs.Store.Deeds
import InvoiceForms.Proofs.Store.Listing
import InvoiceForms.Proofs.Store.Paths
import InvoiceForms.Proofs.Template.Admission

/-!
# Where a store acts

Whatever it is called for and whatever its files hold, a store in a directory opens, makes, replaces
and removes only files of its own: the pointer, the documents of ids, their locks, and temporary files
beside the documents and the pointer. Ids are names of files, so none of these is outside of the
directories of the store; and each document and each lock stands for one id.
-/

namespace InvoiceForms

open InvoiceForms.Record InvoiceForms.Results
open Runner (program)

namespace TemplateId

/-- Whether a text consists of letters, digits, underscores, dots and hyphens, and of more than dots. -/
structure IsId (id : String) : Prop where
  characters : ∀ c ∈ id.toList, c.isAlphanum = true ∨ c = '_' ∨ c = '.' ∨ c = '-'
  more : ∃ c ∈ id.toList, c ≠ '.'

theorem isIdChar_iff {c : Char} :
    isIdChar c = true ↔ c.isAlphanum = true ∨ c = '_' ∨ c = '.' ∨ c = '-' := by
  have letters : c.isAlphanum = true ↔
      ('A' ≤ c ∧ c ≤ 'Z') ∨ ('a' ≤ c ∧ c ≤ 'z') ∨ ('0' ≤ c ∧ c ≤ '9') := by
    delta Char.isAlphanum Char.isAlpha Char.isUpper Char.isLower Char.isDigit
    simp only [Bool.or_eq_true, Bool.and_eq_true, decide_eq_true_eq, or_assoc]
    rfl
  rw [letters]
  simp only [isIdChar, Bool.or_eq_true, Bool.and_eq_true, decide_eq_true_eq, or_assoc]

theorem isValid_iff {id : String} : isValid id = true ↔ IsId id := by
  simp only [isValid, isIdText, Bool.and_eq_true, Bool.not_eq_true', List.all_eq_true,
    List.any_eq_true, decide_eq_true_eq, isIdChar_iff]
  constructor
  · rintro ⟨⟨-, characters⟩, more⟩
    exact ⟨characters, more⟩
  · rintro ⟨characters, c, inside, other⟩
    refine ⟨⟨?_, characters⟩, c, inside, other⟩
    rw [List.isEmpty_eq_false_iff]
    exact List.ne_nil_of_mem inside

end TemplateId

open TemplateId (IsId)

namespace Action

/-- Whether an action opens, makes, replaces or removes the file at a path. Asking what is there and
listing a directory open no file. -/
def Handles (fresh : String → Prop) : {α : Type} → Action α → Path → Prop
  | _, .read p, q | _, .touch p, q | _, .acquire p, q | _, .release p, q | _, .write p _, q
  | _, .append p _, q | _, .unlink p, q => q = p
  | _, .makeTemporary directory _, q => ∃ name, fresh name ∧ q = directory ++ [name]
  | _, .rename source target, q => q = source ∨ q = target
  | _, .has _, _ | _, .hasFile _, _ | _, .list _, _ | _, .makeDirectories _, _ | _, .report _, _
  | _, .now, _ => False

/-- Whether an action makes a directory, with those that lead to it. -/
def Ensures : {α : Type} → Action α → Path → Prop
  | _, .makeDirectories p, q => q = p
  | _, _, _ => False

/-- Whether an action moves a file to a path. -/
def Moves : {α : Type} → Action α → Path → Path → Prop
  | _, .rename source target, p, q => p = source ∧ q = target
  | _, _, _, _ => False

/-- Whether an action makes a temporary file in a directory, named after a stem. -/
def Drafts : {α : Type} → Action α → Path → String → Prop
  | _, .makeTemporary directory stem, p, name => p = directory ∧ name = stem
  | _, _, _, _ => False

/-- What an action may change is a file that it handles or on the way to a directory that it makes. -/
theorem handles_of_touches {fresh : String → Prop} {α : Type} {action : Action α} {q : Path}
    (touches : action.Touches fresh q) :
    action.Handles fresh q ∨ ∃ p, action.Ensures p ∧ q <+: p := by
  cases action with
  | makeDirectories p => exact .inr ⟨p, rfl, touches⟩
  | touch | acquire | makeTemporary | write | append | rename | unlink => exact .inl touches
  | _ => cases touches

end Action

/-- Programs whose actions do not touch a path avoid it. -/
theorem Program.Only.avoids {fresh : String → Prop} {allowed : {β : Type} → Action β → Prop} {α : Type}
    {p : Program α} {q : Path} (only : p.Only fresh allowed)
    (apart : ∀ {β : Type} {action : Action β}, allowed action → ¬ action.Touches fresh q) :
    p.Avoids fresh q := by
  induction p with
  | done a => trivial
  | act action next ih => exact ⟨apart only.1, fun w named => ih _ (only.2 w named)⟩

/-- Whether a text can be the name of a file in a directory, and of nothing elsewhere. -/
structure IsFileName (name : String) : Prop where
  separator : '/' ∉ name.toList
  nonempty : name ≠ ""
  self : name ≠ "."
  parent : name ≠ ".."

/-- A text that ends in an ending of letters names a file when it has no separator. -/
theorem isFileName_append {front ending : String} (separator : '/' ∉ front.toList)
    (ending_separator : '/' ∉ ending.toList) (last : ∃ c, ending.toList.getLast? = some c ∧ c ≠ '.') :
    IsFileName (front ++ ending) := by
  obtain ⟨c, last, other⟩ := last
  have nonempty : ending.toList ≠ [] := by
    rintro empty
    rw [empty] at last
    cases last
  have ends : (front ++ ending).toList.getLast? = some c := by
    rw [String.toList_append, List.getLast?_append_of_ne_nil _ nonempty, last]
  have apart {text : String} (wrong : text.toList.getLast? ≠ some c) : front ++ ending ≠ text := by
    rintro rfl
    exact wrong ends
  refine ⟨?_, apart nofun, apart ?_, apart ?_⟩
  · rw [String.toList_append, List.mem_append]
    exact fun inside => inside.elim separator ending_separator
  all_goals
    intro dots
    exact other (Option.some.inj dots).symm

namespace FileStore

open StoreProgram

/-- The directories of a store. -/
def directories (s : FileStore) : List Path := [s.root, s.templatesPath, s.locksPath]

/-- The files of a store. Temporary files have fresh names. -/
inductive Owned (s : FileStore) (fresh : String → Prop) : Path → Prop
  | pointer : Owned s fresh s.pointerPath
  | document {id : String} (named : IsId id) : Owned s fresh (s.templatePath id)
  | pointerLock : Owned s fresh (s.lockPath pointerLock)
  | templateLock {id : String} (named : IsId id) : Owned s fresh (s.lockPath (templateLock id))
  | besidePointer {name : String} (isFresh : fresh name) : Owned s fresh (s.root ++ [name])
  | besideDocuments {name : String} (isFresh : fresh name) : Owned s fresh (s.templatesPath ++ [name])

/-- Whether an action handles files of a store only, makes no directories but its own, and makes and
moves temporary files beside what they are for. -/
structure Confined (s : FileStore) (fresh : String → Prop) {α : Type} (action : Action α) : Prop where
  files : ∀ q, action.Handles fresh q → s.Owned fresh q
  directories : ∀ p, action.Ensures p → p ∈ s.directories
  beside : ∀ p q, action.Moves p q → p.dropLast = q.dropLast
  drafts : ∀ p stem, action.Drafts p stem →
    (p = s.templatesPath ∧ IsId stem) ∨ (p = s.root ∧ stem = "default")

variable {s : FileStore} {fresh : String → Prop} {id name : String}

theorem confined_reads : s.Reads (s.Confined fresh) where
  pointer := ⟨fun _ same => same ▸ .pointer, nofun, nofun, nofun⟩
  document _ valid :=
    ⟨fun _ same => same ▸ .document (TemplateId.isValid_iff.mp valid), nofun, nofun, nofun⟩
  has _ := ⟨nofun, nofun, nofun, nofun⟩
  hasFile _ := ⟨nofun, nofun, nofun, nofun⟩
  list _ := ⟨nofun, nofun, nofun, nofun⟩
  report _ := ⟨nofun, nofun, nofun, nofun⟩

/-- Making a directory of the store handles no file. -/
theorem confined_makeDirectories {p : Path} (own : p ∈ s.directories) :
    s.Confined fresh (.makeDirectories p) :=
  ⟨nofun, fun _ same => same ▸ own, nofun, nofun⟩

theorem confined_locks (own : s.Owned fresh (s.lockPath name)) :
    s.Locks (s.Confined fresh) name where
  templates := confined_makeDirectories (by simp [directories])
  locks := confined_makeDirectories (by simp [directories])
  touch := ⟨fun _ same => same ▸ own, nofun, nofun, nofun⟩
  acquire := ⟨fun _ same => same ▸ own, nofun, nofun, nofun⟩
  release := ⟨fun _ same => same ▸ own, nofun, nofun, nofun⟩

/-- A file of the store is replaced by way of a temporary file in its directory. -/
theorem confined_replaces {directory : Path} {stem : String} (own : directory ∈ s.directories)
    (beside : ∀ name, fresh name → s.Owned fresh (directory ++ [name]))
    (target : s.Owned fresh (directory ++ [name]))
    (draft : (directory = s.templatesPath ∧ IsId stem) ∨ (directory = s.root ∧ stem = "default")) :
    Replaces fresh (s.Confined fresh) directory stem (directory ++ [name]) where
  ensure := confined_makeDirectories own
  make := by
    refine ⟨?_, nofun, nofun, ?_⟩
    · rintro q ⟨name, isFresh, rfl⟩
      exact beside name isFresh
    · rintro p stem ⟨rfl, rfl⟩
      exact draft
  write _ _ isFresh := ⟨fun _ same => same ▸ beside _ isFresh, nofun, nofun, nofun⟩
  move temporary isFresh := by
    refine ⟨?_, nofun, ?_, nofun⟩
    · rintro q (rfl | rfl)
      · exact beside temporary isFresh
      · exact target
    · rintro p q ⟨rfl, rfl⟩
      rw [List.dropLast_concat, List.dropLast_concat]
  discard _ isFresh := ⟨fun _ same => same ▸ beside _ isFresh, nofun, nofun, nofun⟩

theorem confined_replaces_document (named : IsId id) :
    Replaces fresh (s.Confined fresh) s.templatesPath id (s.templatePath id) :=
  confined_replaces (by simp [directories]) (fun _ => .besideDocuments) (.document named)
    (.inl ⟨rfl, named⟩)

theorem confined_replaces_pointer :
    Replaces fresh (s.Confined fresh) s.root "default" s.pointerPath :=
  confined_replaces (by simp [directories]) (fun _ => .besidePointer) .pointer (.inr ⟨rfl, rfl⟩)

/-- Whatever a store is called for, it stays with its own, as long as the templates that it is to store
were let through by validation. -/
theorem only_confined {call : StoreCall} (admitted : ∀ t, call = .upsert t → t.Admitted) :
    Only fresh (s.Confined fresh) (call.perform s.operations) := by
  have reads : s.Reads (s.Confined fresh) := confined_reads
  have pointer : s.Locks (s.Confined fresh) pointerLock := confined_locks .pointerLock
  have locks {id : String} (valid : TemplateId.isValid id = true) :
      s.Locks (s.Confined fresh) (templateLock id) :=
    confined_locks (.templateLock (TemplateId.isValid_iff.mp valid))
  have clear : s.Confined fresh (.unlink s.pointerPath) :=
    ⟨fun _ same => same ▸ .pointer, nofun, nofun, nofun⟩
  cases call with
  | upsert t =>
    have valid := (admitted t rfl).isValid_id
    have stores : Only fresh (s.Confined fresh) (s.upsert t) := only_upsert reads (locks valid)
      (confined_replaces_document (TemplateId.isValid_iff.mp valid))
    exact stores.bind fun _ => only_pure _
  | get id => exact (only_get reads id).bind fun _ => only_pure _
  | getDefault => exact (only_getDefault reads).bind fun _ => only_pure _
  | defaultId => exact (only_defaultId reads).bind fun _ => only_pure _
  | setDefault id =>
    have points : Only fresh (s.Confined fresh) (s.setDefault id) :=
      only_setDefault reads locks pointer confined_replaces_pointer
    exact points.bind fun _ => only_pure _
  | delete id =>
    have removes : Only fresh (s.Confined fresh) (s.delete id) := by
      refine only_delete reads locks (fun valid => ?_) pointer clear
      exact ⟨fun _ same => same ▸ .document (TemplateId.isValid_iff.mp valid), nofun, nofun, nofun⟩
    exact removes.bind fun _ => only_pure _
  | list => exact (only_list reads).bind fun _ => only_pure _

/-- What is neither a file of the store nor on the way to one of its directories is not touched. -/
theorem Confined.not_touches {α : Type} {action : Action α} {q : Path}
    (confined : s.Confined fresh action) (foreign : ¬ s.Owned fresh q)
    (aside : ∀ p ∈ s.directories, ¬ q <+: p) : ¬ action.Touches fresh q := by
  intro touches
  rcases Action.handles_of_touches touches with handled | ⟨p, made, way⟩
  · exact foreign (confined.files q handled)
  · exact aside p (confined.directories p made) way

theorem separator_of_isId (named : IsId id) : '/' ∉ id.toList := by
  intro inside
  have character := named.characters '/' inside
  exact absurd character (by decide)

/-- The files of a store lie directly in its directories. -/
theorem Owned.directly {q : Path} (own : s.Owned fresh q)
    (fresh_names : ∀ name, fresh name → IsFileName name) :
    ∃ d ∈ s.directories, ∃ name, q = d ++ [name] ∧ IsFileName name := by
  have lockName {front : String} (separator : '/' ∉ front.toList) : IsFileName (front ++ ".lock") :=
    isFileName_append separator (by decide) ⟨'k', rfl, by decide⟩
  cases own with
  | pointer => exact ⟨_, by simp [directories], _, rfl, ⟨by decide, by decide, by decide, by decide⟩⟩
  | document named =>
    exact ⟨_, by simp [directories], _, rfl,
      isFileName_append (separator_of_isId named) (by decide) ⟨'n', rfl, by decide⟩⟩
  | pointerLock => exact ⟨_, by simp [directories], _, rfl, lockName (by decide)⟩
  | @templateLock id named =>
    refine ⟨_, by simp [directories], _, rfl, lockName ?_⟩
    rw [FileStore.templateLock, String.toList_append, List.mem_append]
    exact fun inside => inside.elim (by decide) (separator_of_isId named)
  | besidePointer isFresh => exact ⟨_, by simp [directories], _, rfl, fresh_names _ isFresh⟩
  | besideDocuments isFresh => exact ⟨_, by simp [directories], _, rfl, fresh_names _ isFresh⟩

theorem lockPath_templateLock_injective {id other : String}
    (same : s.lockPath (templateLock id) = s.lockPath (templateLock other)) : id = other := by
  have names : "template-" ++ id ++ ".lock" = "template-" ++ other ++ ".lock" := by
    simpa [lockPath, templateLock] using same
  have texts := congrArg String.toList names
  simp only [String.toList_append] at texts
  exact String.toList_inj.mp (List.append_cancel_left (List.append_cancel_right texts))

/-- How a call of a store is kept to the files of the store, and how these stand for ids. -/
structure Confinement (s : FileStore) (fresh : String → Prop) (call : StoreCall) : Prop where
  /-- Whatever its actions give, the call takes none but those that are confined, and leaves the rest
  of the tree as it is. -/
  actions : Only fresh (s.Confined fresh) (call.perform s.operations)
  frame : ∀ (w : World) (q : Path), w.Names fresh → ¬ s.Owned fresh q →
    (∀ p ∈ s.directories, ¬ q <+: p) →
    (program.after (call.perform s.operations) w).tree.node? q = w.tree.node? q
  /-- The files of the store lie directly in its directories. -/
  directly : (∀ name, fresh name → IsFileName name) → ∀ q, s.Owned fresh q →
    ∃ d ∈ s.directories, ∃ name, q = d ++ [name] ∧ IsFileName name
  /-- Each document and each lock stands for one id, and none is the pointer or its lock. -/
  documents : ∀ id other, s.templatePath id = s.templatePath other → id = other
  locks : ∀ id other, s.lockPath (templateLock id) = s.lockPath (templateLock other) → id = other
  pointer : ∀ id, s.templatePath id ≠ s.pointerPath
  pointerLock : ∀ id, s.lockPath (templateLock id) ≠ s.lockPath pointerLock
  /-- The stem of a document is its id. -/
  stem : ∀ id, IsId id → ∃ name, s.templatePath id = s.templatesPath ++ [name] ∧ stem? name = some id

/-- Every call of a store is confined to the files of the store. -/
theorem confinement (s : FileStore) (fresh : String → Prop) {call : StoreCall}
    (admitted : ∀ t, call = .upsert t → t.Admitted) : s.Confinement fresh call where
  actions := only_confined admitted
  frame := by
    intro w q named foreign aside
    have avoids : Avoids fresh q (call.perform s.operations) :=
      Program.Only.avoids (only_confined admitted) fun confined => confined.not_touches foreign aside
    exact avoids.node?_after named
  directly fresh_names _ own := own.directly fresh_names
  documents _ _ := templatePath_injective
  locks _ _ := lockPath_templateLock_injective
  pointer _ := pointerPath_ne_templatePath.symm
  pointerLock _ := lockPath_pointerLock_ne.symm
  stem id named := by
    refine ⟨id ++ suffix, rfl, stem?_eq_some_iff.mpr ⟨?_, rfl⟩⟩
    rintro rfl
    obtain ⟨c, inside, -⟩ := named.more
    cases inside

/-- Storing a template whose id begins with dots is confined. -/
theorem dotted_confinement : ∃ t : Template, t.id = "..a.json" ∧
    (∀ u, StoreCall.upsert t = .upsert u → u.Admitted) ∧
      (⟨["store"]⟩ : FileStore).Confinement IsTemporary (.upsert t) := by
  have read : (Template.schema.read (.mapping [("id", .text " ..a.json "), ("name", .text "A"),
      ("companyInfo", .mapping [("name", .text "Meadow")])])).map (·.id) = .ok "..a.json" := by
    decide
  obtain ⟨t, given, named⟩ := map_eq_ok.mp read
  have admitted : ∀ u, StoreCall.upsert t = .upsert u → u.Admitted := by
    rintro u ⟨⟩
    exact .read given
  exact ⟨t, named, admitted, confinement ⟨["store"]⟩ IsTemporary admitted⟩

end FileStore

end InvoiceForms
