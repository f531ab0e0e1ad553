import InvoiceForms.Proofs.Store.Persistence

/-!
# What stores read

Reading a store in a directory leaves its files as they are, whatever they hold: all that happens is
that something is reported. So what each search gives is a function of the file tree, and this module
says which one.
-/

namespace InvoiceForms

open InvoiceForms.Results
open Runner (program)

namespace FileStore

open StoreProgram

variable {s : FileStore} {w : World}

/-- The template that the reading of a document gives. -/
def templateIn (id : String) (isDefault : Bool) : Reading → Except StoreFault (Option Template)
  | .absent => .ok none
  | .unreadable e => .error (.unavailable (.readTemplate id e))
  | .malformed e => .error (.configuration (.notJson id e))
  | .found (.object members) => (templateOf id isDefault members).map some
  | .found _ => .error (.configuration (.notObject id))

/-- The template that a tree holds under an id. -/
def loaded (s : FileStore) (tree : FileTree) (id : String) (isDefault : Bool) :
    Except StoreFault (Option Template) :=
  if TemplateId.isValid id then
    (readingAt tree (s.templatePath id)).bind (templateIn id isDefault)
  else .ok none

/-- A template that is loaded is described by the document in the file of its id. -/
theorem loaded_eq_some {tree : FileTree} {id : String} {flag : Bool} {t : Template}
    (given : s.loaded tree id flag = .ok (some t)) : TemplateId.isValid id = true ∧ ∃ members,
      readingAt tree (s.templatePath id) = .ok (.found (.object members)) ∧
        templateOf id flag members = .ok t := by
  unfold loaded at given
  split at given
  · next valid =>
    obtain ⟨r, reading, read⟩ := bind_eq_ok.mp given
    unfold templateIn at read
    split at read
    · cases read
    · cases read
    · cases read
    · next members =>
      obtain ⟨u, described, same⟩ := map_eq_ok.mp read
      cases same
      exact ⟨valid, members, reading, described⟩
    · cases read
  · cases given

/-- A document in the file of an id is loaded as the template that it describes. -/
theorem exists_loaded_of_print {α : Type} {tree : FileTree} {id : String} {flag : Bool}
    {members : Entries Json} {shown : Template → α} {x : α}
    (said : tree.read (s.templatePath id) =
      .ok (Text.encode (Json.print .document (.object members))))
    (valid : TemplateId.isValid id = true) (distinct : (Json.object members).hasDistinctKeys = true)
    (few : (Json.object members).hasReadableIntegers = true)
    (described : (templateOf id flag members).map shown = .ok x) :
    ∃ t, s.loaded tree id flag = .ok (some t) ∧ shown t = x := by
  obtain ⟨t, described, same⟩ := map_eq_ok.mp described
  refine ⟨t, ?_, same⟩
  rw [loaded, if_pos valid, readingAt, said]
  dsimp only
  rw [readingOf_print distinct few]
  show (templateOf id flag members).map some = _
  rw [described]
  rfl

/-- The id that the pointer in a tree names. -/
def pointed (s : FileStore) (tree : FileTree) : Except StoreFault (Option String) :=
  (readingAt tree s.pointerPath).bind pointerOf

/-- It is the id that was written in it. -/
theorem pointed_of_pointerDocument {tree : FileTree} {id : String}
    (said : tree.read s.pointerPath = .ok (Text.encode (documentText (pointerDocument id))))
    (valid : TemplateId.isValid id = true) : s.pointed tree = .ok (some id) := by
  rw [pointed, readingAt, said]
  exact pointing_pointerDocument valid

theorem answer_defaultId (s : FileStore) (w : World) :
    program.answer s.defaultId w = s.pointed w.tree := by
  obtain ⟨journal, ends⟩ := outcome_defaultId s w
  rw [Runner.answer, ends]
  rfl

/-- Loading a template leaves the world as it is. -/
theorem outcome_load (s : FileStore) (id : String) (isDefault : Bool) (w : World) :
    program.outcome (s.load id isDefault) w = (s.loaded w.tree id isDefault, w) := by
  unfold load loaded
  by_cases valid : TemplateId.isValid id = true
  · rw [if_pos valid, if_pos valid]
    cases reading : readingAt w.tree (s.templatePath id) with
    | error e =>
      rw [outcome_bind_of_error (by rw [outcome_readDocument, reading])]
      rfl
    | ok r =>
      rw [outcome_bind_of_ok (by rw [outcome_readDocument, reading])]
      cases r with
      | found document =>
        cases document with
        | object members =>
          show program.outcome (MonadExcept.ofExcept (templateOf id isDefault members) >>= _) w =
            ((templateOf id isDefault members).map some, w)
          cases templateOf id isDefault members <;> rfl
        | _ => rfl
      | _ => rfl
  · rw [if_neg valid, if_neg valid]
    rfl

/-- Getting a template changes the journal at most. -/
theorem outcome_get (s : FileStore) (id : String) (w : World) : ∃ journal,
    program.outcome (s.get id) w =
      ((s.pointed w.tree).bind fun pointer => s.loaded w.tree id (pointer = some id),
        { w with journal := journal }) := by
  obtain ⟨journal, looked⟩ := outcome_defaultId s w
  unfold get pointed
  refine ⟨journal, ?_⟩
  cases pointer : (readingAt w.tree s.pointerPath).bind pointerOf with
  | error e =>
    rw [outcome_bind_of_error (looked.trans (by rw [pointer]))]
    rfl
  | ok named =>
    rw [outcome_bind_of_ok (looked.trans (by rw [pointer])), outcome_load]
    rfl

/-- Getting the default template changes the journal at most. -/
theorem outcome_getDefault (s : FileStore) (w : World) : ∃ journal,
    program.outcome s.getDefault w =
      ((s.pointed w.tree).bind fun pointer =>
        pointer.elim (.ok none) fun id => s.loaded w.tree id true, { w with journal := journal }) := by
  obtain ⟨journal, looked⟩ := outcome_defaultId s w
  unfold getDefault pointed
  cases pointer : (readingAt w.tree s.pointerPath).bind pointerOf with
  | error e =>
    rw [outcome_bind_of_error (looked.trans (by rw [pointer]))]
    exact ⟨journal, rfl⟩
  | ok named =>
    rw [outcome_bind_of_ok (looked.trans (by rw [pointer]))]
    cases named with
    | none => exact ⟨journal, rfl⟩
    | some id =>
      have given := outcome_load s id true { w with journal := journal }
      show ∃ journal', program.outcome (s.load id true >>= _) _ = (s.loaded w.tree id true, _)
      cases found : s.loaded w.tree id true with
      | error e =>
        rw [outcome_bind_of_error (given.trans (by rw [found]))]
        exact ⟨journal, rfl⟩
      | ok t =>
        rw [outcome_bind_of_ok (given.trans (by rw [found]))]
        cases t <;> exact ⟨_, rfl⟩

/-- The names of files among names in the directory of documents. -/
theorem outcome_filesAmong (s : FileStore) (names : List String) (w : World) :
    program.outcome (s.filesAmong names) w =
      (.ok (names.filter fun name => w.tree.hasFile (s.templatesPath ++ [name])), w) := by
  induction names with
  | nil => rfl
  | cons name rest ih =>
    unfold filesAmong
    have looked : program.outcome (perform (.hasFile (s.templatesPath ++ [name]))) w =
        (.ok (w.tree.hasFile (s.templatesPath ++ [name])), w) := outcome_perform _ _
    rw [outcome_bind_of_ok looked, outcome_bind_of_ok ih, Runner.outcome_pure, List.filter_cons]

/-- The ids of all documents in a tree, in the order of their file names. -/
def documentIds (s : FileStore) (tree : FileTree) : Except StoreFault (List String) :=
  if tree.has s.templatesPath then
    (tree.list s.templatesPath).mapError .file |>.map fun names =>
      ((names.filter fun name => tree.hasFile (s.templatesPath ++ [name])).mergeSort
        fun a b => decide (a ≤ b)).filterMap stem?
  else .ok []

theorem outcome_storedIds (s : FileStore) (w : World) :
    program.outcome s.storedIds w = (s.documentIds w.tree, w) := by
  have looked : program.outcome (perform (.has s.templatesPath)) w =
      (.ok (w.tree.has s.templatesPath), w) := outcome_perform _ _
  unfold storedIds documentIds
  rw [outcome_bind_of_ok looked]
  by_cases there : w.tree.has s.templatesPath = true
  · rw [if_pos there, if_pos there]
    cases listed : (w.perform (.list s.templatesPath)).1 with
    | error e =>
      have failed : program.outcome (attempt .file (.list s.templatesPath)) w = (.error (.file e), w) :=
        outcome_attempt_of_error listed _
      have listed : w.tree.list s.templatesPath = .error e := listed
      rw [outcome_bind_of_error failed, listed]
      rfl
    | ok names =>
      have given : program.outcome (attempt .file (.list s.templatesPath)) w = (.ok names, w) :=
        outcome_attempt listed _
      have listed : w.tree.list s.templatesPath = .ok names := listed
      rw [outcome_bind_of_ok given, outcome_bind_of_ok (outcome_filesAmong s names w), listed]
      rfl
  · rw [if_neg there, if_neg there]
    rfl

/-- The fault that ends a listing: any but that a template is no use. -/
def endsListing? : Except StoreFault (Option Template) → Option StoreFault
  | .error (.configuration _) => none
  | .error e => some e
  | .ok _ => none

/-- The template that a listing shows. -/
def listed? : Except StoreFault (Option Template) → Option Template
  | .ok t => t
  | .error _ => none

/-- The templates of documents: those that are no use are left out, and the first other fault ends
the listing. -/
def loadedAll (s : FileStore) (tree : FileTree) (pointer : Option String) (ids : List String) :
    Except StoreFault (List Template) :=
  let readings := ids.map fun id => s.loaded tree id (pointer = some id)
  match readings.findSome? endsListing? with
  | some e => .error e
  | none => .ok (readings.filterMap listed?)

theorem loadedAll_cons (s : FileStore) (tree : FileTree) (pointer : Option String) (id : String)
    (rest : List String) : s.loadedAll tree pointer (id :: rest) =
      match s.loaded tree id (pointer = some id) with
      | .ok (some t) => (s.loadedAll tree pointer rest).map (t :: ·)
      | .ok none | .error (.configuration _) => s.loadedAll tree pointer rest
      | .error e => .error e := by
  unfold loadedAll
  rw [List.map_cons]
  dsimp only
  rw [List.findSome?_cons, List.filterMap_cons]
  cases s.loaded tree id (pointer = some id) with
  | ok t =>
    cases t <;>
      cases (rest.map fun id => s.loaded tree id (pointer = some id)).findSome? endsListing? <;> rfl
  | error e => cases e <;> rfl

/-- A template that is loaded is listed in front of the others. -/
theorem loadedAll_cons_of_loaded {tree : FileTree} {pointer : Option String} {id : String}
    {rest : List String} {t : Template} {ts : List Template}
    (first : s.loaded tree id (pointer = some id) = .ok (some t))
    (others : s.loadedAll tree pointer rest = .ok ts) :
    s.loadedAll tree pointer (id :: rest) = .ok (t :: ts) := by
  rw [loadedAll_cons, first, others]
  rfl

/-- Loading several templates changes the journal at most. The induction is on the ids. -/
theorem outcome_loadAll (s : FileStore) (pointer : Option String) (ids : List String) (w : World) :
    ∃ journal, program.outcome (s.loadAll pointer ids) w =
      (s.loadedAll w.tree pointer ids, { w with journal := journal }) := by
  induction ids generalizing w with
  | nil => exact ⟨w.journal, rfl⟩
  | cons id rest ih =>
    have run : program.run (s.load id (pointer = some id)).run w =
        (s.loaded w.tree id (pointer = some id), w) := outcome_load s id _ w
    rw [loadedAll_cons]
    unfold loadAll
    rw [outcome_bind_of_ok (Runner.outcome_lift _ _ _), run]
    dsimp only
    cases s.loaded w.tree id (pointer = some id) with
    | ok t =>
      obtain ⟨journal, ends⟩ := ih w
      cases t with
      | none => exact ⟨journal, ends⟩
      | some t =>
        refine ⟨journal, ?_⟩
        show program.outcome (s.loadAll pointer rest >>= _) w = _
        cases all : s.loadedAll w.tree pointer rest with
        | error e =>
          rw [outcome_bind_of_error (ends.trans (by rw [all]))]
          rfl
        | ok ts =>
          rw [outcome_bind_of_ok (ends.trans (by rw [all]))]
          rfl
    | error e =>
      cases e with
      | configuration cause =>
        obtain ⟨journal, ends⟩ := ih { w with journal := w.journal ++
          [entry .warning ("Skipping template " ++ id ++ ": " ++ cause.message) []] }
        exact ⟨journal, ends⟩
      | _ => exact ⟨w.journal, rfl⟩

/-- Listing templates changes the journal at most. -/
theorem outcome_list (s : FileStore) (w : World) : ∃ journal,
    program.outcome s.list w =
      ((s.pointed w.tree).bind fun pointer =>
        (s.documentIds w.tree).bind (s.loadedAll w.tree pointer), { w with journal := journal }) := by
  obtain ⟨journal, looked⟩ := outcome_defaultId s w
  unfold list pointed
  cases pointer : (readingAt w.tree s.pointerPath).bind pointerOf with
  | error e =>
    rw [outcome_bind_of_error (looked.trans (by rw [pointer]))]
    exact ⟨journal, rfl⟩
  | ok named =>
    rw [outcome_bind_of_ok (looked.trans (by rw [pointer]))]
    have stored := outcome_storedIds s { w with journal := journal }
    show ∃ journal', program.outcome (s.storedIds >>= _) _ =
      ((s.documentIds w.tree).bind (s.loadedAll w.tree named), _)
    cases ids : s.documentIds w.tree with
    | error e =>
      rw [outcome_bind_of_error (stored.trans (by rw [ids]))]
      exact ⟨journal, rfl⟩
    | ok ids' =>
      rw [outcome_bind_of_ok (stored.trans (by rw [ids]))]
      exact outcome_loadAll s named ids' { w with journal := journal }

end FileStore

end InvoiceForms
