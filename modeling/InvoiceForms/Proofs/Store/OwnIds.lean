import InvoiceForms.Proofs.Store.Flags
import InvoiceForms.Proofs.Store.Paths
import InvoiceForms.Proofs.Store.Persistence

/-!
# The ids of loaded templates

A template is loaded by the id that its file is named for, but the id that it has is the one that its
document gives, if it gives one. So what a store shows carries the ids that it was loaded by as long as no
document gives another id than that of its own file; of a copied document, two files show the same id.
-/

namespace InvoiceForms

open InvoiceForms.Record InvoiceForms.Results InvoiceForms.Text
open Runner (program)

/-- An id has no white space around it. -/
theorem TemplateId.trimWhiteSpace_of_isValid {id : String} (valid : TemplateId.isValid id = true) :
    trimWhiteSpace id = id := by
  have plain : ∀ c ∈ id.toList, isWhiteSpace c = false := by
    intro c inside
    have place := TemplateId.toNat_of_isIdChar (TemplateId.isIdChar_of_isValid valid inside)
    simp only [isWhiteSpace, Bool.or_eq_false_iff, Bool.and_eq_false_iff, decide_eq_false_iff_not,
      beq_eq_false_iff_ne]
    omega
  rw [trimWhiteSpace, trim_of_not plain, String.ofList_toList]

/-- A text that is read as an id is the id, but for white space around it. -/
theorem Template.eq_of_read_id {s id : String}
    (given : (Codec.textVia idRule usableId).read (.text s) = .ok id) : id = trimWhiteSpace s := by
  obtain ⟨text, passed, normal⟩ := bind_eq_ok.mp given
  unfold usableId at normal
  by_cases valid : TemplateId.isValid text = true
  · rw [if_pos valid] at normal
    cases normal
    exact TextRule.eq_normal_of_check (show idRule.check s = .ok id from passed)
  · rw [if_neg valid] at normal
    cases normal

namespace FileStore

open StoreProgram

variable {s : FileStore} {w : World} {tree : FileTree} {id : String} {flag : Bool} {t : Template}
  {members : Entries Json} {ts : List Template}

/-- The id that a document gives itself, if it gives one. -/
def ownId? (members : Entries Json) : Option String :=
  match Entries.get? "id" (Entries.ofList members) with
  | some (.text s) => some (trimWhiteSpace s)
  | _ => none

/-- A template has the id that its document gives, or else the one that its file is named for. -/
theorem id_of_templateOf (valid : TemplateId.isValid id = true)
    (given : templateOf id flag members = .ok t) : t.id = (ownId? members).getD id := by
  rw [templateOf_eq] at given
  split at given
  · next u pairs =>
    cases given
    obtain ⟨v, found, read⟩ := Template.id_of_readEntries (Schema.readEntries_of_readPairs pairs)
    rw [get?_flagged (by decide), get?_id_entriesOf] at found
    cases found
    unfold ownId?
    cases stated : Entries.get? "id" (Entries.ofList members) with
    | none =>
      rw [stated] at read
      exact (Template.eq_of_read_id read).trans (TemplateId.trimWhiteSpace_of_isValid valid)
    | some v =>
      rw [stated] at read
      cases v with
      | text own => exact Template.eq_of_read_id read
      | _ => cases read
  · cases given
  · cases given

/-- What is loaded under an id is described by the document in the file of the id. -/
theorem exists_document_of_loaded (given : s.loaded tree id flag = .ok (some t)) : ∃ members,
    readingAt tree (s.templatePath id) = .ok (.found (.object members)) ∧
      t.id = (ownId? members).getD id := by
  obtain ⟨valid, members, reading, described⟩ := loaded_eq_some given
  exact ⟨members, reading, id_of_templateOf valid described⟩

/-- Getting a template is loading it, with the flag that the pointer says. -/
theorem loaded_of_get (got : program.answer (s.get id) w = .ok (some t)) :
    ∃ pointer, s.pointed w.tree = .ok pointer ∧
      s.loaded w.tree id (pointer = some id) = .ok (some t) := by
  obtain ⟨journal, ends⟩ := outcome_get s id w
  rw [Runner.answer, ends] at got
  exact bind_eq_ok.mp got

theorem exists_pointer_of_getDefault (given : program.answer s.getDefault w = .ok (some t)) :
    ∃ pointer, s.pointed w.tree = .ok pointer := by
  obtain ⟨journal, ends⟩ := outcome_getDefault s w
  rw [Runner.answer, ends] at given
  obtain ⟨pointer, pointed, -⟩ := bind_eq_ok.mp given
  exact ⟨pointer, pointed⟩

/-- A listing shows what getting each of the files gives. -/
theorem listed_eq (listed : program.answer s.list w = .ok ts) : ∃ ids,
    s.documentIds w.tree = .ok ids ∧
      ts = ids.filterMap fun id => listed? (program.answer (s.get id) w) := by
  obtain ⟨journal, ends⟩ := outcome_list s w
  rw [Runner.answer, ends] at listed
  obtain ⟨pointer, named, rest⟩ := bind_eq_ok.mp listed
  obtain ⟨ids, stored, all⟩ := bind_eq_ok.mp rest
  refine ⟨ids, stored, ?_⟩
  unfold loadedAll at all
  dsimp only at all
  split at all
  · cases all
  · cases all
    rw [List.filterMap_map]
    congr 1
    funext id
    rw [Function.comp_apply, answer_get named]

/-- Whether the document in the file of an id gives itself no other one. -/
def NamesItself (s : FileStore) (tree : FileTree) (id : String) : Prop :=
  ∀ members own, readingAt tree (s.templatePath id) = .ok (.found (.object members)) →
    ownId? members = some own → own = id

/-- The templates of a store have the ids that they are loaded by. -/
structure NamedByFile (s : FileStore) (w : World) : Prop where
  get : ∀ id t, program.answer (s.get id) w = .ok (some t) → t.id = id
  getDefault : ∀ t, program.answer s.getDefault w = .ok (some t) →
    program.answer s.defaultId w = .ok (some t.id)
  /-- What is listed under an id is what is got by it, from the file of that id. -/
  list : ∀ ts, program.answer s.list w = .ok ts → ∀ t ∈ ts,
    w.tree.hasFile (s.templatePath t.id) = true ∧ program.answer (s.get t.id) w = .ok (some t)
  once : ∀ ts, program.answer s.list w = .ok ts → (ts.map (·.id)).Nodup
  /-- The one that is shown as the default has the id of the pointer. -/
  default : ∀ ts, program.answer s.list w = .ok ts → ∀ t ∈ ts,
    (t.isDefault = true ↔ program.answer s.defaultId w = .ok (some t.id))

/-- Where templates have the ids that they are got by, all searches show them under these. -/
theorem namedByFile_of_get (distinct : w.tree.Distinct)
    (named : ∀ id t, program.answer (s.get id) w = .ok (some t) → t.id = id) : s.NamedByFile w := by
  have got {ids : List String} {ts : List Template} {t : Template}
      (shown : ts = ids.filterMap fun id => listed? (program.answer (s.get id) w)) (member : t ∈ ts) :
      t.id ∈ ids ∧ program.answer (s.get t.id) w = .ok (some t) := by
    subst shown
    obtain ⟨id, inside, found⟩ := List.mem_filterMap.mp member
    have given := eq_some_of_listed? found
    obtain rfl := named id t given
    exact ⟨inside, given⟩
  refine ⟨named, ?_, ?_, ?_, ?_⟩
  · intro t given
    obtain ⟨pointer, pointed⟩ := exists_pointer_of_getDefault given
    rw [answer_getDefault pointed] at given
    rw [answer_defaultId, pointed]
    cases pointer with
    | none => cases given
    | some id => rw [named id t given]
  · intro ts listed t member
    obtain ⟨ids, stored, shown⟩ := listed_eq listed
    obtain ⟨inside, given⟩ := got shown member
    exact ⟨((mem_documentIds_iff stored).mp inside).2, given⟩
  · intro ts listed
    obtain ⟨ids, stored, rfl⟩ := listed_eq listed
    rw [List.map_filterMap]
    apply (nodup_documentIds distinct stored).filterMap
    intro id other shown here there
    obtain ⟨t, first, rfl⟩ := Option.map_eq_some_iff.mp here
    obtain ⟨u, second, same⟩ := Option.map_eq_some_iff.mp there
    rw [← named id t (eq_some_of_listed? first), ← same, named other u (eq_some_of_listed? second)]
  · intro ts listed t member
    obtain ⟨ids, stored, shown⟩ := listed_eq listed
    obtain ⟨-, given⟩ := got shown member
    obtain ⟨pointer, pointed, -⟩ := loaded_of_get given
    rw [isDefault_of_get pointed given, answer_defaultId, pointed, Except.ok.injEq]

/-- A template has the id that its document gives, or else the one that it is loaded by. So the templates
of a store have the ids of their files exactly if none that can be got gives itself another one. -/
theorem namedByFile_iff (distinct : w.tree.Distinct) :
    (∀ id t, program.answer (s.get id) w = .ok (some t) → ∃ members,
      readingAt w.tree (s.templatePath id) = .ok (.found (.object members)) ∧
        t.id = (ownId? members).getD id) ∧
    (s.NamedByFile w ↔
      ∀ id t, program.answer (s.get id) w = .ok (some t) → s.NamesItself w.tree id) := by
  have described : ∀ id t, program.answer (s.get id) w = .ok (some t) → ∃ members,
      readingAt w.tree (s.templatePath id) = .ok (.found (.object members)) ∧
        t.id = (ownId? members).getD id := by
    intro id t got
    obtain ⟨pointer, -, loads⟩ := loaded_of_get got
    exact exists_document_of_loaded loads
  refine ⟨described, ?_, ?_⟩
  · intro named id t got members own reading gives
    obtain ⟨others, reading', same⟩ := described id t got
    obtain rfl : members = others := by
      rw [reading] at reading'
      simpa using reading'
    rw [gives, named.get id t got] at same
    exact same.symm
  · intro itself
    apply namedByFile_of_get distinct
    intro id t got
    obtain ⟨members, reading, same⟩ := described id t got
    rw [same]
    cases gives : ownId? members with
    | none => rfl
    | some own => exact itself id t got members own reading gives

/-- What is read of a document is what its file says. -/
theorem exists_file_of_readingAt {p : Path} {doc : Json} (reading : readingAt tree p = .ok (.found doc)) :
    ∃ content, tree.node? p = some (.file content) ∧ readingOf content = .ok (.found doc) := by
  unfold readingAt at reading
  cases read : tree.read p with
  | ok content =>
    rw [read] at reading
    exact ⟨content, FileTree.node?_of_find (FileTree.read_eq_ok_iff.mp read), reading⟩
  | error e =>
    rw [read] at reading
    by_cases missing : e.cause = .missing <;> simp [missing] at reading

/-- Both documents give themselves the ids of their files, so what is read of them has these. -/
theorem contested_namedByFile :
    contested.Distinct ∧ (⟨[]⟩ : FileStore).NamedByFile { tree := contested } := by
  have distinct : contested.Distinct := by decide
  refine ⟨distinct, (namedByFile_iff distinct).2.mpr ?_⟩
  intro id t got members own reading gives
  obtain ⟨content, node, said⟩ := exists_file_of_readingAt reading
  obtain ⟨entry, first, same⟩ := Option.map_eq_some_iff.mp node
  have key : entry.1 = templatePath ⟨[]⟩ id := by simpa using List.find?_some first
  have inside := List.mem_of_find?_eq_some first
  simp only [contested, List.mem_cons, List.not_mem_nil, or_false] at inside
  rcases inside with rfl | rfl | rfl | rfl | rfl
  · cases same
  · obtain rfl : "a" = id := templatePath_injective (s := ⟨[]⟩) key
    cases same
    rw [readingOf_print (by decide) (by decide)] at said
    cases said
    exact Option.some.inj (gives.symm.trans (by decide))
  · obtain rfl : "b" = id := templatePath_injective (s := ⟨[]⟩) key
    cases same
    rw [readingOf_print (by decide) (by decide)] at said
    cases said
    exact Option.some.inj (gives.symm.trans (by decide))
  · obtain rfl : "c" = id := templatePath_injective (s := ⟨[]⟩) key
    cases same
    cases (show readingOf .empty = _ from rfl).symm.trans said
  · exact absurd key (pointerPath_ne_templatePath (s := ⟨[]⟩))

/-- A tree in which a document is copied to the file of another id, which is the default. -/
def copied : FileTree := ⟨[
  (["templates"], .directory),
  (["templates", "a.json"], flaggedFile "isDefault" "b"),
  (["templates", "b.json"], flaggedFile "isDefault" "b"),
  (["default.json"], .file (Text.encode (documentText (pointerDocument "a"))))]⟩

/-- Both files show a template of the id that the document gives, also the default, which the pointer
names by its file. -/
theorem copied_not_namedByFile : ∃ t ts,
    program.answer (get ⟨[]⟩ "a") { tree := copied } = .ok (some t) ∧ t.id = "b" ∧
      program.answer (getDefault ⟨[]⟩) { tree := copied } = .ok (some t) ∧
      program.answer (defaultId ⟨[]⟩) { tree := copied } = .ok (some "a") ∧
      program.answer (list ⟨[]⟩) { tree := copied } = .ok ts ∧
      ts.map (fun t => (t.id, t.isDefault)) = [("b", true), ("b", false)] ∧
      ¬ NamedByFile ⟨[]⟩ { tree := copied } := by
  have named : pointed ⟨[]⟩ copied = .ok (some "a") := pointed_of_pointerDocument rfl (by decide)
  have names : copied.list ["templates"] = .ok ["a.json", "b.json"] := rfl
  have stored : documentIds ⟨[]⟩ copied = .ok ["a", "b"] :=
    (documentIds_of_pairwise rfl names (by decide)).trans (by decide)
  obtain ⟨t, givesA, showsA⟩ : ∃ t, loaded ⟨[]⟩ copied "a" true = .ok (some t) ∧
      (t.id, t.isDefault) = ("b", true) :=
    exists_loaded_of_print rfl (by decide) (by decide) (by decide) (by decide)
  obtain ⟨u, givesB, showsB⟩ : ∃ u, loaded ⟨[]⟩ copied "b" false = .ok (some u) ∧
      (u.id, u.isDefault) = ("b", false) :=
    exists_loaded_of_print rfl (by decide) (by decide) (by decide) (by decide)
  have own : t.id = "b" := congrArg Prod.fst showsA
  have loads : loadedAll ⟨[]⟩ copied (some "a") ["a", "b"] = .ok [t, u] :=
    loadedAll_cons_of_loaded givesA (loadedAll_cons_of_loaded givesB rfl)
  have got : program.answer (get ⟨[]⟩ "a") { tree := copied } = .ok (some t) := by
    rw [answer_get named, decide_eq_true rfl]
    exact givesA
  refine ⟨t, [t, u], got, own, ?_, ?_, ?_, by simp only [List.map, showsA, showsB], fun all => ?_⟩
  · rw [answer_getDefault named, Option.elim_some, got]
  · rw [answer_defaultId, named]
  · exact (answer_list named stored).trans loads
  · exact absurd (own.symm.trans (all.get "a" t got)) (by decide)

end FileStore

end InvoiceForms
