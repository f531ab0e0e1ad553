import InvoiceForms.Proofs.Store.Distinct
import InvoiceForms.Proofs.Store.Faults
import InvoiceForms.Proofs.Template.Admission

/-!
# Which template is the default

The flag of a stored template says whether the pointer names it, however it is read: by its id, as the
default, or in a listing. What its document says of itself does not count, and since a listing shows
each document once, at most one template of it is flagged.
-/

namespace InvoiceForms

open InvoiceForms.Record InvoiceForms.Results
open Runner (program)

namespace FileStore

open StoreProgram

variable {s : FileStore} {w : World} {tree : FileTree} {pointer : Option String}
  {id : String} {flag : Bool} {t : Template} {ids : List String} {ts : List Template}

/-- Whether a fault says that a template is no use. -/
def OfConfiguration (e : StoreFault) : Prop := ∃ cause, e = .configuration cause

/-- The template that members describe is read from a document. -/
theorem exists_ofDocument_of_templateOf {members : Entries Json}
    (given : templateOf id flag members = .ok t) :
    ∃ document, Template.ofDocument document flag = .ok t := by
  unfold templateOf at given
  dsimp only at given
  split at given
  · next read =>
    cases given
    exact ⟨_, read⟩
  all_goals cases given

/-- A template that is loaded has the flag it is loaded with. -/
theorem isDefault_of_loaded (given : s.loaded tree id flag = .ok (some t)) :
    t.isDefault = flag := by
  obtain ⟨-, members, -, described⟩ := loaded_eq_some given
  obtain ⟨document, read⟩ := exists_ofDocument_of_templateOf described
  exact Template.isDefault_of_ofDocument read

/-- Looking for the pointer never finds that a template is no use. -/
theorem not_ofConfiguration_of_pointed {e : StoreFault} (failed : s.pointed tree = .error e) :
    ¬ OfConfiguration e := by
  rintro ⟨cause, rfl⟩
  have foreseen : Legible tree s.pointerPath := by
    rw [← failsOnly_pointed, failed, failsOnly_error]
    exact .configuration cause
  obtain ⟨r, reading⟩ := foreseen
  unfold pointed at failed
  rw [reading] at failed
  change pointerOf r = _ at failed
  unfold pointerOf at failed
  split at failed <;> cases failed

theorem not_ofConfiguration_of_documentIds {e : StoreFault}
    (failed : s.documentIds tree = .error e) : ¬ OfConfiguration e := by
  rintro ⟨cause, rfl⟩
  unfold documentIds at failed
  split at failed
  · cases listed : tree.list s.templatesPath with
    | ok names =>
      rw [listed] at failed
      cases failed
    | error e =>
      rw [listed] at failed
      cases failed
  · cases failed

/-- What ends a listing is no template that is no use. -/
theorem not_ofConfiguration_of_endsListing? {x : Except StoreFault (Option Template)} {e : StoreFault}
    (ends : endsListing? x = some e) : x = .error e ∧ ¬ OfConfiguration e := by
  unfold endsListing? at ends
  split at ends
  · cases ends
  · next other =>
    cases ends
    refine ⟨rfl, ?_⟩
    rintro ⟨cause, rfl⟩
    exact other cause rfl
  · cases ends

/-- Where a listing fails for no other reason than that templates are no use, so does each of its
documents, and the pointer and the ids can be read. -/
theorem each_of_failsOnly_list (only : FailsOnly OfConfiguration (program.answer s.list w)) :
    ∃ pointer ids, s.pointed w.tree = .ok pointer ∧ s.documentIds w.tree = .ok ids ∧
      ∀ id ∈ ids, FailsOnly OfConfiguration (program.answer (s.get id) w) := by
  obtain ⟨journal, ends⟩ := outcome_list s w
  rw [Runner.answer, ends] at only
  obtain ⟨named, rest⟩ := failsOnly_bind.mp only
  cases pointed : s.pointed w.tree with
  | error e => exact absurd (named e pointed) (not_ofConfiguration_of_pointed pointed)
  | ok pointer =>
    obtain ⟨stored, rest⟩ := failsOnly_bind.mp (rest pointer pointed)
    cases listed : s.documentIds w.tree with
    | error e => exact absurd (stored e listed) (not_ofConfiguration_of_documentIds listed)
    | ok ids =>
      refine ⟨pointer, ids, rfl, rfl, fun id inside e failed => ?_⟩
      rw [answer_get pointed] at failed
      -- The first document that ends the listing would give the fault of the whole.
      have all := rest ids listed
      unfold loadedAll at all
      dsimp only at all
      split at all
      · next e' first =>
        obtain ⟨x, -, last⟩ := List.exists_of_findSome?_eq_some first
        exact absurd ((failsOnly_error e').mp all) (not_ofConfiguration_of_endsListing? last).2
      · next none_ends =>
        have passed := List.findSome?_eq_none_iff.mp none_ends _ (List.mem_map_of_mem inside)
        rw [failed] at passed
        cases e with
        | configuration cause => exact ⟨cause, rfl⟩
        | _ => cases passed

/-- Of things that are shown for different ids, no two pass a test that only one id can pass. -/
theorem length_filter_filterMap_le_one {α : Type} {p : Option String} {shown : String → Option α}
    {test : α → Bool} (once : ids.Nodup)
    (passes : ∀ id a, shown id = some a → test a = true → p = some id) :
    ((ids.filterMap shown).filter test).length ≤ 1 := by
  induction ids with
  | nil => simp
  | cons id rest ih =>
    obtain ⟨fresh, once⟩ := List.nodup_cons.mp once
    rw [List.filterMap_cons]
    cases here : shown id with
    | none => exact ih once
    | some a =>
      dsimp only
      by_cases flagged : test a = true
      · -- All that pass the test belong to this id, which does not come again.
        have others : (rest.filterMap shown).filter test = [] := by
          rw [List.filter_eq_nil_iff]
          intro b member flagged'
          obtain ⟨other, inside, there⟩ := List.mem_filterMap.mp member
          have same : some id = some other :=
            (passes id a here flagged).symm.trans (passes other b there flagged')
          cases same
          exact fresh inside
        rw [List.filter_cons_of_pos flagged, others]
        simp
      · rw [List.filter_cons_of_neg flagged]
        exact ih once

/-- How the searches of a store agree on the default, for one file tree: the pointer, the ids of the
documents and the templates of a listing. -/
structure DefaultsAgree (s : FileStore) (w : World) (pointer : Option String) (ids : List String)
    (ts : List Template) : Prop where
  defaultId : program.answer s.defaultId w = .ok pointer
  list : program.answer s.list w = .ok ts
  /-- The ids are those of the files with the ending of documents, each once. -/
  stems : ∀ id, id ∈ ids ↔
    ∃ name, stem? name = some id ∧ w.tree.hasFile (s.templatesPath ++ [name]) = true
  once : ids.Nodup
  /-- Each is a template, or no use, or stands under a name that is no id. -/
  gets : ∀ id ∈ ids, FailsOnly OfConfiguration (program.answer (s.get id) w)
  /-- The listing shows what getting each of them gives. -/
  shown : ts = ids.filterMap fun id => listed? (program.answer (s.get id) w)
  /-- A template is flagged when the pointer names it, wherever it is read. -/
  flag : ∀ id t, program.answer (s.get id) w = .ok (some t) → (t.isDefault = true ↔ pointer = some id)
  /-- At most one that is listed is flagged: the one that the pointer names. -/
  one : (ts.filter (·.isDefault)).length ≤ 1
  flagged : ∀ t ∈ ts, t.isDefault = true →
    ∃ id, pointer = some id ∧ program.answer (s.get id) w = .ok (some t)
  getDefault : program.answer s.getDefault w =
    pointer.elim (.ok none) fun id => program.answer (s.get id) w

theorem isDefault_of_get (named : s.pointed w.tree = .ok pointer)
    (got : program.answer (s.get id) w = .ok (some t)) : t.isDefault = true ↔ pointer = some id := by
  rw [answer_get named] at got
  rw [isDefault_of_loaded got, decide_eq_true_iff]

/-- The default template is the one that the pointer names. -/
theorem answer_getDefault (named : s.pointed w.tree = .ok pointer) :
    program.answer s.getDefault w =
      pointer.elim (.ok none) fun id => program.answer (s.get id) w := by
  obtain ⟨journal, ends⟩ := outcome_getDefault s w
  rw [Runner.answer, ends, named]
  cases pointer with
  | none => rfl
  | some id =>
    show s.loaded w.tree id true = program.answer (s.get id) w
    rw [answer_get named]
    simp

theorem mem_documentIds_iff_stem (stored : s.documentIds w.tree = .ok ids) : id ∈ ids ↔
    ∃ name, stem? name = some id ∧ w.tree.hasFile (s.templatesPath ++ [name]) = true := by
  rw [mem_documentIds_iff stored]
  constructor
  · rintro ⟨nonempty, there⟩
    exact ⟨id ++ suffix, stem?_eq_some_iff.mpr ⟨nonempty, rfl⟩, there⟩
  · rintro ⟨name, stands, there⟩
    obtain ⟨nonempty, rfl⟩ := stem?_eq_some_iff.mp stands
    exact ⟨nonempty, there⟩

theorem eq_some_of_listed? {x : Except StoreFault (Option Template)} (shown : listed? x = some t) :
    x = .ok (some t) := by
  cases x with
  | ok found => exact congrArg Except.ok shown
  | error e => cases shown

/-- Whatever a tree holds, if its store is listed but for templates that are no use, then the four ways
to read the store agree on which template is the default, and at most one is. -/
theorem defaultsAgree (distinct : w.tree.Distinct)
    (only : FailsOnly OfConfiguration (program.answer s.list w)) :
    ∃ pointer ids ts, s.DefaultsAgree w pointer ids ts := by
  obtain ⟨pointer, ids, named, stored, each⟩ := each_of_failsOnly_list only
  have once := nodup_documentIds distinct stored
  refine ⟨pointer, ids, ids.filterMap fun id => listed? (program.answer (s.get id) w), ?_⟩
  exact {
    defaultId := (answer_defaultId s w).trans named
    list := list_of_each named stored each
    stems := fun _ => mem_documentIds_iff_stem stored
    once := once
    gets := each
    shown := rfl
    flag := fun _ _ => isDefault_of_get named
    one := by
      refine length_filter_filterMap_le_one (p := pointer) once fun id t shown flagged => ?_
      exact (isDefault_of_get named (eq_some_of_listed? shown)).mp flagged
    flagged := by
      intro t member flagged
      obtain ⟨id, -, shown⟩ := List.mem_filterMap.mp member
      have got := eq_some_of_listed? shown
      exact ⟨id, (isDefault_of_get named got).mp flagged, got⟩
    getDefault := answer_getDefault named }

/-- The file of a document with a flag of its own, under either name. -/
def flaggedFile (flagName id : String) : Node :=
  .file (Text.encode (Json.print .document (.object [
    (flagName, .bool true), ("id", .text id), ("name", .text id),
    ("companyInfo", .object [("name", .text "Meadow")])])))

/-- A tree whose documents both claim to be the default, with a pointer to the second one and a file
that is no template. -/
def contested : FileTree := ⟨[
  (["templates"], .directory),
  (["templates", "a.json"], flaggedFile "isDefault" "a"),
  (["templates", "b.json"], flaggedFile "is_default" "b"),
  (["templates", "c.json"], .file .empty),
  (["default.json"], .file (Text.encode (documentText (pointerDocument "b"))))]⟩

/-- Names that are listed in their order are not moved. -/
theorem documentIds_of_pairwise {names : List String} (there : tree.has s.templatesPath = true)
    (listed : tree.list s.templatesPath = .ok names) (ordered : names.Pairwise (· ≤ ·)) :
    s.documentIds tree =
      .ok ((names.filter fun name => tree.hasFile (s.templatesPath ++ [name])).filterMap stem?) := by
  have kept := ordered.filter fun name => tree.hasFile (s.templatesPath ++ [name])
  unfold documentIds
  rw [if_pos there, listed]
  show Except.ok (List.filterMap stem? (List.mergeSort _ _)) = _
  rw [List.mergeSort_of_pairwise (kept.imp fun le => decide_eq_true le)]

/-- Of two documents that claim to be the default, the one is that the pointer names. -/
theorem contested_defaultsAgree :
    contested.Distinct ∧ FailsOnly OfConfiguration (program.answer (list ⟨[]⟩) { tree := contested }) ∧
      ∃ pointer ids ts, (⟨[]⟩ : FileStore).DefaultsAgree { tree := contested } pointer ids ts ∧
        pointer = some "b" ∧
        ts.map (fun t => (t.id, t.isDefault)) = [("a", false), ("b", true)] := by
  have distinct : contested.Distinct := by decide
  have named : pointed ⟨[]⟩ contested = .ok (some "b") := pointed_of_pointerDocument rfl (by decide)
  have names : contested.list ["templates"] = .ok ["a.json", "b.json", "c.json"] := rfl
  have stored : documentIds ⟨[]⟩ contested = .ok ["a", "b", "c"] :=
    (documentIds_of_pairwise rfl names (by decide)).trans (by decide)
  obtain ⟨a, givesA, showsA⟩ : ∃ t, loaded ⟨[]⟩ contested "a" false = .ok (some t) ∧
      (t.id, t.isDefault) = ("a", false) :=
    exists_loaded_of_print rfl (by decide) (by decide) (by decide) (by decide)
  obtain ⟨b, givesB, showsB⟩ : ∃ t, loaded ⟨[]⟩ contested "b" true = .ok (some t) ∧
      (t.id, t.isDefault) = ("b", true) :=
    exists_loaded_of_print rfl (by decide) (by decide) (by decide) (by decide)
  have loads : loadedAll ⟨[]⟩ contested (some "b") ["a", "b", "c"] = .ok [a, b] :=
    loadedAll_cons_of_loaded givesA (loadedAll_cons_of_loaded givesB rfl)
  have listed : program.answer (list ⟨[]⟩) { tree := contested } = .ok [a, b] :=
    (answer_list named stored).trans loads
  have only : FailsOnly OfConfiguration (program.answer (list ⟨[]⟩) { tree := contested }) := by
    rw [listed]
    exact failsOnly_ok _
  obtain ⟨pointer, ids, ts, agree⟩ := defaultsAgree distinct only
  have pointer_eq : pointer = some "b" := by
    have given := agree.defaultId
    rw [answer_defaultId, named] at given
    exact (Except.ok.inj given).symm
  obtain rfl : [a, b] = ts := Except.ok.inj (listed.symm.trans agree.list)
  exact ⟨distinct, only, pointer, ids, _, agree, pointer_eq, by simp only [List.map, showsA, showsB]⟩

end FileStore

end InvoiceForms
