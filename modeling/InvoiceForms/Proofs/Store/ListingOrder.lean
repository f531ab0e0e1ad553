import Mathlib.Data.List.Infix
import Mathlib.Data.List.Pairwise
import Mathlib.Data.String.Basic
import InvoiceForms.Proofs.Store.Distinct
import InvoiceForms.Proofs.Store.OwnIds
import InvoiceForms.Proofs.Store.Refinement

/-!
# The order of listings

A store in memory lists its templates by their ids, one in a directory by the names of their files, and
these have an ending more than the ids. So an id that goes on from another one with a hyphen overtakes
it. `FileStore.lists_ascending_iff` says exactly when both stores list in the same order.
-/

namespace InvoiceForms

open InvoiceForms.Results InvoiceForms.Text
open Runner (program session)

universe u

namespace TemplateStore

variable {m : Type → Type u} [Monad m]

/-- Stores templates one after another. -/
def storeAll (store : TemplateStore m) : List Template → ExceptT StoreFault m Unit
  | [] => return ()
  | t :: rest => do
    let _ ← store.upsert t
    store.storeAll rest

/-- Stores templates and lists what is stored. -/
def listingOf (store : TemplateStore m) (ts : List Template) : ExceptT StoreFault m (List Template) := do
  store.storeAll ts
  store.list

end TemplateStore

/-- Whether a listing gives templates with all of some ids and no others, in ascending order of the ids. -/
def Ascends (ids : List String) (answer : Except StoreFault (List Template)) : Prop :=
  ∃ ts, answer = .ok ts ∧ (ts.map (·.id)).Perm ids ∧ (ts.map (·.id)).Pairwise (· < ·)

section Texts

variable {r e : List Char} {a b : String}

/-- An ending that is less than each of the ends of a text does not count in a comparison with the text.
The induction is on what is compared, and the text gets shorter along with it. -/
theorem append_lt_iff_of_tails {f : List Char} (less : ∀ g ∈ f.tails, g ≠ [] → e < g) :
    r ++ e < f ↔ r < f := by
  induction r generalizing f with
  | nil =>
    cases f with
    | nil => exact iff_of_false (List.not_lt_nil _) (List.not_lt_nil _)
    | cons c f =>
      exact iff_of_true (less _ ((List.mem_tails _ _).mpr (List.suffix_refl _)) nofun) (List.nil_lt_cons _ _)
  | cons c r ih =>
    cases f with
    | nil => exact iff_of_false (List.not_lt_nil _) (List.not_lt_nil _)
    | cons d f =>
      have shorter : ∀ g ∈ f.tails, g ≠ [] → e < g := fun g inside =>
        less g ((List.mem_tails _ _).mpr (((List.mem_tails _ _).mp inside).trans (List.suffix_cons _ _)))
      rw [List.cons_append, List.cons_lt_cons_iff, List.cons_lt_cons_iff, ih shorter]

/-- An ending turns the order of two texts when the greater one goes on from the other one with a text
that is less than the ending where the ending is put behind it. The induction is on the lesser text. -/
theorem append_lt_append_iff_of_lt {as bs : List Char} (below : as < bs) :
    bs ++ e < as ++ e ↔ ∃ r ≠ [], r ++ e < e ∧ bs = as ++ r := by
  induction as generalizing bs with
  | nil =>
    constructor
    · intro turned
      exact ⟨bs, fun empty => List.not_lt_nil _ (empty ▸ below), turned, rfl⟩
    · rintro ⟨r, -, turned, rfl⟩
      exact turned
  | cons c as ih =>
    cases bs with
    | nil => exact absurd below (List.not_lt_nil _)
    | cons d bs =>
      rw [List.cons_append, List.cons_append, List.cons_lt_cons_iff]
      rcases List.cons_lt_cons_iff.mp below with first | ⟨rfl, rest⟩
      · refine iff_of_false ?_ ?_
        · rintro (back | ⟨same, -⟩)
          · exact lt_asymm first back
          · exact first.ne' same
        · rintro ⟨r, -, -, same⟩
          exact first.ne' (List.cons.inj same).1
      · have here : ¬ c < c := lt_irrefl c
        simp only [here, false_or, true_and, List.cons_append, List.cons.injEq]
        exact ih rest

end Texts

namespace FileStore

variable {a b : String} {ids : List String}

/-- Whether an id goes on from another one with a text before the ending of documents. The file of the
longer id then comes first. -/
def Overtakes (b a : String) : Prop := ∃ r, r ≠ "" ∧ r < suffix ∧ b = a ++ r

/-- The names of files turn the order of two ids exactly when the greater one overtakes the other. -/
theorem suffixed_lt_iff (below : a < b) : b ++ suffix < a ++ suffix ↔ Overtakes b a := by
  have ends : ∀ g ∈ "json".toList.tails, g ≠ [] → suffix.toList < g := by decide
  have counts {r : List Char} (some : r ≠ []) :
      r ++ suffix.toList < suffix.toList ↔ r < suffix.toList := by
    obtain ⟨c, r, rfl⟩ := List.exists_cons_of_ne_nil some
    have dotted : suffix.toList = '.' :: "json".toList := rfl
    rw [List.cons_append]
    nth_rewrite 2 [dotted]
    rw [List.cons_lt_cons_iff, append_lt_iff_of_tails ends, ← List.cons_lt_cons_iff, ← dotted]
  rw [String.lt_iff_toList_lt, String.toList_append, String.toList_append,
    append_lt_append_iff_of_lt (String.lt_iff_toList_lt.mp below)]
  constructor
  · rintro ⟨r, some, turned, same⟩
    refine ⟨String.ofList r, ?_, ?_, ?_⟩
    · exact fun empty => some (by simpa using congrArg String.toList empty)
    · rw [String.lt_iff_toList_lt, String.toList_ofList]
      exact (counts some).mp turned
    · exact String.toList_inj.mp (by rw [same, String.toList_append, String.toList_ofList])
  · rintro ⟨r, some, before, rfl⟩
    have some : r.toList ≠ [] := by simpa using some
    exact ⟨r.toList, some, (counts some).mpr (String.lt_iff_toList_lt.mp before), String.toList_append⟩

theorem lt_of_overtakes (overtakes : Overtakes b a) : a < b := by
  obtain ⟨r, some, -, rfl⟩ := overtakes
  obtain ⟨c, rest, longer⟩ := List.exists_cons_of_ne_nil (l := r.toList) (by simpa using some)
  have more : a.toList ++ [] < a.toList ++ c :: rest := List.append_left_lt (List.nil_lt_cons c rest)
  rw [String.lt_iff_toList_lt, String.toList_append, longer]
  rwa [List.append_nil] at more

instance (b a : String) : Decidable (Overtakes b a) :=
  decidable_of_iff (a < b ∧ b ++ suffix < a ++ suffix)
    ⟨fun h => (suffixed_lt_iff h.1).mp h.2, fun overtakes =>
      ⟨lt_of_overtakes overtakes, (suffixed_lt_iff (lt_of_overtakes overtakes)).mpr overtakes⟩⟩

/-- Ids that stand in the order of their files ascend exactly when none of them overtakes another one. -/
theorem pairwise_lt_iff (distinct : ids.Nodup)
    (files : ids.Pairwise fun a b => a ++ suffix ≤ b ++ suffix) :
    ids.Pairwise (· < ·) ↔ ∀ a ∈ ids, ∀ b ∈ ids, ¬ Overtakes b a := by
  constructor
  · intro ascends
    have apart : ids.Pairwise fun a b => ¬ Overtakes b a ∧ ¬ Overtakes a b := by
      refine (ascends.and files).imp ?_
      rintro a b ⟨below, before⟩
      refine ⟨fun overtakes => ?_, fun overtakes => String.lt_asymm below (lt_of_overtakes overtakes)⟩
      exact String.not_le.mpr ((suffixed_lt_iff below).mpr overtakes) before
    have symmetric : Std.Symm fun a b => ¬ Overtakes b a ∧ ¬ Overtakes a b := ⟨fun _ _ h => h.symm⟩
    have self (a : String) : ¬ Overtakes a a := fun itself => String.lt_irrefl a (lt_of_overtakes itself)
    exact fun a here b there => (apart.forall_of_forall (fun c _ => ⟨self c, self c⟩) here there).1
  · intro none
    refine List.Pairwise.imp_of_mem ?_ (files.and distinct)
    rintro a b here there ⟨before, other⟩
    by_contra above
    have below : b < a := lt_of_le_of_ne (String.not_lt.mp above) other.symm
    refine none b there a here ((suffixed_lt_iff below).mp (lt_of_le_of_ne before ?_))
    exact fun same => other ((String.append_left_inj suffix).mp same)

/-- What the document of a template is read back as. -/
def readBack (t : Template) : Except StoreFault (Option Template) :=
  if TemplateId.isValid t.id then
    (readingOf (encode (documentText t.toDocument))).bind (templateIn t.id false)
  else .ok none

/-- Whether the document of a template is read back as a template. -/
def Restores (t : Template) : Prop := ∃ u, readBack t = .ok (some u)

end FileStore

namespace Template

variable {t u : Template}

/-- The sorted document of a template names the template. -/
theorem exists_members_toDocument (t : Template) : ∃ members,
    t.toDocument.sortMembers = .object members ∧ FileStore.ownId? members = some (trimWhiteSpace t.id) := by
  obtain ⟨written, document, keys, named⟩ : ∃ written : Entries Json, t.toDocument = .object written ∧
      Entries.keys written = ["id", "name", "companyInfo", "layout", "sections"] ∧
      Entries.get? "id" written = some (.text t.id) := ⟨_, rfl, rfl, rfl⟩
  have distinct : (Entries.keys written).Nodup := by
    rw [keys]
    decide
  rw [document, ← Json.arrange_sorted, Json.arrange_object]
  refine ⟨_, rfl, ?_⟩
  unfold FileStore.ownId?
  rw [Entries.ofList_of_nodup, Arrangement.get?_of, Entries.get?_mapValues, named]
  · rfl
  · simpa using distinct
  · simpa using distinct

end Template

namespace FileStore

open StoreProgram

variable {s : FileStore} {w : World} {tree : FileTree} {t u : Template} {ts us before : List Template}

/-- What is read back has the id of what was written. -/
theorem id_of_readBack (keys : t.toDocument.hasDistinctKeys = true)
    (few : t.toDocument.hasReadableIntegers = true) (given : readBack t = .ok (some u)) : u.id = t.id := by
  obtain ⟨members, document, own⟩ := t.exists_members_toDocument
  unfold readBack at given
  split at given
  · next valid =>
    rw [readingOf_documentText keys few, document] at given
    obtain ⟨v, described, same⟩ := map_eq_ok.mp given
    cases same
    rw [id_of_templateOf valid described, own]
    exact TemplateId.trimWhiteSpace_of_isValid valid
  · cases given

theorem ne_empty_of_restores (restores : Restores t) : t.id ≠ "" := by
  obtain ⟨u, back⟩ := restores
  unfold readBack at back
  split at back
  · next valid => exact fun empty => TemplateId.ne_empty_of_isValid valid (congrArg String.toList empty)
  · cases back

/-- The template of data is read back. -/
theorem restores_of_readFrom {payload : Entries Json} (given : t.ReadFrom payload)
    (few : t.toDocument.hasReadableIntegers = true) : Restores t := by
  have accepted : t.Accepted .sorted Json.distinctHere := given.accepted
  obtain ⟨members, document, -⟩ := t.exists_members_toDocument
  refine ⟨t.sorted false, ?_⟩
  unfold readBack
  rw [if_pos accepted.isValid_id, readingOf_documentText accepted.hasDistinctKeys few, document]
  show (templateOf t.id false members).map some = _
  rw [accepted.templateOf document]
  rfl

/-- A tree in which a store holds the documents of templates and nothing else, without a pointer. -/
structure Stocked (s : FileStore) (ts : List Template) (tree : FileTree) : Prop where
  present : ∀ id, s.Present tree id → ∃ t ∈ ts, t.id = id
  holds : ∀ t ∈ ts, s.Holds t tree
  fits : ∀ t ∈ ts, FileTree.Fits s.templatesPath (t.id ++ suffix)
  readable : ∀ t ∈ ts, t.toDocument.hasReadableIntegers = true
  pointer : tree.node? s.pointerPath = none
  distinct : tree.Distinct

theorem Vacant.stocked (vacant : s.Vacant tree) (distinct : tree.Distinct) : s.Stocked [] tree where
  present id there := by
    rw [Present, vacant.document] at there
    cases there
  holds := List.forall_mem_nil _
  fits := List.forall_mem_nil _
  readable := List.forall_mem_nil _
  pointer := vacant.pointer
  distinct := distinct

/-- A template that is stored under a new id is held with those before. -/
theorem Stocked.upsert (stocked : s.Stocked ts w.tree) (named : w.Names IsTemporary)
    (fresh : ∀ u ∈ ts, u.id ≠ t.id) (stored : program.answer (s.upsert t) w = .ok u) :
    s.Stocked (ts ++ [t]) (program.after (s.upsert t) w).tree := by
  rcases written : program.outcome (s.locked (templateLock t.id) (s.writeTemplate t)) w with
    ⟨e | _, w₁⟩
  · rw [Runner.answer, FileStore.upsert, outcome_bind_of_error written] at stored
    cases stored
  · obtain ⟨-, few⟩ := writable_of_answer (answer_of_locked (congrArg Prod.fst written))
    obtain ⟨holds, fits, frame⟩ := of_written named written
    obtain ⟨journal, ended⟩ := outcome_upsert_of_written written
    have tree : (program.after (s.upsert t) w).tree = w₁.tree := by rw [Runner.after, ended]
    have others {id : String} (other : id ≠ t.id) :
        w₁.tree.node? (s.templatePath id) = w.tree.node? (s.templatePath id) :=
      frame _ (.document id) fun same => other (templatePath_injective same)
    have reached (p : Path) (before : w.tree.Reached p) : w₁.tree.Reached p :=
      tree ▸ (Program.reached_run before : (program.after (s.upsert t) w).tree.Reached p)
    have each {p : Template → Prop} (old : ∀ u ∈ ts, p u) (new : p t) : ∀ u ∈ ts ++ [t], p u :=
      List.forall_mem_append.mpr ⟨old, List.forall_mem_singleton.mpr new⟩
    rw [tree]
    refine ⟨fun id there => ?_, each (fun u inside => ?_) holds, each stocked.fits fits,
      each stocked.readable few, ?_, ?_⟩
    · by_cases same : id = t.id
      · exact ⟨t, List.mem_append_right _ (List.mem_singleton_self t), same.symm⟩
      · obtain ⟨u, inside, its⟩ := stocked.present id (there.congr (others same).symm)
        exact ⟨u, List.mem_append_left _ inside, its⟩
    · exact (stocked.holds u inside).congr (others (fresh u inside)) (reached _)
    · exact (frame _ .pointer pointerPath_ne_templatePath).trans stocked.pointer
    · exact tree ▸ Program.distinct_run _ stocked.distinct

/-- Templates that are stored one after another are all held. The induction is on the templates, and
those before count along. -/
theorem Stocked.storeAll (stocked : s.Stocked before w.tree) (named : w.Names IsTemporary)
    (ids : ((before ++ ts).map (·.id)).Nodup)
    (stored : program.answer (s.operations.storeAll ts) w = .ok ()) :
    s.Stocked (before ++ ts) (program.after (s.operations.storeAll ts) w).tree := by
  induction ts generalizing before w with
  | nil => rwa [List.append_nil]
  | cons t rest ih =>
    have fresh : ∀ u ∈ before, u.id ≠ t.id := fun u inside same => by
      rw [List.map_append] at ids
      exact List.disjoint_of_nodup_append ids (List.mem_map_of_mem inside) (same ▸ List.mem_cons_self)
    unfold TemplateStore.storeAll at stored ⊢
    obtain ⟨u, first, later⟩ := Runner.answer_bind_eq_ok.mp stored
    have next : s.Stocked (before ++ [t]) (program.after (s.upsert t) w).tree :=
      stocked.upsert named fresh first
    rw [Runner.after_bind_of_ok first, List.append_cons]
    exact ih next (names_after named) (List.append_cons .. ▸ ids) later

/-- A document that is held is found. -/
theorem Stocked.find_eq (stocked : s.Stocked ts tree) (inside : t ∈ ts) :
    tree.find (s.templatePath t.id) = .ok (.file (encode (documentText t.toDocument))) := by
  have holds := stocked.holds t inside
  rw [templatePath, (stocked.fits t inside).find_eq holds.reachedTemplates, ← templatePath, holds.document]

/-- It is loaded as it is read back. -/
theorem Stocked.loaded_eq (stocked : s.Stocked ts tree) (inside : t ∈ ts) :
    s.loaded tree t.id false = readBack t := by
  unfold loaded readBack readingAt
  rw [FileTree.read_eq_ok_iff.mpr (stocked.find_eq inside)]

/-- The ids that are listed stand in the order of their files. -/
theorem pairwise_documentIds {ids : List String} (listed : s.documentIds tree = .ok ids) :
    ids.Pairwise fun a b => a ++ suffix ≤ b ++ suffix := by
  unfold documentIds at listed
  split at listed
  · obtain ⟨names, -, rfl⟩ := map_eq_ok.mp listed
    have ordered (files : List String) :
        (files.mergeSort fun a b => decide (a ≤ b)).Pairwise fun a b => decide (a ≤ b) = true :=
      List.pairwise_mergeSort (by simpa using fun a b c : String => String.le_trans)
        (by simpa using String.le_total) files
    refine (ordered _).filterMap _ fun name name' before id stands id' stands' => ?_
    rw [← (stem?_eq_some_iff.mp stands).2, ← (stem?_eq_some_iff.mp stands').2]
    exact decide_eq_true_iff.mp before
  · cases listed
    exact .nil

/-- They are those of the templates that are held. -/
theorem Stocked.mem_documentIds_iff {ids : List String} {id : String} (stocked : s.Stocked ts tree)
    (listed : s.documentIds tree = .ok ids) : id ∈ ids ↔ id ≠ "" ∧ ∃ t ∈ ts, t.id = id := by
  rw [FileStore.mem_documentIds_iff listed, FileTree.hasFile_iff]
  refine and_congr_right fun _ => ⟨?_, ?_⟩
  · rintro ⟨content, found⟩
    refine stocked.present id ?_
    rw [Present, FileTree.node?_of_find found]
    rfl
  · rintro ⟨t, inside, rfl⟩
    exact ⟨_, stocked.find_eq inside⟩

/-- Where something is loaded under each id, a listing gives all of it in the order of the ids. -/
theorem exists_loadedAll {ids : List String}
    (loads : ∀ id ∈ ids, ∃ u, s.loaded tree id false = .ok (some u) ∧ u.id = id) :
    ∃ us, s.loadedAll tree none ids = .ok us ∧ us.map (·.id) = ids := by
  induction ids with
  | nil => exact ⟨[], rfl, rfl⟩
  | cons id rest ih =>
    obtain ⟨⟨u, first, same⟩, rest⟩ := List.forall_mem_cons.mp loads
    obtain ⟨us, all, names⟩ := ih rest
    refine ⟨u :: us, ?_, ?_⟩
    · rw [loadedAll_cons, decide_eq_false nofun, first, all]
      rfl
    · rw [List.map_cons, same, names]

/-- What a listing gives is loaded under one of the ids. -/
theorem exists_loaded_of_mem {ids : List String} (listed : s.loadedAll tree none ids = .ok us)
    (inside : u ∈ us) : ∃ id ∈ ids, s.loaded tree id false = .ok (some u) := by
  unfold loadedAll at listed
  dsimp only at listed
  split at listed
  · cases listed
  · cases listed
    obtain ⟨r, among, shows⟩ := List.mem_filterMap.mp inside
    obtain ⟨id, named, rfl⟩ := List.mem_map.mp among
    refine ⟨id, named, ?_⟩
    rw [decide_eq_false nofun] at shows
    unfold listed? at shows
    split at shows
    · next given => rw [given, shows]
    · cases shows

/-- A listing without a pointer loads what stands under the ids. -/
theorem answer_list_of_pointed {ids : List String} (pointed : s.pointed w.tree = .ok none)
    (listed : s.documentIds w.tree = .ok ids) :
    program.answer s.list w = s.loadedAll w.tree none ids := by
  obtain ⟨journal, ended⟩ := outcome_list s w
  rw [Runner.answer, ended, pointed]
  show (s.documentIds w.tree).bind _ = _
  rw [listed]
  rfl

/-- Once a document is held, a listing does not fail on the way to the documents; an empty store has to be
one that can be looked at. -/
theorem Stocked.exists_documentIds (stocked : s.Stocked ts w.tree) (calm : ts = [] → Calm s.list w) :
    ∃ ids, s.documentIds w.tree = .ok ids ∧ program.answer s.list w = s.loadedAll w.tree none ids := by
  cases ts with
  | nil =>
    obtain ⟨looks, rest⟩ := (calm rfl).of_bind
    have pointed : s.pointed w.tree = .ok none := by
      rw [pointed, pointerPath, readingAt_of_none (calm_perform.mp looks.of_bind.1.of_bind.1) stocked.pointer]
      rfl
    obtain ⟨journal, looked⟩ := outcome_defaultId s w
    change _ = (s.pointed w.tree, { w with journal := journal }) at looked
    rw [pointed] at looked
    obtain ⟨ids, listed⟩ := documentIds_of_calm (rest looked).of_bind.1
    exact ⟨ids, listed, answer_list_of_pointed pointed listed⟩
  | cons t ts =>
    have inside : t ∈ t :: ts := List.mem_cons_self
    have found : w.tree.find s.templatesPath = .ok .directory :=
      FileTree.find_of_find_concat (stocked.find_eq inside)
    have root : w.tree.Reached s.root := (stocked.holds t inside).reachedTemplates.of_append
    have pointed : s.pointed w.tree = .ok none := by
      rw [pointed, readingAt, pointerPath, (fits_pointer (stocked.fits t inside)).read_eq root,
        ← pointerPath, stocked.pointer]
      rfl
    obtain ⟨ids, listed⟩ : ∃ ids, s.documentIds w.tree = .ok ids := by
      unfold documentIds FileTree.has FileTree.list
      rw [found]
      exact ⟨_, rfl⟩
    exact ⟨ids, listed, answer_list_of_pointed pointed listed⟩

/-- Documents are listed in ascending order exactly when each one is read back and none of the ids
overtakes another one. -/
theorem Stocked.list_ascends_iff (stocked : s.Stocked ts w.tree)
    (keys : ∀ t ∈ ts, t.toDocument.hasDistinctKeys = true) (distinct : (ts.map (·.id)).Nodup)
    (calm : ts = [] → Calm s.list w) : Ascends (ts.map (·.id)) (program.answer s.list w) ↔
      (∀ t ∈ ts, Restores t) ∧ ∀ t ∈ ts, ∀ u ∈ ts, ¬ Overtakes u.id t.id := by
  obtain ⟨ids, listed, answers⟩ := stocked.exists_documentIds calm
  have once : ids.Nodup := nodup_documentIds stocked.distinct listed
  have own {t u : Template} (inside : t ∈ ts) (back : readBack t = .ok (some u)) : u.id = t.id :=
    id_of_readBack (keys t inside) (stocked.readable t inside) back
  -- Where all of them are read back, the ids that are listed are those of the templates.
  have all (restores : ∀ t ∈ ts, Restores t) : ids.Perm (ts.map (·.id)) ∧
      ∃ us, program.answer s.list w = .ok us ∧ us.map (·.id) = ids := by
    have member (id : String) : id ∈ ids ↔ ∃ t ∈ ts, t.id = id := by
      rw [stocked.mem_documentIds_iff listed]
      refine and_iff_right_of_imp ?_
      rintro ⟨t, inside, rfl⟩
      exact ne_empty_of_restores (restores t inside)
    refine ⟨(List.perm_ext_iff_of_nodup once distinct).mpr fun id =>
      (member id).trans List.mem_map.symm, ?_⟩
    rw [answers]
    refine exists_loadedAll fun id here => ?_
    obtain ⟨t, inside, rfl⟩ := (member id).mp here
    obtain ⟨u, back⟩ := restores t inside
    exact ⟨u, (stocked.loaded_eq inside).trans back, own inside back⟩
  have files := pairwise_lt_iff once (pairwise_documentIds listed)
  constructor
  · rintro ⟨us, given, same, ascends⟩
    have restores : ∀ t ∈ ts, Restores t := fun t inside => by
      obtain ⟨u, shown, its⟩ := List.mem_map.mp (same.mem_iff.mpr (List.mem_map_of_mem inside))
      obtain ⟨id, here, loaded⟩ := exists_loaded_of_mem (answers.symm.trans given) shown
      obtain ⟨-, t', inside', rfl⟩ := (stocked.mem_documentIds_iff listed).mp here
      rw [stocked.loaded_eq inside'] at loaded
      obtain rfl : t' = t :=
        List.inj_on_of_nodup_map distinct inside' inside ((own inside' loaded).symm.trans its)
      exact ⟨u, loaded⟩
    obtain ⟨perm, us', given', names⟩ := all restores
    obtain rfl : us = us' := Except.ok.inj (given.symm.trans given')
    have apart := files.mp (names ▸ ascends)
    refine ⟨restores, fun t inside u inside' => apart _ ?_ _ ?_⟩
    · exact perm.mem_iff.mpr (List.mem_map_of_mem inside)
    · exact perm.mem_iff.mpr (List.mem_map_of_mem inside')
  · rintro ⟨restores, apart⟩
    obtain ⟨perm, us, given, rfl⟩ := all restores
    refine ⟨us, given, perm, files.mpr fun a here b there => ?_⟩
    obtain ⟨t, inside, rfl⟩ := List.mem_map.mp (perm.mem_iff.mp here)
    obtain ⟨u, inside', rfl⟩ := List.mem_map.mp (perm.mem_iff.mp there)
    exact apart t inside u inside'

/-- The same for templates that are stored in an empty directory one after another. -/
theorem listingOf_ascends_iff (empty : s.Vacant w.tree) (single : w.tree.Distinct) (calm : Calm s.list w)
    (named : w.Names IsTemporary) (distinct : (ts.map (·.id)).Nodup)
    (keys : ∀ t ∈ ts, t.toDocument.hasDistinctKeys = true)
    (stored : program.answer (s.operations.storeAll ts) w = .ok ()) :
    Ascends (ts.map (·.id)) (program.answer (s.operations.listingOf ts) w) ↔
      (∀ t ∈ ts, Restores t) ∧ ∀ t ∈ ts, ∀ u ∈ ts, ¬ Overtakes u.id t.id := by
  have stocked : s.Stocked ts (program.after (s.operations.storeAll ts) w).tree :=
    (empty.stocked single).storeAll named distinct stored
  rw [TemplateStore.listingOf, Runner.answer_bind_of_ok stored]
  refine stocked.list_ascends_iff keys distinct ?_
  rintro rfl
  exact calm

end FileStore

namespace MemoryStore

variable {m : MemoryStore} {journal : List JournalEntry} {ts : List Template}

/-- Storing templates in memory always goes well. -/
theorem outcome_storeAll (m : MemoryStore) (journal : List JournalEntry) (ts : List Template) :
    session.outcome (operations.storeAll ts) (m, journal) = (.ok (), ts.foldl upsert m, journal) := by
  induction ts generalizing m with
  | nil => rfl
  | cons t rest ih =>
    have stores : session.outcome (operations.upsert t) (m, journal) =
      (.ok (m.materialize t), m.upsert t, journal) := rfl
    unfold TemplateStore.storeAll
    rw [Runner.outcome_bind, stores]
    exact ih (m.upsert t)

/-- The templates in memory are set one after another, without their flags. -/
theorem templates_foldl_upsert (m : MemoryStore) (ts : List Template) :
    (ts.foldl upsert m).templates =
      Entries.setAll m.templates (ts.map fun t => (t.id, { t with isDefault := false })) := by
  induction ts generalizing m with
  | nil => rfl
  | cons t rest ih => exact ih (m.upsert t)

/-- A store in memory that holds templates under their ids lists them in ascending order. -/
theorem ascends_list (named : ∀ e ∈ m.templates, e.2.id = e.1)
    (distinct : (Entries.keys m.templates).Nodup) : Ascends (Entries.keys m.templates) (.ok m.list) := by
  have ids : m.list.map (·.id) = Entries.keys (Json.sortEntries m.templates) := by
    rw [list, List.map_map]
    exact List.map_congr_left fun e inside => named e ((Arrangement.mem_of .sorted).mp inside)
  have perm : (Entries.keys (Json.sortEntries m.templates)).Perm (Entries.keys m.templates) :=
    Arrangement.sorted.keys_of_perm _
  have ordered : (Entries.keys (Json.sortEntries m.templates)).Pairwise (· ≤ ·) :=
    List.pairwise_map.mpr (Arrangement.pairwise_sortEntries _)
  refine ⟨m.list, rfl, ids ▸ perm, ?_⟩
  rw [ids]
  exact (ordered.and (perm.nodup_iff.mpr distinct)).imp fun h => lt_of_le_of_ne h.1 h.2

/-- What was stored in memory is listed in ascending order. -/
theorem ascends_listingOf (distinct : (ts.map (·.id)).Nodup) :
    Ascends (ts.map (·.id)) (session.answer (operations.listingOf ts) ({}, journal)) := by
  have stored := outcome_storeAll {} journal ts
  have keys : Entries.keys (ts.map fun t => (t.id, { t with isDefault := false })) = ts.map (·.id) := by
    rw [Entries.keys, List.map_map]
    rfl
  have templates : (ts.foldl upsert {}).templates =
      ts.map fun t => (t.id, { t with isDefault := false }) := by
    rw [templates_foldl_upsert]
    exact Entries.setAll_of_nodup (m := []) (by rwa [List.nil_append, keys])
  have lists := ascends_list (m := ts.foldl upsert {}) (by rw [templates]; simp) (by rwa [templates, keys])
  rw [templates, keys] at lists
  rw [TemplateStore.listingOf, Runner.answer_bind_of_ok (congrArg Prod.fst stored), Runner.after, stored]
  exact lists

end MemoryStore

namespace FileStore

open StoreProgram

variable {s : FileStore} {w : World} {ts us : List Template}

/-- A store in memory lists any templates with distinct ids in ascending order of the ids, in whichever
order they were stored. A store in a directory does so exactly when each of their documents is read back
and no id overtakes another one. -/
theorem lists_ascending_iff (empty : s.Vacant w.tree) (single : w.tree.Distinct) (calm : Calm s.list w)
    (named : w.Names IsTemporary) (distinct : (ts.map (·.id)).Nodup)
    (keys : ∀ t ∈ ts, t.toDocument.hasDistinctKeys = true) (same : us.Perm ts)
    (stored : program.answer (s.operations.storeAll ts) w = .ok ()) :
    Ascends (ts.map (·.id)) (session.answer (MemoryStore.operations.listingOf us) ({}, [])) ∧
      (Ascends (ts.map (·.id)) (program.answer (s.operations.listingOf ts) w) ↔
        (∀ t ∈ ts, Restores t) ∧ ∀ t ∈ ts, ∀ u ∈ ts, ¬ Overtakes u.id t.id) := by
  have ids : (us.map (·.id)).Perm (ts.map (·.id)) := same.map _
  constructor
  · obtain ⟨listed, given, perm, ascends⟩ := MemoryStore.ascends_listingOf (ids.nodup_iff.mpr distinct)
    exact ⟨listed, given, perm.trans ids, ascends⟩
  · exact listingOf_ascends_iff empty single calm named distinct keys stored

/-- Data of a template with an id. -/
def payloadNamed (id : String) : Entries Json :=
  [("id", .text id), ("name", .text "Plain"), ("companyInfo", .object [("name", .text "Meadow")])]

/-- The template of this data. -/
def templateNamed (id : String) : Template :=
  { id := id, name := "Plain", company := { name := "Meadow" } }

theorem restores_templateNamed {id : String} (read : (Template.schema.validate
      (Value.ofJson (.object (payloadNamed id)))).toOption = some (templateNamed id))
    (few : (templateNamed id).toDocument.hasReadableIntegers = true) : Restores (templateNamed id) :=
  restores_of_readFrom ⟨rfl, rfl, List.forall_mem_nil _, toOption_eq_some.mp read⟩ few

/-- Two templates, the second of which goes on from the first with a dot and a letter behind that of the
ending of documents. -/
def dotted : List Template := [templateNamed "a", templateNamed "a.z"]

/-- Two templates, the second of which goes on from the first with a hyphen. -/
def hyphened : List Template := [templateNamed "a", templateNamed "a-b"]

/-- Both stores list the dotted id behind the plain one, in whichever order they were stored. -/
theorem dotted_lists_ascending :
    Ascends ["a", "a.z"] (session.answer (MemoryStore.operations.listingOf dotted.reverse) ({}, [])) ∧
      Ascends ["a", "a.z"] (program.answer ((operations ⟨["store"]⟩).listingOf dotted) {}) := by
  have restores : ∀ t ∈ dotted, Restores t := by
    unfold dotted
    rw [List.forall_mem_cons, List.forall_mem_singleton]
    exact ⟨restores_templateNamed (by decide) (by decide),
      restores_templateNamed (by decide) (by decide)⟩
  have named : World.Names IsTemporary {} := named_usual
  have stored : program.answer ((operations ⟨["store"]⟩).storeAll dotted) {} = .ok () := by
    decide
  obtain ⟨memory, files⟩ := lists_ascending_iff (vacant_nil _) FileTree.distinct_empty (by decide)
    named (by decide) (by decide) dotted.reverse_perm stored
  exact ⟨memory, files.mpr ⟨restores, by decide⟩⟩

/-- An id that goes on from another one with a hyphen is listed before it in a directory, though both of
their documents are read back. -/
theorem hyphened_not_ascending :
    (∀ t ∈ hyphened, Restores t) ∧
      program.answer ((operations ⟨["store"]⟩).storeAll hyphened) {} = .ok () ∧
        ¬ Ascends ["a", "a-b"] (program.answer ((operations ⟨["store"]⟩).listingOf hyphened) {}) := by
  have stored : program.answer ((operations ⟨["store"]⟩).storeAll hyphened) {} = .ok () := by
    decide
  have named : World.Names IsTemporary {} := named_usual
  refine ⟨?_, stored, fun ascends => ?_⟩
  · unfold hyphened
    rw [List.forall_mem_cons, List.forall_mem_singleton]
    exact ⟨restores_templateNamed (by decide) (by decide),
      restores_templateNamed (by decide) (by decide)⟩
  · obtain ⟨-, apart⟩ := (listingOf_ascends_iff (vacant_nil _) FileTree.distinct_empty
      (by decide) named (by decide) (by decide) stored).mp ascends
    exact apart (templateNamed "a") List.mem_cons_self (templateNamed "a-b")
      (List.mem_cons_of_mem _ List.mem_cons_self) (by decide)

end FileStore

end InvoiceForms
