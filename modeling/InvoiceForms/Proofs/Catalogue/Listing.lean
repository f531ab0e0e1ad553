import Mathlib.Data.List.Induction
import Mathlib.Data.List.Nodup
import Mathlib.Data.List.Perm.Basic
import Mathlib.Data.Prod.Basic
import InvoiceForms.Catalogue.Standard
import InvoiceForms.Proofs.Json.Entries

/-!
# What the listing of a catalogue shows

A catalogue holds the last description of every slot: of every path, and of every path in a list. Its listing
groups descriptions by category, but under products it shows the fields of one list only, whatever category
they have, and nothing else. `Catalogue.lines_of_registered` says exactly what a listing shows; the listing
of the standard catalogue, whatever is added to it, is never complete.
-/

namespace InvoiceForms

namespace VariableInfo

/-- Where a description has its place: the list it belongs to, if it does, and its path. -/
def slot (v : VariableInfo) : Option String × String := (v.listPath?, v.path)

end VariableInfo

/-- One line of a listing: the category it stands under, and the path and the label it shows. -/
structure ListingLine where
  category : Option String
  path : Option String
  label : Option String
deriving DecidableEq, Repr

namespace ListingLine

/-- The text of a member. -/
def textAt? (key : String) : Json → Option String
  | .object members =>
    match Entries.get? key members with
    | some (.text s) => some s
    | _ => none
  | _ => none

/-- The items of a member. -/
def itemsAt (key : String) : Json → List Json
  | .object members =>
    match Entries.get? key members with
    | some (.list items) => items
    | _ => []
  | _ => []

/-- The lines of a listing, read from the document. -/
def ofListing (listing : Json) : List ListingLine :=
  (itemsAt "categories" listing).flatMap fun group =>
    (itemsAt "variables" group).map fun entry =>
      ⟨textAt? "name" group, textAt? "path" entry, textAt? "label" entry⟩

/-- The line of a description under a category. -/
def under (category : Category) (v : VariableInfo) : ListingLine :=
  ⟨some category.name, some v.path, some v.label⟩

end ListingLine

/-- The line of a description under its own category. -/
def VariableInfo.line (v : VariableInfo) : ListingLine := .under v.category v

namespace Catalogue

/-- All descriptions that a catalogue holds, with the fields of all lists. -/
def held (c : Catalogue) : List VariableInfo :=
  c.entries.values ++ c.itemFields.flatMap fun l => l.2.values

/-- The description in a slot. -/
def at? (c : Catalogue) : Option String × String → Option VariableInfo
  | (none, path) => c.entries.get? path
  | (some listPath, path) => ((c.itemFields.get? listPath).getD []).get? path

/-- Whether each description stands in its slot, and in each slot one. -/
structure Keyed (c : Catalogue) : Prop where
  entries : ∀ e ∈ c.entries, e.2.slot = (none, e.1)
  distinct : (Entries.keys c.entries).Nodup
  fields : ∀ l ∈ c.itemFields, ∀ e ∈ l.2, e.2.slot = (some l.1, e.1)
  distinctLists : (Entries.keys c.itemFields).Nodup
  distinctFields : ∀ l ∈ c.itemFields, (Entries.keys l.2).Nodup

/-- Whether a listing shows a description under its category: for products the fields of the product list,
for other categories the variables of the invoice as a whole. -/
def Placed (v : VariableInfo) : Prop :=
  if v.category = .product then v.listPath? = some productList else v.listPath? = none

/-- Whether a listing shows a description under products, though it has another category. -/
def Misplaced (v : VariableInfo) : Prop := v.listPath? = some productList ∧ v.category ≠ .product

instance (v : VariableInfo) : Decidable (Placed v) := by
  unfold Placed
  infer_instance

instance (v : VariableInfo) : Decidable (Misplaced v) := by
  unfold Misplaced
  infer_instance

/-- Whether a listing shows every description that is held under its category, once, and nothing else. -/
def Complete (c : Catalogue) : Prop := (ListingLine.ofListing c.toJson).Perm (c.held.map (·.line))

/-- Whether a description is the last one for its slot. -/
def Latest (v : VariableInfo) (vs : List VariableInfo) : Prop :=
  ∃ before after, vs = before ++ v :: after ∧ ∀ u ∈ after, u.slot ≠ v.slot

variable {c : Catalogue} {v : VariableInfo}

section Holding

theorem slot_of_listPath? {listPath : Option String} (given : v.listPath? = listPath) :
    v.slot = (listPath, v.path) := by
  rw [VariableInfo.slot, given]

/-- A description takes its slot and leaves the others. -/
theorem at?_register (c : Catalogue) (v : VariableInfo) (slot : Option String × String) :
    (c.register v).at? slot = if v.slot = slot then some v else c.at? slot := by
  obtain ⟨list, path⟩ := slot
  unfold register VariableInfo.slot
  cases own : v.listPath? with
  | none =>
    cases list with
    | none =>
      by_cases same : v.path = path
      · subst same
        simp [at?, Entries.get?_set_self]
      · simp [at?, same, Entries.get?_set_of_ne (Ne.symm same)]
    | some list => simp [at?]
  | some ownList =>
    cases list with
    | none => simp [at?]
    | some list =>
      by_cases sameList : ownList = list
      · subst sameList
        by_cases same : v.path = path
        · subst same
          simp [at?, Entries.get?_set_self]
        · simp [at?, same, Entries.get?_set_self, Entries.get?_set_of_ne (Ne.symm same)]
      · simp [at?, sameList, Entries.get?_set_of_ne (Ne.symm sameList)]

/-- Of entries with distinct keys, only one has a key. -/
theorem flatMap_of_key {m : Entries (Entries VariableInfo)} (distinct : (Entries.keys m).Nodup)
    (key : String) :
    (m.flatMap fun l => if l.1 = key then l.2.values else []) = ((m.get? key).getD []).values := by
  induction m with
  | nil => rfl
  | cons l m ih =>
    obtain ⟨k, fields⟩ := l
    obtain ⟨fresh, rest⟩ := List.nodup_cons.mp distinct
    rw [List.flatMap_cons, ih rest, Entries.get?_cons]
    split
    · next same =>
      subst same
      have nothing : Entries.get? k m = none := Entries.get?_eq_none_iff.mpr fresh
      rw [nothing]
      exact List.append_nil _
    · rfl

theorem latest_concat_iff {u : VariableInfo} {vs : List VariableInfo} :
    Latest v (vs ++ [u]) ↔ v = u ∨ (u.slot ≠ v.slot ∧ Latest v vs) := by
  constructor
  · rintro ⟨before, after, whole, last⟩
    cases after using List.reverseRecOn with
    | nil => exact .inl (List.cons.inj (List.append_inj' whole rfl).2).1.symm
    | append_singleton after w =>
      rw [← List.cons_append, ← List.append_assoc] at whole
      obtain ⟨rfl, same⟩ := List.append_inj' whole rfl
      obtain rfl : u = w := (List.cons.inj same).1
      refine .inr ⟨last u (by simp), before, after, rfl, fun w inside => last w (by simp [inside])⟩
  · rintro (rfl | ⟨other, before, after, rfl, last⟩)
    · exact ⟨vs, [], rfl, List.forall_mem_nil _⟩
    · refine ⟨before, after ++ [u], by simp, fun w inside => ?_⟩
      rcases List.mem_append.mp inside with inside | inside
      · exact last w inside
      · rwa [List.mem_singleton.mp inside]

/-- Of the descriptions that are put in, the last one for a slot is found there. -/
theorem at?_ofList_eq_some_iff {vs : List VariableInfo} {slot : Option String × String} :
    (ofList vs).at? slot = some v ↔ v.slot = slot ∧ Latest v vs := by
  induction vs using List.reverseRecOn with
  | nil =>
    refine iff_of_false ?_ fun ⟨_, _, _, whole, _⟩ => by simp at whole
    obtain ⟨_ | list, path⟩ := slot <;> simp [ofList, at?]
  | append_singleton vs u ih =>
    have whole : ofList (vs ++ [u]) = (ofList vs).register u := by simp [ofList]
    rw [whole, at?_register, latest_concat_iff]
    split
    · next here =>
      rw [Option.some.injEq]
      constructor
      · rintro rfl
        exact ⟨here, .inl rfl⟩
      · rintro ⟨rfl, same | ⟨other, -⟩⟩
        · exact same.symm
        · exact absurd here other
    · next elsewhere =>
      rw [ih]
      refine and_congr_right ?_
      rintro rfl
      constructor
      · exact fun latest => .inr ⟨elsewhere, latest⟩
      · rintro (rfl | ⟨-, latest⟩)
        · exact absurd rfl elsewhere
        · exact latest

namespace Keyed

theorem empty : Keyed {} where
  entries _ member := by cases member
  distinct := .nil
  fields _ member := by cases member
  distinctLists := .nil
  distinctFields _ member := by cases member

/-- Putting a description in keeps each in its slot. -/
theorem register (keyed : Keyed c) (v : VariableInfo) : Keyed (c.register v) := by
  unfold Catalogue.register
  split
  · next listPath own =>
    -- The fields of the list before, if there are any.
    have before : ∀ e ∈ (c.itemFields.get? listPath).getD [], e.2.slot = (some listPath, e.1) := by
      cases found : c.itemFields.get? listPath with
      | none => exact List.forall_mem_nil _
      | some fields => exact keyed.fields _ (Entries.mem_of_get? found)
    have apart : (Entries.keys ((c.itemFields.get? listPath).getD [])).Nodup := by
      cases found : c.itemFields.get? listPath with
      | none => exact .nil
      | some fields => exact keyed.distinctFields _ (Entries.mem_of_get? found)
    refine ⟨keyed.entries, keyed.distinct, fun l member e inside => ?_,
      Entries.nodup_keys_set keyed.distinctLists _ _, fun l member => ?_⟩
    · rcases Entries.mem_set member with rfl | member
      · rcases Entries.mem_set inside with rfl | inside
        · exact slot_of_listPath? own
        · exact before e inside
      · exact keyed.fields l member e inside
    · rcases Entries.mem_set member with rfl | member
      · exact Entries.nodup_keys_set apart _ _
      · exact keyed.distinctFields l member
  · next own =>
    refine ⟨fun e member => ?_, Entries.nodup_keys_set keyed.distinct _ _, keyed.fields,
      keyed.distinctLists, keyed.distinctFields⟩
    rcases Entries.mem_set member with rfl | member
    · exact slot_of_listPath? own
    · exact keyed.entries e member

theorem foldl_register (keyed : Keyed c) (vs : List VariableInfo) :
    Keyed (vs.foldl Catalogue.register c) := by
  induction vs generalizing c with
  | nil => exact keyed
  | cons v vs ih => exact ih (keyed.register v)

/-- What is held is what is found in its slot. -/
theorem mem_held_iff (keyed : Keyed c) : v ∈ c.held ↔ c.at? v.slot = some v := by
  unfold held Entries.values
  simp only [List.mem_append, List.mem_map, List.mem_flatMap]
  constructor
  · rintro (⟨e, member, rfl⟩ | ⟨l, listed, e, member, rfl⟩)
    · rw [keyed.entries e member]
      exact Entries.get?_of_mem keyed.distinct member
    · rw [keyed.fields l listed e member]
      show ((c.itemFields.get? l.1).getD []).get? e.1 = _
      rw [Entries.get?_of_mem keyed.distinctLists listed, Option.getD_some]
      exact Entries.get?_of_mem (keyed.distinctFields l listed) member
  · intro found
    generalize v.slot = slot at found
    obtain ⟨list, path⟩ := slot
    cases list with
    | none => exact .inl ⟨(path, v), Entries.mem_of_get? found, rfl⟩
    | some list =>
      change ((c.itemFields.get? list).getD []).get? path = some v at found
      cases listed : c.itemFields.get? list with
      | none =>
        rw [listed] at found
        cases found
      | some fields =>
        rw [listed, Option.getD_some] at found
        exact .inr ⟨_, Entries.mem_of_get? listed, _, Entries.mem_of_get? found, rfl⟩

/-- No slot is held twice. -/
theorem nodup_slots (keyed : Keyed c) : (c.held.map (·.slot)).Nodup := by
  have entries : c.entries.values.map (·.slot) = (Entries.keys c.entries).map (none, ·) := by
    unfold Entries.values Entries.keys
    rw [List.map_map, List.map_map]
    exact List.map_congr_left keyed.entries
  have fields (l : String × Entries VariableInfo) (member : l ∈ c.itemFields) :
      l.2.values.map (·.slot) = (Entries.keys l.2).map (some l.1, ·) := by
    unfold Entries.values Entries.keys
    rw [List.map_map, List.map_map]
    exact List.map_congr_left (keyed.fields l member)
  rw [held, List.map_append, List.map_flatMap, entries, List.flatMap_congr fields, List.nodup_append,
    List.nodup_flatMap]
  refine ⟨keyed.distinct.map (Prod.mk_right_injective _), ⟨fun l member =>
    (keyed.distinctFields l member).map (Prod.mk_right_injective _), ?_⟩, fun a first b second => ?_⟩
  · refine (List.pairwise_map.mp keyed.distinctLists).imp fun {l l'} distinct => ?_
    refine List.disjoint_left.mpr fun slot here there => ?_
    obtain ⟨_, -, rfl⟩ := List.mem_map.mp here
    obtain ⟨_, -, same⟩ := List.mem_map.mp there
    exact distinct (Option.some.inj (congrArg Prod.fst same)).symm
  · obtain ⟨_, -, rfl⟩ := List.mem_map.mp first
    obtain ⟨l, -, inside⟩ := List.mem_flatMap.mp second
    obtain ⟨_, -, rfl⟩ := List.mem_map.mp inside
    intro same
    cases congrArg Prod.fst same

theorem listPath?_of_mem_entries (keyed : Keyed c) (member : v ∈ c.entries.values) :
    v.listPath? = none := by
  obtain ⟨e, inside, rfl⟩ := List.mem_map.mp member
  exact congrArg Prod.fst (keyed.entries e inside)

theorem listPath?_of_mem_fields (keyed : Keyed c) {l : String × Entries VariableInfo}
    (listed : l ∈ c.itemFields) (member : v ∈ l.2.values) : v.listPath? = some l.1 := by
  obtain ⟨e, inside, rfl⟩ := List.mem_map.mp member
  exact congrArg Prod.fst (keyed.fields l listed e inside)

/-- What is held outside lists are the variables of the invoice as a whole. -/
theorem filter_held_none (keyed : Keyed c) : c.held.filter (·.listPath? = none) = c.all := by
  rw [held, List.filter_append, List.filter_flatMap]
  have whole : c.entries.values.filter (·.listPath? = none) = c.entries.values :=
    List.filter_eq_self.mpr fun v member => decide_eq_true (keyed.listPath?_of_mem_entries member)
  have others (l : String × Entries VariableInfo) (listed : l ∈ c.itemFields) :
      l.2.values.filter (·.listPath? = none) = [] := by
    refine List.filter_eq_nil_iff.mpr fun v member => ?_
    rw [keyed.listPath?_of_mem_fields listed member]
    exact Bool.false_ne_true
  rw [whole, List.flatMap_congr others]
  simp [all]

/-- What is held in a list are its fields. -/
theorem filter_held_some (keyed : Keyed c) (listPath : String) :
    c.held.filter (·.listPath? = some listPath) = c.fieldsOf listPath := by
  rw [held, List.filter_append, List.filter_flatMap]
  have none : c.entries.values.filter (·.listPath? = some listPath) = [] := by
    refine List.filter_eq_nil_iff.mpr fun v member => ?_
    rw [keyed.listPath?_of_mem_entries member]
    exact Bool.false_ne_true
  have own (l : String × Entries VariableInfo) (listed : l ∈ c.itemFields) :
      l.2.values.filter (·.listPath? = some listPath) = if l.1 = listPath then l.2.values else [] := by
    split
    · next same =>
      exact List.filter_eq_self.mpr fun v member =>
        decide_eq_true (by rw [keyed.listPath?_of_mem_fields listed member, same])
    · next other =>
      refine List.filter_eq_nil_iff.mpr fun v member => ?_
      rw [keyed.listPath?_of_mem_fields listed member]
      simpa using other
  rw [none, List.nil_append, List.flatMap_congr own, fieldsOf]
  exact flatMap_of_key keyed.distinctLists listPath

end Keyed

end Holding

section Showing

/-- The descriptions that a listing shows under a category. -/
def variablesUnder (c : Catalogue) (category : Category) : List VariableInfo :=
  if category = .product then c.fieldsOf productList else c.byCategory category

/-- Elements made from those that are there are made from all, when the others make none. -/
theorem flatMap_filterMap {α β γ : Type} {f : α → Option β} {g : β → List γ} {h : α → List γ}
    (same : ∀ a, (f a).elim [] g = h a) (xs : List α) : (xs.filterMap f).flatMap g = xs.flatMap h := by
  induction xs with
  | nil => rfl
  | cons x xs ih =>
    rw [List.filterMap_cons, List.flatMap_cons, ← ih, ← same x]
    cases f x <;> rfl

/-- The group of a category in a listing, if there is one. -/
def groupOf? (c : Catalogue) (category : Category) : Option Json :=
  match c.listedIn category with
  | [] => none
  | entries => some (categoryEntry category entries)

/-- A listing shows what it shows under each category, from the first one to the last. -/
theorem ofListing_toJson (c : Catalogue) : ListingLine.ofListing c.toJson =
    Category.all.flatMap fun category => (c.variablesUnder category).map (.under category) := by
  -- An entry of either kind shows its path and its label.
  have lines (category : Category) (entries : List Json) :
      (ListingLine.itemsAt "variables" (categoryEntry category entries)).map (fun entry =>
        (⟨ListingLine.textAt? "name" (categoryEntry category entries), ListingLine.textAt? "path" entry,
          ListingLine.textAt? "label" entry⟩ : ListingLine)) =
      entries.map fun entry =>
        ⟨some category.name, ListingLine.textAt? "path" entry, ListingLine.textAt? "label" entry⟩ := by
    simp [categoryEntry, ListingLine.itemsAt, ListingLine.textAt?, Entries.get?]
  have entry (category : Category) : (c.listedIn category).map (fun entry =>
      (⟨some category.name, ListingLine.textAt? "path" entry, ListingLine.textAt? "label" entry⟩ :
        ListingLine)) = (c.variablesUnder category).map (.under category) := by
    unfold listedIn variablesUnder
    split <;>
      simp [entryOf, itemEntryOf, ListingLine.textAt?, Entries.get?, ListingLine.under]
  have groups : ListingLine.itemsAt "categories" c.toJson = Category.all.filterMap c.groupOf? := rfl
  rw [ListingLine.ofListing, groups]
  refine flatMap_filterMap (fun category => ?_) _
  rw [← entry category, groupOf?]
  cases c.listedIn category with
  | nil => rfl
  | cons first rest => exact lines category _

/-- Grouping by distinct keys that cover a list keeps every element. -/
theorem perm_flatMap_filter {κ α : Type} [DecidableEq κ] {keys : List κ} (distinct : keys.Nodup)
    {xs : List α} {key : α → κ} (covered : ∀ x ∈ xs, key x ∈ keys) :
    (keys.flatMap fun k => xs.filter (key · = k)).Perm xs := by
  induction keys generalizing xs with
  | nil =>
    cases xs with
    | nil => exact .refl _
    | cons x xs => cases covered x List.mem_cons_self
  | cons k keys ih =>
    obtain ⟨fresh, rest⟩ := List.nodup_cons.mp distinct
    have others : ∀ x ∈ xs.filter (fun x => !decide (key x = k)), key x ∈ keys := by
      intro x member
      obtain ⟨inside, other⟩ := List.mem_filter.mp member
      exact (List.mem_cons.mp (covered x inside)).resolve_left (by simpa using other)
    have same (l : κ) (member : l ∈ keys) :
        (xs.filter fun x => !decide (key x = k)).filter (key · = l) = xs.filter (key · = l) := by
      have distinct : l ≠ k := fun same => fresh (same ▸ member)
      rw [List.filter_filter]
      refine List.filter_congr fun x _ => ?_
      by_cases here : key x = l
      · simp [here, distinct]
      · simp [here]
    have tail := ih rest others
    rw [List.flatMap_congr same] at tail
    exact (tail.append_left _).trans (List.filter_append_perm _ _)

/-- The categories besides products. -/
def otherCategories : List Category := [.company, .customer, .invoice, .order, .totals, .legal]

/-- What a listing shows: the variables of other categories under these, and the fields of the product list
under products. -/
theorem perm_ofListing (c : Catalogue) : (ListingLine.ofListing c.toJson).Perm
    ((c.all.filter (·.category ≠ .product)).map (·.line) ++
      (c.fieldsOf productList).map (.under .product)) := by
  let shown (category : Category) := (c.variablesUnder category).map (ListingLine.under category)
  have others (category : Category) (member : category ∈ otherCategories) : shown category =
      ((c.all.filter (·.category ≠ .product)).filter (·.category = category)).map (·.line) := by
    have other : category ≠ .product := by
      rintro rfl
      revert member
      decide
    have same : (c.all.filter (·.category ≠ .product)).filter (·.category = category) =
        c.byCategory category := by
      rw [List.filter_filter]
      refine List.filter_congr fun v _ => ?_
      by_cases own : v.category = category
      · simp [own, other]
      · simp [own]
    show (c.variablesUnder category).map _ = _
    rw [same, variablesUnder, if_neg other]
    refine List.map_congr_left fun v member => ?_
    rw [VariableInfo.line, of_decide_eq_true (List.mem_filter.mp member).2]
  have grouped : (otherCategories.flatMap shown).Perm
      ((c.all.filter (·.category ≠ .product)).map (·.line)) := by
    rw [List.flatMap_congr others, ← List.map_flatMap]
    refine (perm_flatMap_filter (by decide) fun v member => ?_).map _
    have other := of_decide_eq_true (List.mem_filter.mp member).2
    revert other
    cases v.category <;> decide
  have products : Category.all.flatMap shown =
      [.company, .customer, .invoice, .order].flatMap shown ++
        (shown .product ++ [.totals, .legal].flatMap shown) := by
    simp [Category.all]
  rw [ofListing_toJson, products]
  refine (List.perm_append_comm.append_left _).trans ?_
  rw [← List.append_assoc, ← List.flatMap_append]
  exact grouped.append_right _

end Showing

section Completeness

/-- What a listing shows, said of what is held. -/
theorem Keyed.perm_ofListing (keyed : Keyed c) : (ListingLine.ofListing c.toJson).Perm
    ((c.held.filter (Placed ·)).map (·.line) ++ (c.held.filter (Misplaced ·)).map (.under .product)) := by
  have scalars : (c.held.filter (Placed ·)).filter (·.category ≠ .product) =
      c.all.filter (·.category ≠ .product) := by
    rw [← keyed.filter_held_none, List.filter_filter, List.filter_filter]
    refine List.filter_congr fun v _ => ?_
    by_cases product : v.category = .product <;> simp [Placed, product]
  have products : (c.held.filter (Placed ·)).filter (fun v => !decide (v.category ≠ .product)) =
      (c.fieldsOf productList).filter fun v => !decide (v.category ≠ .product) := by
    rw [← keyed.filter_held_some, List.filter_filter, List.filter_filter]
    refine List.filter_congr fun v _ => ?_
    by_cases product : v.category = .product <;> simp [Placed, product]
  have misplaced : c.held.filter (Misplaced ·) =
      (c.fieldsOf productList).filter (·.category ≠ .product) := by
    rw [← keyed.filter_held_some, List.filter_filter]
    refine List.filter_congr fun v _ => ?_
    by_cases product : v.category = .product <;> simp [Misplaced, product]
  -- Fields of products stand under their own category there.
  have own : ((c.fieldsOf productList).filter fun v => !decide (v.category ≠ .product)).map
      (.under .product) = ((c.fieldsOf productList).filter fun v => !decide (v.category ≠ .product)).map
        (·.line) := by
    refine List.map_congr_left fun v member => ?_
    have product : v.category = .product := by simpa using (List.mem_filter.mp member).2
    rw [VariableInfo.line, product]
  have placed := (List.filter_append_perm (·.category ≠ .product) (c.held.filter (Placed ·))).map
    (·.line)
  have fields := (List.filter_append_perm (·.category ≠ .product) (c.fieldsOf productList)).map
    (ListingLine.under .product)
  rw [List.map_append, scalars, products] at placed
  rw [List.map_append, own] at fields
  rw [misplaced]
  refine (Catalogue.perm_ofListing c).trans ?_
  refine ((fields.symm.trans List.perm_append_comm).append_left _).trans ?_
  rw [← List.append_assoc]
  exact placed.append_right _

theorem not_placed_of_misplaced (misplaced : Misplaced v) : ¬ Placed v := by
  obtain ⟨inList, other⟩ := misplaced
  rw [Placed, if_neg other, inList]
  nofun

theorem line_category_eq_iff : v.line.category = some Category.product.name ↔ v.category = .product := by
  show some v.category.name = _ ↔ _
  cases v.category <;> decide

/-- Where a condition holds as often as a weaker one, it holds wherever that one does. -/
theorem forall_of_countP_eq {α : Type} {p q : α → Bool} {xs : List α} (weaker : ∀ x, p x = true → q x = true)
    (same : xs.countP p = xs.countP q) : ∀ x ∈ xs, q x = true → p x = true := by
  induction xs with
  | nil => exact List.forall_mem_nil _
  | cons x xs ih =>
    have less : xs.countP p ≤ xs.countP q := List.countP_mono_left fun y _ => weaker y
    rw [List.countP_cons, List.countP_cons] at same
    by_cases here : p x = true
    · rw [if_pos here, if_pos (weaker x here)] at same
      exact List.forall_mem_cons.mpr ⟨fun _ => here, ih (by omega)⟩
    · by_cases there : q x = true
      · rw [if_neg here, if_pos there] at same
        omega
      · rw [if_neg here, if_neg there] at same
        exact List.forall_mem_cons.mpr ⟨fun held => absurd held there, ih (by omega)⟩

/-- A listing is complete exactly when all that is held has its place in it. From left to right it is a
count: of all lines first, which leaves nothing out, and then of those under products, which leaves nothing
misplaced. -/
theorem Keyed.complete_iff (keyed : Keyed c) : c.Complete ↔ ∀ v ∈ c.held, Placed v := by
  have shown := keyed.perm_ofListing
  constructor
  · intro complete
    have same := complete.symm.trans shown
    have lines := same.length_eq
    have products := same.countP_eq fun line => decide (line.category = some Category.product.name)
    have whole := List.length_eq_countP_add_countP (Placed ·) (l := c.held)
    simp only [List.length_append, List.length_map, ← List.countP_eq_length_filter] at lines
    simp only [List.countP_append, List.countP_map, List.countP_filter, Function.comp_def,
      line_category_eq_iff, ListingLine.under, decide_true, Bool.true_and] at products
    simp only [decide_eq_true_eq, decide_not] at whole
    have covered : ∀ v ∈ c.held, (!decide (Placed v)) = true → decide (Misplaced v) = true :=
      forall_of_countP_eq
        (fun v misplaced => by simpa using not_placed_of_misplaced (of_decide_eq_true misplaced)) (by omega)
    have own : c.held.countP (fun v => decide (v.category = .product)) =
        c.held.countP fun v => decide (v.category = .product) && decide (Placed v) := by
      refine List.countP_congr fun v member => ?_
      by_cases placed : Placed v
      · simp [placed]
      · have misplaced : Misplaced v := of_decide_eq_true (covered v member (by simpa using placed))
        simp [misplaced.2]
    have none : c.held.countP (Misplaced ·) = 0 := by omega
    intro v member
    by_contra lost
    exact List.countP_eq_zero.mp none v member (covered v member (by simpa using lost))
  · intro placed
    have all : c.held.filter (Placed ·) = c.held :=
      List.filter_eq_self.mpr fun v member => decide_eq_true (placed v member)
    have nothing : c.held.filter (Misplaced ·) = [] :=
      List.filter_eq_nil_iff.mpr fun v member misplaced =>
        not_placed_of_misplaced (of_decide_eq_true misplaced) (placed v member)
    rwa [all, nothing, List.map_nil, List.append_nil] at shown

/-- A slot that is taken stays taken. -/
theorem exists_at?_ofList {vs : List VariableInfo} (member : v ∈ vs) :
    ∃ u, (ofList vs).at? v.slot = some u := by
  induction vs using List.reverseRecOn with
  | nil => cases member
  | append_singleton vs u ih =>
    have whole : ofList (vs ++ [u]) = (ofList vs).register u := by simp [ofList]
    rw [whole, at?_register]
    split
    · exact ⟨u, rfl⟩
    · next other =>
      rcases List.mem_append.mp member with member | member
      · exact ih member
      · exact absurd (congrArg _ (List.mem_singleton.mp member).symm) other

/-- For every sequence of descriptions put into the standard catalogue: held is the last description for each
slot, and no slot twice. The listing shows, each once and nothing else, under their own category those that
are variables of the invoice as a whole and of no product, or fields of the product list and of products, and
under products the fields of the product list that have another category. The field that the standard
catalogue has for the notices is held and shown nowhere, so the listing is never complete. -/
theorem lines_of_registered (more : List VariableInfo) :
    let c := more.foldl register standard
    (∀ v, v ∈ c.held ↔ Latest v (standardVariables ++ more)) ∧ (c.held.map (·.slot)).Nodup ∧
    (ListingLine.ofListing c.toJson).Perm ((c.held.filter (Placed ·)).map (·.line) ++
      (c.held.filter (Misplaced ·)).map (.under .product)) ∧
    (∃ v ∈ c.held, v.slot = (some "legal.notices", "text") ∧ ¬ Placed v) ∧ ¬ c.Complete := by
  intro c
  have whole : c = ofList (standardVariables ++ more) := (List.foldl_append ..).symm
  have keyed : Keyed c := Keyed.foldl_register (Keyed.empty.foldl_register standardVariables) more
  have notices : ∃ v ∈ c.held, v.slot = (some "legal.notices", "text") ∧ ¬ Placed v := by
    have standardField : VariableInfo.field .legal "legal.notices" "text" "Hinweistext" ∈
        standardVariables ++ more := List.mem_append_left _ (by decide)
    obtain ⟨v, found⟩ := exists_at?_ofList standardField
    obtain ⟨slot, -⟩ := at?_ofList_eq_some_iff.mp found
    have list : v.listPath? = some "legal.notices" := congrArg Prod.fst slot
    refine ⟨v, keyed.mem_held_iff.mpr ?_, slot, ?_⟩
    · rw [whole, slot]
      exact found
    · rw [Placed, list]
      split <;> decide
  refine ⟨fun v => ?_, keyed.nodup_slots, keyed.perm_ofListing, notices, fun complete => ?_⟩
  · rw [keyed.mem_held_iff, whole, at?_ofList_eq_some_iff]
    exact and_iff_right rfl
  · obtain ⟨v, member, -, lost⟩ := notices
    exact lost (keyed.complete_iff.mp complete v member)

/-- Already the listing of the standard catalogue has no line for the text of a notice. -/
theorem notice_text_not_listed :
    VariableInfo.field .legal "legal.notices" "text" "Hinweistext" ∈ standard.held ∧
    (VariableInfo.field .legal "legal.notices" "text" "Hinweistext").line ∉
      ListingLine.ofListing standard.toJson := by
  decide

end Completeness

end Catalogue

end InvoiceForms
