import InvoiceForms.Json.Entries

/-!
# Entries without repeated keys

What a key finds among entries whose keys are pairwise distinct does not depend on their order, and
putting such entries into an empty mapping gives them back as they are.
-/

namespace InvoiceForms.Entries

variable {α β : Type}

@[simp] theorem get?_nil (key : String) : get? key ([] : Entries α) = none := rfl

theorem get?_cons (key k : String) (v : α) (m : Entries α) :
    get? key ((k, v) :: m) = if k = key then some v else get? key m := rfl

@[simp] theorem get?_cons_self (key : String) (v : α) (m : Entries α) :
    get? key ((key, v) :: m) = some v := if_pos rfl

theorem get?_cons_of_ne {key k : String} (distinct : k ≠ key) (v : α) (m : Entries α) :
    get? key ((k, v) :: m) = get? key m := if_neg distinct

/-- What a key finds is an entry. -/
theorem mem_of_get? {key : String} {v : α} {m : Entries α} (found : get? key m = some v) :
    (key, v) ∈ m := by
  induction m with
  | nil => cases found
  | cons e m ih =>
    obtain ⟨k, w⟩ := e
    rw [get?_cons] at found
    split at found
    · next same =>
      cases found
      rw [same]
      exact List.mem_cons_self
    · exact List.mem_cons_of_mem _ (ih found)

/-- A key finds nothing when it is no key of the mapping. -/
theorem get?_eq_none_iff {key : String} {m : Entries α} : get? key m = none ↔ key ∉ keys m := by
  induction m with
  | nil => simp [keys]
  | cons e m ih =>
    obtain ⟨k, w⟩ := e
    rw [get?_cons, keys, List.map_cons, List.mem_cons]
    split
    · next same => simp [same]
    · next distinct => rw [ih, not_or, and_iff_right (Ne.symm distinct), keys]

/-- Where keys are distinct, an entry is what its key finds. -/
theorem get?_of_mem {key : String} {v : α} {m : Entries α} (distinct : (keys m).Nodup)
    (member : (key, v) ∈ m) : get? key m = some v := by
  induction m with
  | nil => cases member
  | cons e m ih =>
    obtain ⟨k, w⟩ := e
    obtain ⟨fresh, rest⟩ := List.nodup_cons.mp distinct
    rcases List.mem_cons.mp member with same | member
    · cases same
      exact get?_cons_self key v m
    · have other : k ≠ key := by
        rintro rfl
        exact fresh (List.mem_map.mpr ⟨_, member, rfl⟩)
      rw [get?_cons_of_ne other]
      exact ih rest member

/-- The order of entries with distinct keys does not matter to a key. -/
theorem get?_of_perm {m m' : Entries α} (perm : m.Perm m') (distinct : (keys m).Nodup)
    (key : String) : get? key m = get? key m' := by
  have distinct' : (keys m').Nodup := (perm.map Prod.fst).nodup_iff.mp distinct
  cases found : get? key m with
  | some v => exact (get?_of_mem distinct' (perm.mem_iff.mp (mem_of_get? found))).symm
  | none =>
    have absent : key ∉ keys m' := fun member =>
      get?_eq_none_iff.mp found ((perm.map Prod.fst).mem_iff.mpr member)
    exact (get?_eq_none_iff.mpr absent).symm

@[simp] theorem keys_mapValues (f : α → β) (m : Entries α) : keys (mapValues f m) = keys m := by
  rw [keys, mapValues, List.map_map]
  rfl

theorem mapValues_mapValues {γ : Type} (f : α → β) (g : β → γ) (m : Entries α) :
    mapValues g (mapValues f m) = mapValues (fun x => g (f x)) m := by
  rw [mapValues, mapValues, mapValues, List.map_map]
  rfl

theorem mapValues_append (f : α → β) (m m' : Entries α) :
    mapValues f (m ++ m') = mapValues f m ++ mapValues f m' := List.map_append

/-- Functions that agree on the values of entries give the same. -/
theorem mapValues_congr {f g : α → β} {m : Entries α} (agree : ∀ e ∈ m, f e.2 = g e.2) :
    mapValues f m = mapValues g m :=
  List.map_congr_left fun e member => by rw [agree e member]

@[simp] theorem mapValues_id (m : Entries α) : mapValues id m = m := List.map_id m

@[simp] theorem keys_append (m m' : Entries α) : keys (m ++ m') = keys m ++ keys m' :=
  List.map_append

theorem get?_mapValues (f : α → β) (key : String) (m : Entries α) :
    get? key (mapValues f m) = (get? key m).map f := by
  induction m with
  | nil => rfl
  | cons e m ih =>
    obtain ⟨k, w⟩ := e
    rw [mapValues, List.map_cons, get?_cons, get?_cons]
    split
    · rfl
    · exact ih

/-- A new key is set at the end. -/
theorem set_of_not_mem {key : String} {m : Entries α} (fresh : key ∉ keys m) (v : α) :
    set key v m = m ++ [(key, v)] := by
  induction m with
  | nil => rfl
  | cons e m ih =>
    obtain ⟨k, w⟩ := e
    rw [keys, List.map_cons, List.mem_cons, not_or] at fresh
    rw [set, if_neg (Ne.symm fresh.1), ih fresh.2, List.cons_append]

/-- Entries with new and distinct keys are put behind those that are there. -/
theorem setAll_of_nodup {m more : Entries α} (distinct : (keys (m ++ more)).Nodup) :
    setAll m more = m ++ more := by
  induction more generalizing m with
  | nil => rw [List.append_nil, setAll, List.foldl_nil]
  | cons e more ih =>
    obtain ⟨key, v⟩ := e
    have whole : m ++ (key, v) :: more = (m ++ [(key, v)]) ++ more := by
      rw [List.append_assoc, List.singleton_append]
    have fresh : key ∉ keys m := by
      rw [keys_append] at distinct
      intro member
      exact (List.nodup_append.mp distinct).2.2 key member key List.mem_cons_self rfl
    rw [whole] at distinct ⊢
    rw [setAll, List.foldl_cons, set_of_not_mem fresh]
    exact ih distinct

/-- Entries with distinct keys are a mapping as they are. -/
theorem ofList_of_nodup {m : Entries α} (distinct : (keys m).Nodup) : ofList m = m :=
  setAll_of_nodup (m := []) distinct

/-- No key of a mapping is repeated by setting one. -/
theorem nodup_keys_set {m : Entries α} (distinct : (keys m).Nodup) (key : String) (v : α) :
    (keys (set key v m)).Nodup := by
  rw [keys_set]
  split
  · exact distinct
  · next fresh =>
    rw [List.nodup_append]
    refine ⟨distinct, by simp, ?_⟩
    intro a inside b same
    rw [List.mem_singleton] at same
    rintro rfl
    exact fresh (same ▸ inside)

theorem nodup_keys_setAll {m : Entries α} (distinct : (keys m).Nodup)
    (more : List (String × α)) : (keys (setAll m more)).Nodup := by
  induction more generalizing m with
  | nil => exact distinct
  | cons e more ih => exact ih (nodup_keys_set distinct e.1 e.2)

theorem get?_append (key : String) (m m' : Entries α) :
    get? key (m ++ m') = (get? key m).or (get? key m') := by
  induction m with
  | nil => rfl
  | cons e m ih =>
    obtain ⟨k, v⟩ := e
    by_cases same : k = key
    · subst same
      rw [List.cons_append, get?_cons_self, get?_cons_self]
      rfl
    · rw [List.cons_append, get?_cons_of_ne same, get?_cons_of_ne same, ih]

/-- Putting entries in one after another leaves each key the last value given to it. -/
theorem get?_setAll (key : String) (m : Entries α) (more : List (String × α)) :
    get? key (setAll m more) = (get? key more.reverse).or (get? key m) := by
  induction more generalizing m with
  | nil => rfl
  | cons e more ih =>
    obtain ⟨k, v⟩ := e
    have step : setAll m ((k, v) :: more) = setAll (set k v m) more := rfl
    rw [step, ih, List.reverse_cons, get?_append, Option.or_assoc]
    congr 1
    by_cases same : k = key
    · subst same
      rw [get?_set_self, get?_cons_self]
      rfl
    · rw [get?_set_of_ne (Ne.symm same), get?_cons_of_ne same, get?_nil, Option.none_or]

theorem get?_ofList (key : String) (pairs : List (String × α)) :
    get? key (ofList pairs) = get? key pairs.reverse := by
  rw [ofList, get?_setAll, get?_nil, Option.or_none]

/-- The mapping of a list of pairs has the keys of the pairs. -/
theorem get?_ofList_eq_none_iff {key : String} {pairs : List (String × α)} :
    get? key (ofList pairs) = none ↔ get? key pairs = none := by
  rw [get?_ofList, get?_eq_none_iff, get?_eq_none_iff, keys, List.map_reverse, List.mem_reverse, keys]

/-- Leaving out other keys leaves the value of a key. -/
theorem get?_filter {key : String} {p : String × α → Bool} (kept : ∀ v, p (key, v) = true)
    (m : Entries α) : get? key (m.filter p) = get? key m := by
  induction m with
  | nil => rfl
  | cons e m ih =>
    obtain ⟨k, v⟩ := e
    by_cases same : k = key
    · subst same
      rw [List.filter_cons_of_pos (kept v), get?_cons_self, get?_cons_self]
    · rw [get?_cons_of_ne same, List.filter_cons]
      split
      · rw [get?_cons_of_ne same, ih]
      · exact ih

/-- A mapping made of a list has distinct keys. -/
theorem nodup_keys_ofList (pairs : List (String × α)) : (keys (ofList pairs)).Nodup :=
  nodup_keys_setAll (m := []) List.nodup_nil pairs

theorem mem_set {key : String} {v : α} {m : Entries α} {e : String × α} (member : e ∈ set key v m) :
    e = (key, v) ∨ e ∈ m := by
  induction m with
  | nil => exact .inl (List.mem_singleton.mp member)
  | cons d m ih =>
    obtain ⟨k, w⟩ := d
    rw [set] at member
    split at member
    · next same =>
      rcases List.mem_cons.mp member with rfl | member
      · exact .inl (by rw [same])
      · exact .inr (List.mem_cons_of_mem _ member)
    · rcases List.mem_cons.mp member with rfl | member
      · exact .inr List.mem_cons_self
      · exact (ih member).imp_right (List.mem_cons_of_mem _)

theorem mem_setAll {m : Entries α} {more : List (String × α)} {e : String × α}
    (member : e ∈ setAll m more) : e ∈ m ∨ e ∈ more := by
  induction more generalizing m with
  | nil => exact .inl member
  | cons d more ih =>
    rcases ih member with inside | later
    · rcases mem_set inside with rfl | inside
      · exact .inr List.mem_cons_self
      · exact .inl inside
    · exact .inr (List.mem_cons_of_mem _ later)

/-- The entries of a mapping made of a list are among those of the list. -/
theorem mem_of_mem_ofList {pairs : List (String × α)} {e : String × α}
    (member : e ∈ ofList pairs) : e ∈ pairs :=
  (mem_setAll member).resolve_left List.not_mem_nil

theorem get?_erase_of_ne {key other : String} (distinct : other ≠ key) (m : Entries α) :
    get? other (erase key m) = get? other m := by
  induction m with
  | nil => rfl
  | cons e m ih =>
    obtain ⟨k, v⟩ := e
    unfold erase
    by_cases same : k = key
    · rw [if_pos same, get?_cons_of_ne (fun own => distinct (own.symm.trans same))]
    · rw [if_neg same, get?_cons, get?_cons, ih]

theorem get?_erase_self {key : String} {m : Entries α} (distinct : (keys m).Nodup) :
    get? key (erase key m) = none := by
  induction m with
  | nil => rfl
  | cons e m ih =>
    obtain ⟨k, v⟩ := e
    obtain ⟨fresh, rest⟩ := List.nodup_cons.mp distinct
    unfold erase
    by_cases same : k = key
    · rw [if_pos same, get?_eq_none_iff]
      exact same ▸ fresh
    · rw [if_neg same, get?_cons_of_ne same, ih rest]

theorem erase_sublist (key : String) (m : Entries α) : (erase key m).Sublist m := by
  induction m with
  | nil => exact .slnil
  | cons e m ih =>
    obtain ⟨k, v⟩ := e
    unfold erase
    split
    · exact List.sublist_cons_self _ _
    · exact ih.cons_cons _

theorem nodup_keys_erase {m : Entries α} (distinct : (keys m).Nodup) (key : String) :
    (keys (erase key m)).Nodup :=
  distinct.sublist ((erase_sublist key m).map Prod.fst)

end InvoiceForms.Entries
