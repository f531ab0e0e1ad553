import InvoiceForms.Json.Printer
import InvoiceForms.Proofs.Json.Entries

/-!
# Arrangements of members

A document is written with the members of its objects as they come, or in the order of their keys.
What holds of both is stated once for an `Arrangement`: it only moves entries, whatever their values
are, and so it hides nothing from a key.
-/

namespace InvoiceForms

/-- In which order the members of objects stand: as they come, or by their keys. -/
inductive Arrangement
  | written
  | sorted

namespace Arrangement

variable {α β : Type}

/-- Entries in the order of an arrangement. -/
def of (σ : Arrangement) (m : Entries α) : Entries α :=
  match σ with
  | written => m
  | sorted => Json.sortEntries m

/-- Arranging only moves entries. -/
theorem of_perm (σ : Arrangement) (m : Entries α) : (σ.of m).Perm m := by
  cases σ with
  | written => exact .refl m
  | sorted => exact List.mergeSort_perm m _

@[simp] theorem mem_of (σ : Arrangement) {m : Entries α} {e : String × α} : e ∈ σ.of m ↔ e ∈ m :=
  (σ.of_perm m).mem_iff

theorem keys_of_perm (σ : Arrangement) (m : Entries α) :
    (Entries.keys (σ.of m)).Perm (Entries.keys m) := (σ.of_perm m).map Prod.fst

@[simp] theorem mem_keys_of (σ : Arrangement) {m : Entries α} {key : String} :
    key ∈ Entries.keys (σ.of m) ↔ key ∈ Entries.keys m := (σ.keys_of_perm m).mem_iff

@[simp] theorem nodup_keys_of (σ : Arrangement) {m : Entries α} :
    (Entries.keys (σ.of m)).Nodup ↔ (Entries.keys m).Nodup := (σ.keys_of_perm m).nodup_iff

/-- A key finds the same among arranged entries. -/
theorem get?_of (σ : Arrangement) {m : Entries α} (distinct : (Entries.keys m).Nodup) (key : String) :
    Entries.get? key (σ.of m) = Entries.get? key m :=
  (Entries.get?_of_perm (σ.of_perm m).symm distinct key).symm

/-- Values are arranged by their keys alone. -/
theorem of_mapValues (σ : Arrangement) (f : α → β) (m : Entries α) :
    σ.of (Entries.mapValues f m) = Entries.mapValues f (σ.of m) := by
  cases σ with
  | written => rfl
  | sorted =>
    show Json.sortEntries (m.map _) = (Json.sortEntries m).map _
    unfold Json.sortEntries
    rw [List.map_mergeSort]
    intro a _ b _
    rfl

theorem keyOrder_trans {α : Type} (a b c : String × α) :
    decide (a.1 ≤ b.1) = true → decide (b.1 ≤ c.1) = true → decide (a.1 ≤ c.1) = true := by
  rw [decide_eq_true_iff, decide_eq_true_iff, decide_eq_true_iff]
  exact String.le_trans

theorem keyOrder_total {α : Type} (a b : String × α) :
    (decide (a.1 ≤ b.1) || decide (b.1 ≤ a.1)) = true := by
  rw [Bool.or_eq_true, decide_eq_true_iff, decide_eq_true_iff]
  exact String.le_total a.1 b.1

/-- Sorted entries are in ascending order of their keys. -/
theorem pairwise_sortEntries (m : Entries α) :
    (Json.sortEntries m).Pairwise fun a b => a.1 ≤ b.1 := by
  have ordered := List.pairwise_mergeSort keyOrder_trans keyOrder_total m
  exact ordered.imp fun h => decide_eq_true_iff.mp h

/-- Entries with distinct keys have one ascending order. -/
theorem eq_of_perm_of_pairwise {m m' : Entries α} (perm : m.Perm m')
    (distinct : (Entries.keys m).Nodup) (ordered : m.Pairwise fun a b => a.1 ≤ b.1)
    (ordered' : m'.Pairwise fun a b => a.1 ≤ b.1) : m = m' := by
  refine perm.eq_of_pairwise ?_ ordered ordered'
  intro a b inside inside' below above
  have same : a.1 = b.1 := String.le_antisymm below above
  have first := Entries.get?_of_mem distinct inside
  have second := Entries.get?_of_mem distinct (perm.mem_iff.mpr inside')
  rw [same, second] at first
  exact Prod.ext same (Option.some.inj first).symm

/-- Choosing entries commutes with arranging them. -/
theorem of_filter (σ : Arrangement) {m : Entries α} (distinct : (Entries.keys m).Nodup)
    (p : String × α → Bool) : σ.of (m.filter p) = (σ.of m).filter p := by
  cases σ with
  | written => rfl
  | sorted =>
    have perm : (Json.sortEntries m).Perm m := List.mergeSort_perm m _
    have chosen : (Json.sortEntries (m.filter p)).Perm ((Json.sortEntries m).filter p) :=
      (List.mergeSort_perm _ _).trans (perm.filter _).symm
    refine eq_of_perm_of_pairwise chosen ?_ (pairwise_sortEntries _)
      ((pairwise_sortEntries m).filter _)
    have few : (Entries.keys (m.filter p)).Nodup :=
      distinct.sublist (List.filter_sublist.map Prod.fst)
    exact (((List.mergeSort_perm _ _).map Prod.fst).nodup_iff).mpr few

/-- Ascending entries are arranged as they are. -/
theorem of_of_pairwise (σ : Arrangement) {m : Entries α} (ordered : m.Pairwise fun a b => a.1 ≤ b.1) :
    σ.of m = m := by
  cases σ with
  | written => rfl
  | sorted => exact List.mergeSort_of_pairwise (ordered.imp fun h => decide_eq_true h)

/-- What is arranged stays so. -/
theorem of_of (σ : Arrangement) (m : Entries α) : σ.of (σ.of m) = σ.of m := by
  cases σ with
  | written => rfl
  | sorted => exact of_of_pairwise .sorted (pairwise_sortEntries m)

/-- Entries that are arranged are so whatever is done with their values. -/
theorem of_mapValues_of (σ : Arrangement) (f : α → β) (m : Entries α) :
    σ.of (Entries.mapValues f (σ.of m)) = σ.of (Entries.mapValues f m) := by
  rw [σ.of_mapValues, σ.of_of, ← σ.of_mapValues]

/-- Whatever shows the keys shows whether they are in ascending order. -/
theorem map_sorted_eq_iff {f : String × α → β} (key : β → String) (named : ∀ e, key (f e) = e.1)
    {m : Entries α} : (sorted.of m).map f = m.map f ↔ m.Pairwise fun a b => a.1 ≤ b.1 := by
  have keys : ∀ m : Entries α, (m.map f).map key = Entries.keys m := by
    intro m
    rw [List.map_map]
    exact List.map_congr_left fun e _ => named e
  constructor
  · intro same
    have order := (pairwise_sortEntries m).map Prod.fst fun _ _ h => h
    have stay : Entries.keys (sorted.of m) = Entries.keys m := by rw [← keys, same, keys]
    change (Entries.keys (sorted.of m)).Pairwise (· ≤ ·) at order
    rw [stay, Entries.keys, List.pairwise_map] at order
    exact order
  · intro order
    rw [sorted.of_of_pairwise order]

end Arrangement

namespace Json

mutual

/-- A value whose objects are arranged. -/
def arrange (σ : Arrangement) : Json → Json
  | list items => list (arrangeItems σ items)
  | object members => object (σ.of (arrangeWithin σ members))
  | null => null
  | bool b => bool b
  | int n => int n
  | float x => float x
  | text s => text s

/-- `arrange` on the items of a list. -/
def arrangeItems (σ : Arrangement) : List Json → List Json
  | [] => []
  | x :: xs => arrange σ x :: arrangeItems σ xs

/-- `arrange` on the values of members. -/
def arrangeWithin (σ : Arrangement) : List (String × Json) → List (String × Json)
  | [] => []
  | (key, x) :: members => (key, arrange σ x) :: arrangeWithin σ members

end

theorem arrangeItems_eq_map (σ : Arrangement) (items : List Json) :
    arrangeItems σ items = items.map (arrange σ) := by
  induction items with
  | nil => rfl
  | cons x xs ih => rw [arrangeItems, ih, List.map_cons]

theorem arrangeWithin_eq_mapValues (σ : Arrangement) (members : List (String × Json)) :
    arrangeWithin σ members = Entries.mapValues (arrange σ) members := by
  induction members with
  | nil => rfl
  | cons e members ih =>
    obtain ⟨key, x⟩ := e
    rw [arrangeWithin, ih, Entries.mapValues, Entries.mapValues, List.map_cons]

theorem arrange_object (σ : Arrangement) (members : List (String × Json)) :
    arrange σ (object members) = object (σ.of (Entries.mapValues (arrange σ) members)) := by
  rw [arrange, arrangeWithin_eq_mapValues]

mutual

/-- A value as it is written is itself. -/
theorem arrange_written : ∀ x : Json, arrange .written x = x
  | list items => by rw [arrange, arrangeItems_written items]
  | object members => by rw [arrange, arrangeWithin_written members]; rfl
  | null => rfl
  | bool b => rfl
  | int n => rfl
  | float x => rfl
  | text s => rfl

theorem arrangeItems_written : ∀ items : List Json, arrangeItems .written items = items
  | [] => rfl
  | x :: xs => by rw [arrangeItems, arrange_written x, arrangeItems_written xs]

theorem arrangeWithin_written :
    ∀ members : List (String × Json), arrangeWithin .written members = members
  | [] => rfl
  | (key, x) :: members => by rw [arrangeWithin, arrange_written x, arrangeWithin_written members]

end

mutual

/-- A sorted value is the one whose objects are arranged by their keys. -/
theorem arrange_sorted : ∀ x : Json, arrange .sorted x = sortMembers x
  | list items => by rw [arrange, arrangeItems_sorted items, sortMembers]
  | object members => by rw [arrange, arrangeWithin_sorted members, sortMembers]; rfl
  | null => rfl
  | bool b => rfl
  | int n => rfl
  | float x => rfl
  | text s => rfl

theorem arrangeItems_sorted : ∀ items : List Json, arrangeItems .sorted items = sortItems items
  | [] => rfl
  | x :: xs => by rw [arrangeItems, arrange_sorted x, arrangeItems_sorted xs, sortItems]

theorem arrangeWithin_sorted :
    ∀ members : List (String × Json), arrangeWithin .sorted members = sortWithin members
  | [] => rfl
  | (key, x) :: members => by
    rw [arrangeWithin, arrange_sorted x, arrangeWithin_sorted members, sortWithin]

end

section

variable (σ : Arrangement)

mutual

/-- What is arranged stays so, throughout a value. -/
theorem arrange_arrange : ∀ x : Json, arrange σ (arrange σ x) = arrange σ x
  | list items => by rw [arrange, arrange, arrangeItems_arrangeItems items]
  | object members => by
    have within : Entries.mapValues (arrange σ) (Entries.mapValues (arrange σ) members) =
        Entries.mapValues (arrange σ) members := by
      rw [← arrangeWithin_eq_mapValues, ← arrangeWithin_eq_mapValues]
      exact arrangeWithin_arrangeWithin members
    rw [arrange_object, arrange_object, σ.of_mapValues_of, within]
  | null | bool _ | int _ | float _ | text _ => rfl

theorem arrangeItems_arrangeItems :
    ∀ items : List Json, arrangeItems σ (arrangeItems σ items) = arrangeItems σ items
  | [] => rfl
  | x :: xs => by rw [arrangeItems, arrangeItems, arrange_arrange x, arrangeItems_arrangeItems xs]

theorem arrangeWithin_arrangeWithin : ∀ members : List (String × Json),
    arrangeWithin σ (arrangeWithin σ members) = arrangeWithin σ members
  | [] => rfl
  | (key, x) :: members => by
    rw [arrangeWithin, arrangeWithin, arrange_arrange x, arrangeWithin_arrangeWithin members]

end

end

end Json

end InvoiceForms
