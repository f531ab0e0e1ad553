import InvoiceForms.Json.Everywhere
import InvoiceForms.Proofs.Json.Arrangement

/-!
# What holds everywhere in a value

A test passes everywhere in a list or an object when the whole passes it and it passes everywhere in
each of the parts. The tests are about doubles and about the keys of objects here.
-/

namespace InvoiceForms.Json

/-- No double here is infinite or none. -/
def finiteHere : Json → Bool
  | float x => x.isFinite
  | _ => true

/-- No key here stands twice. -/
def distinctHere : Json → Bool
  | object members => decide (Entries.keys members).Nodup
  | _ => true

/-- Whether all doubles in a value are finite. -/
def isFinite (j : Json) : Bool := j.everywhere finiteHere

/-- Whether the keys of every object in a value are distinct. -/
def hasDistinctKeys (j : Json) : Bool := j.everywhere distinctHere

variable {p : Json → Bool}

theorem everywhereItems_iff {items : List Json} :
    everywhereItems p items = true ↔ ∀ x ∈ items, x.everywhere p = true := by
  induction items with
  | nil => simp [everywhereItems]
  | cons x xs ih => rw [everywhereItems, Bool.and_eq_true, ih, List.forall_mem_cons]

theorem everywhereMembers_iff {members : List (String × Json)} :
    everywhereMembers p members = true ↔ ∀ e ∈ members, e.2.everywhere p = true := by
  induction members with
  | nil => simp [everywhereMembers]
  | cons e members ih =>
    obtain ⟨key, x⟩ := e
    rw [everywhereMembers, Bool.and_eq_true, ih, List.forall_mem_cons]

theorem everywhere_list {items : List Json} :
    (list items).everywhere p = true ↔
      p (list items) = true ∧ ∀ x ∈ items, x.everywhere p = true := by
  rw [everywhere, Bool.and_eq_true, everywhereItems_iff]

theorem everywhere_object {members : List (String × Json)} :
    (object members).everywhere p = true ↔
      p (object members) = true ∧ ∀ e ∈ members, e.2.everywhere p = true := by
  rw [everywhere, Bool.and_eq_true, everywhereMembers_iff]

mutual

/-- The test that everything passes is passed everywhere. -/
theorem everywhere_true : ∀ j : Json, j.everywhere (fun _ => true) = true
  | list items => by rw [everywhere, everywhereItems_true items]; rfl
  | object members => by rw [everywhere, everywhereMembers_true members]; rfl
  | null | bool _ | int _ | float _ | text _ => rfl

theorem everywhereItems_true : ∀ items : List Json, everywhereItems (fun _ => true) items = true
  | [] => rfl
  | x :: xs => by rw [everywhereItems, everywhere_true x, everywhereItems_true xs]; rfl

theorem everywhereMembers_true :
    ∀ members : List (String × Json), everywhereMembers (fun _ => true) members = true
  | [] => rfl
  | (_, x) :: members => by rw [everywhereMembers, everywhere_true x, everywhereMembers_true members]; rfl

end

mutual

/-- Two tests pass everywhere when both of them do. -/
theorem everywhere_and (p q : Json → Bool) : ∀ j : Json,
    j.everywhere (fun x => p x && q x) = (j.everywhere p && j.everywhere q)
  | list items => by
    simp only [everywhere, everywhereItems_and p q items]
    ac_rfl
  | object members => by
    simp only [everywhere, everywhereMembers_and p q members]
    ac_rfl
  | null | bool _ | int _ | float _ | text _ => rfl

theorem everywhereItems_and (p q : Json → Bool) : ∀ items : List Json,
    everywhereItems (fun x => p x && q x) items = (everywhereItems p items && everywhereItems q items)
  | [] => rfl
  | x :: xs => by
    simp only [everywhereItems, everywhere_and p q x, everywhereItems_and p q xs]
    ac_rfl

theorem everywhereMembers_and (p q : Json → Bool) : ∀ members : List (String × Json),
    everywhereMembers (fun x => p x && q x) members =
      (everywhereMembers p members && everywhereMembers q members)
  | [] => rfl
  | (_, x) :: members => by
    simp only [everywhereMembers, everywhere_and p q x, everywhereMembers_and p q members]
    ac_rfl

end

/-- A test that sees no order: it says the same of a list or an object when their parts are arranged. -/
structure Unordered (σ : Arrangement) (p : Json → Bool) : Prop where
  list : ∀ items : List Json, p (list (items.map (arrange σ))) = p (list items)
  object : ∀ members : List (String × Json),
    p (object (σ.of (Entries.mapValues (arrange σ) members))) = p (object members)

theorem readableHere_unordered (σ : Arrangement) : Unordered σ readableHere :=
  ⟨fun _ => rfl, fun _ => rfl⟩

theorem distinctHere_unordered (σ : Arrangement) : Unordered σ distinctHere where
  list _ := rfl
  object members := by
    refine decide_eq_decide.mpr ?_
    rw [σ.nodup_keys_of, Entries.keys_mapValues]

mutual

/-- Such a test passes everywhere in an arranged value when it does in the value. -/
theorem everywhere_arrange {σ : Arrangement} (blind : Unordered σ p) :
    ∀ j : Json, j.everywhere p = true → (arrange σ j).everywhere p = true
  | list items, passed => by
    rw [everywhere, Bool.and_eq_true] at passed
    rw [arrange, everywhere, Bool.and_eq_true, arrangeItems_eq_map, blind.list,
      ← arrangeItems_eq_map]
    exact ⟨passed.1, everywhereItems_arrange blind items passed.2⟩
  | object members, passed => by
    rw [everywhere, Bool.and_eq_true] at passed
    have within := everywhereMembers_arrange blind members passed.2
    rw [arrange_object, everywhere_object, blind.object]
    refine ⟨passed.1, fun e inside => ?_⟩
    rw [arrangeWithin_eq_mapValues, everywhereMembers_iff] at within
    exact within e (σ.mem_of.mp inside)
  | null, passed | bool _, passed | int _, passed | float _, passed | text _, passed => passed

theorem everywhereItems_arrange {σ : Arrangement} (blind : Unordered σ p) :
    ∀ items : List Json, everywhereItems p items = true →
      everywhereItems p (arrangeItems σ items) = true
  | [], _ => rfl
  | x :: xs, passed => by
    rw [everywhereItems, Bool.and_eq_true] at passed
    rw [arrangeItems, everywhereItems, Bool.and_eq_true]
    exact ⟨everywhere_arrange blind x passed.1, everywhereItems_arrange blind xs passed.2⟩

theorem everywhereMembers_arrange {σ : Arrangement} (blind : Unordered σ p) :
    ∀ members : List (String × Json), everywhereMembers p members = true →
      everywhereMembers p (arrangeWithin σ members) = true
  | [], _ => rfl
  | (_, x) :: members, passed => by
    rw [everywhereMembers, Bool.and_eq_true] at passed
    rw [arrangeWithin, everywhereMembers, Bool.and_eq_true]
    exact ⟨everywhere_arrange blind x passed.1, everywhereMembers_arrange blind members passed.2⟩

end

end InvoiceForms.Json
