import InvoiceForms.Proofs.Json.Arrangement
import InvoiceForms.Proofs.Json.Everywhere
import InvoiceForms.Value.Pairs

/-!
# JSON data as values

A value that JSON data became keeps all of it: its JSON form is that data again, as long as every
double is a number. The items and pairs of such a value are JSON data, too.
-/

namespace InvoiceForms

open InvoiceForms.Number

namespace Value

theorem ofItems_eq_map (items : List Json) : ofItems items = items.map ofJson := by
  induction items with
  | nil => rfl
  | cons x xs ih => rw [ofItems, ih, List.map_cons]

theorem ofMembers_eq_mapValues (members : List (String × Json)) :
    ofMembers members = Entries.mapValues ofJson members := by
  induction members with
  | nil => rfl
  | cons e members ih =>
    obtain ⟨key, x⟩ := e
    rw [ofMembers, ih, Entries.mapValues, Entries.mapValues, List.map_cons]

mutual

/-- The JSON form of the value of finite JSON data is that data. -/
theorem toJson_ofJson : ∀ {j : Json}, j.everywhere Json.finiteHere = true → (ofJson j).toJson = j
  | .null, _ => rfl
  | .bool _, _ => rfl
  | .int _, _ => rfl
  | .text _, _ => rfl
  | .float _, finite => if_pos finite
  | .list items, finite => by
    rw [Json.everywhere, Bool.and_eq_true] at finite
    rw [ofJson, toJson, toItems_ofItems finite.2]
  | .object members, finite => by
    rw [Json.everywhere, Bool.and_eq_true] at finite
    rw [ofJson, toJson, toMembers_ofMembers finite.2]

theorem toItems_ofItems : ∀ {items : List Json},
    Json.everywhereItems Json.finiteHere items = true → toItems (ofItems items) = items
  | [], _ => rfl
  | x :: xs, finite => by
    rw [Json.everywhereItems, Bool.and_eq_true] at finite
    rw [ofItems, toItems, toJson_ofJson finite.1, toItems_ofItems finite.2]

theorem toMembers_ofMembers : ∀ {members : List (String × Json)},
    Json.everywhereMembers Json.finiteHere members = true → toMembers (ofMembers members) = members
  | [], _ => rfl
  | (key, x) :: members, finite => by
    rw [Json.everywhereMembers, Bool.and_eq_true] at finite
    rw [ofMembers, toMembers, toJson_ofJson finite.1, toMembers_ofMembers finite.2]

end

/-- Values of JSON data all of which passes a test, and in which every double is finite. -/
def IsData (p : Json → Bool) (v : Value) : Prop :=
  ∃ j : Json, j.everywhere Json.finiteHere = true ∧ j.everywhere p = true ∧ ofJson j = v

variable {p : Json → Bool}

/-- Tests that every text and nothing at all pass. -/
structure Lenient (p : Json → Bool) : Prop where
  text : ∀ s, p (.text s) = true
  null : p .null = true

theorem IsData.text (lenient : Lenient p) (s : String) : (Value.text s).IsData p :=
  ⟨.text s, rfl, lenient.text s, rfl⟩

theorem IsData.null (lenient : Lenient p) : Value.null.IsData p := ⟨.null, rfl, lenient.null, rfl⟩

/-- Writing data and taking it in again gives it back. -/
theorem IsData.ofJson_toJson {v : Value} (data : v.IsData p) : ofJson v.toJson = v := by
  obtain ⟨j, finite, -, rfl⟩ := data
  rw [toJson_ofJson finite]

/-- The JSON form of data passes the test. -/
theorem IsData.toJson {v : Value} (data : v.IsData p) : v.toJson.everywhere p = true := by
  obtain ⟨j, finite, passed, rfl⟩ := data
  rw [toJson_ofJson finite]
  exact passed

theorem IsData.of_mem_list {items : List Value} (data : (list items).IsData p) {v : Value}
    (member : v ∈ items) : v.IsData p := by
  obtain ⟨j, finite, passed, same⟩ := data
  cases j with
  | list xs =>
    rw [ofJson, list.injEq, ofItems_eq_map] at same
    subst same
    obtain ⟨x, inside, rfl⟩ := List.mem_map.mp member
    exact ⟨x, (Json.everywhere_list.mp finite).2 x inside, (Json.everywhere_list.mp passed).2 x inside, rfl⟩
  | _ => cases same

theorem IsData.of_mem_mapping {entries : Entries Value} (data : (mapping entries).IsData p)
    {e : String × Value} (member : e ∈ entries) : e.2.IsData p := by
  obtain ⟨j, finite, passed, same⟩ := data
  cases j with
  | object members =>
    rw [ofJson, mapping.injEq, ofMembers_eq_mapValues] at same
    subst same
    obtain ⟨d, inside, rfl⟩ := List.mem_map.mp member
    exact ⟨d.2, (Json.everywhere_object.mp finite).2 d inside,
      (Json.everywhere_object.mp passed).2 d inside, rfl⟩
  | _ => cases same

/-- The items of data are data. -/
theorem IsData.of_mem_items? (lenient : Lenient p) {v : Value} (data : v.IsData p)
    {items : List Value} (given : v.items? = some items) {item : Value} (member : item ∈ items) :
    item.IsData p := by
  cases v with
  | list xs =>
    cases given
    exact data.of_mem_list member
  | text s =>
    cases given
    obtain ⟨c, -, rfl⟩ := List.mem_map.mp member
    exact .text lenient _
  | mapping entries =>
    cases given
    obtain ⟨e, -, rfl⟩ := List.mem_map.mp member
    exact .text lenient _
  | bytes | tuple | set | record =>
    obtain ⟨j, -, -, same⟩ := data
    cases j <;> cases same
  | _ => cases given

/-- What stands in the pairs of data is data. -/
theorem IsData.of_mem_pairsFrom (lenient : Lenient p) {items : List Value}
    (data : ∀ item ∈ items, item.IsData p)
    {index : Nat} {pairs : List (Value × Value)} (given : pairsFrom index items = .ok pairs)
    {q : Value × Value} (member : q ∈ pairs) : q.2.IsData p := by
  induction items generalizing index pairs with
  | nil =>
    cases given
    cases member
  | cons item rest ih =>
    unfold pairsFrom at given
    cases first : pairAt index item with
    | error e =>
      rw [first] at given
      cases given
    | ok pair =>
      cases others : pairsFrom (index + 1) rest with
      | error e =>
        rw [first, others] at given
        cases given
      | ok more =>
        rw [first, others] at given
        cases given
        rcases List.mem_cons.mp member with rfl | member
        · have whole := data item List.mem_cons_self
          unfold pairAt at first
          split at first
          · cases first
          · next key value shape =>
            split at first
            · cases first
            · cases first
              exact whole.of_mem_items? lenient shape (by simp)
          · cases first
        · exact ih (fun i h => data i (List.mem_cons_of_mem _ h)) others member

theorem IsData.of_mem_pairs (lenient : Lenient p) {v : Value} (data : v.IsData p)
    {pairs : List (Value × Value)} (given : v.pairs = .ok pairs) {q : Value × Value}
    (member : q ∈ pairs) : q.2.IsData p := by
  cases v with
  | mapping entries =>
    cases given
    obtain ⟨e, inside, rfl⟩ := List.mem_map.mp member
    exact data.of_mem_mapping inside
  | record title fields extras =>
    obtain ⟨j, -, -, same⟩ := data
    cases j <;> cases same
  | list xs => exact of_mem_pairsFrom lenient (fun i h => data.of_mem_items? lenient rfl h) given member
  | text s => exact of_mem_pairsFrom lenient (fun i h => data.of_mem_items? lenient rfl h) given member
  | bytes bs => exact of_mem_pairsFrom lenient (fun i h => data.of_mem_items? lenient rfl h) given member
  | tuple xs => exact of_mem_pairsFrom lenient (fun i h => data.of_mem_items? lenient rfl h) given member
  | set xs => exact of_mem_pairsFrom lenient (fun i h => data.of_mem_items? lenient rfl h) given member
  | _ => cases given

/-- The entries among the pairs of data are data. -/
theorem IsData.of_mem_textEntries {pairs : List (Value × Value)}
    (data : ∀ q ∈ pairs, q.2.IsData p) {e : String × Value} (member : e ∈ textEntries pairs) :
    e.2.IsData p := by
  obtain ⟨q, inside, chosen⟩ := List.mem_filterMap.mp (Entries.mem_of_mem_ofList member)
  split at chosen
  · cases chosen
    exact data q inside
  · cases chosen

theorem entriesUndecodable?_eq_none_iff {entries : List (String × Value)} :
    entriesUndecodable? entries = none ↔ ∀ e ∈ entries, e.2.undecodable? = none := by
  induction entries with
  | nil => simp [entriesUndecodable?]
  | cons e entries ih =>
    obtain ⟨key, v⟩ := e
    rw [entriesUndecodable?, Option.orElse_eq_or, Option.or_eq_none_iff, ih, List.forall_mem_cons]

theorem itemsUndecodable?_eq_none_iff {items : List Value} :
    itemsUndecodable? items = none ↔ ∀ v ∈ items, v.undecodable? = none := by
  induction items with
  | nil => simp [itemsUndecodable?]
  | cons v items ih => rw [itemsUndecodable?, Option.orElse_eq_or, Option.or_eq_none_iff, ih, List.forall_mem_cons]

mutual

/-- JSON data holds no bytes. -/
theorem undecodable?_ofJson : ∀ j : Json, (ofJson j).undecodable? = none
  | .null | .bool _ | .int _ | .float _ | .text _ => rfl
  | .list items => by rw [ofJson, undecodable?, itemsUndecodable?_ofItems items]
  | .object members => by rw [ofJson, undecodable?, entriesUndecodable?_ofMembers members]

theorem itemsUndecodable?_ofItems : ∀ items : List Json, itemsUndecodable? (ofItems items) = none
  | [] => rfl
  | x :: xs => by
    rw [ofItems, itemsUndecodable?, undecodable?_ofJson x]
    exact itemsUndecodable?_ofItems xs

theorem entriesUndecodable?_ofMembers :
    ∀ members : List (String × Json), entriesUndecodable? (ofMembers members) = none
  | [] => rfl
  | (key, x) :: members => by
    rw [ofMembers, entriesUndecodable?, undecodable?_ofJson x]
    exact entriesUndecodable?_ofMembers members

end

theorem IsData.undecodable? {v : Value} (data : v.IsData p) : v.undecodable? = none := by
  obtain ⟨j, -, -, rfl⟩ := data
  exact undecodable?_ofJson j

/-- Data with arranged objects. -/
def arrange (σ : Arrangement) (v : Value) : Value :=
  match σ with
  | .written => v
  | .sorted => ofJson (Json.sortMembers v.toJson)

/-- Writing data with arranged objects and taking it in again gives it with arranged objects. -/
theorem IsData.ofJson_arrange {v : Value} (data : v.IsData p) (σ : Arrangement) :
    ofJson (Json.arrange σ v.toJson) = v.arrange σ := by
  cases σ with
  | written => rw [Json.arrange_written, data.ofJson_toJson, arrange]
  | sorted => rw [Json.arrange_sorted, arrange]

/-- Data that is arranged stays so. -/
theorem IsData.arrange_arrange {v : Value} (data : v.IsData p)
    (σ : Arrangement) : (v.arrange σ).arrange σ = v.arrange σ := by
  obtain ⟨j, finite, -, rfl⟩ := data
  have whole {j : Json} (finite : j.everywhere Json.finiteHere = true) :
      (ofJson j).arrange σ = ofJson (Json.arrange σ j) := by
    have data : (ofJson j).IsData Json.finiteHere := ⟨j, finite, finite, rfl⟩
    rw [← data.ofJson_arrange, toJson_ofJson finite]
  have finite' : (Json.arrange σ j).everywhere Json.finiteHere = true :=
    Json.everywhere_arrange ⟨fun _ => rfl, fun _ => rfl⟩ j finite
  rw [whole finite, whole finite', Json.arrange_arrange]

end Value

end InvoiceForms
