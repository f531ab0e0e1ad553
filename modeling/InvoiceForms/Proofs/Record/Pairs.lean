import InvoiceForms.Proofs.Record.Records

/-!
# Records of pairs

A record can also be read from pairs, whose keys are any values. When it is refused, there is a fault to
be named: one of its fields, or a key that is no text.
-/

namespace InvoiceForms

open InvoiceForms.Record

namespace Value

/-- Whether a key is a text. -/
def isText : Value → Bool
  | .text _ => true
  | _ => false

/-- Only texts are the same key as a text. -/
theorem not_isText_of_sameKey {a b : Value} (same : sameKey a b = true)
    (other : b.isText = false) : a.isText = false := by
  cases a with
  | text s =>
    cases b with
    | text t => cases other
    | _ => simp [Value.sameKey, Value.numberKey?] at same
  | _ => rfl

/-- A key that is no text is among the distinct keys, or one that is the same. The induction is on the
keys that are left. -/
theorem exists_not_isText_of_distinctKeys {keys : List Value}
    (other : ∃ key ∈ keys, isText key = false) :
    ∃ key ∈ Value.distinctKeys keys, isText key = false := by
  have fold (keys found : List Value)
      (other : (∃ key ∈ found, isText key = false) ∨ ∃ key ∈ keys, isText key = false) :
      ∃ key ∈ keys.foldl (fun found key =>
        if found.any (Value.sameKey · key) then found else found ++ [key]) found,
        isText key = false := by
    induction keys generalizing found with
    | nil =>
      rcases other with inside | ⟨key, nothing, -⟩
      · exact inside
      · cases nothing
    | cons key keys ih =>
      rw [List.foldl_cons]
      refine ih _ ?_
      rcases other with ⟨k, inside, noText⟩ | ⟨k, member, noText⟩
      · left
        refine ⟨k, ?_, noText⟩
        split
        · exact inside
        · exact List.mem_append_left _ inside
      · rcases List.mem_cons.mp member with rfl | later
        · left
          split
          · next there =>
            obtain ⟨same, inside, equal⟩ := List.any_eq_true.mp there
            exact ⟨same, inside, not_isText_of_sameKey equal noText⟩
          · exact ⟨k, List.mem_append_right _ List.mem_cons_self, noText⟩
        · exact .inr ⟨k, later, noText⟩
  exact fold keys [] (.inr other)

end Value

/-- Pairs are refused for a cause: those of their fields, or that a key is no text. -/
theorem Record.Schema.readPairs_explained {ρ : Type} (s : Schema ρ) (pairs : List (Value × Value)) :
    s.readPairs pairs ≠ .error (.faults []) := by
  intro unexplained
  unfold Schema.readPairs at unexplained
  dsimp only at unexplained
  split at unexplained
  · exact s.readEntries_explained _ unexplained
  · next texts =>
    split at unexplained
    · cases unexplained
    · have empty := (List.append_eq_nil_iff.mp (Rejection.faults.inj (Except.error.inj unexplained))).2
      have other : ∃ key ∈ pairs.map (·.1), Value.isText key = false := by
        have some : ¬ ∀ p ∈ pairs, Value.isText p.1 = true := fun each =>
          texts (List.all_eq_true.mpr each)
        push Not at some
        obtain ⟨p, member, noText⟩ := some
        exact ⟨p.1, List.mem_map_of_mem member, eq_false_of_ne_true noText⟩
      obtain ⟨key, member, noText⟩ := Value.exists_not_isText_of_distinctKeys other
      have fault := List.filterMap_eq_nil_iff.mp empty key member
      cases key with
      | text s => cases noText
      | _ => cases fault

end InvoiceForms
