import InvoiceForms.Content.Shape
import InvoiceForms.Proofs.Content.LoopFaults

/-!
# Variables outside loops

The shape of a content string lists its variables outside loops without looking at any data. Where no
loop is left open, expansion reaches each of them: the text of its value stands in the expansion.
-/

namespace InvoiceForms

open InvoiceForms.Results

namespace Shape

/-- The variables that a shape lists are the variable tokens that stand alone. -/
theorem mem_variableNames_iff {parts : List Part} {name : String} :
    name ∈ (ofParts parts).variableNames ↔
      ∃ t, Part.single t ∈ parts ∧ t.kind = .variable ∧ t.value = name := by
  induction parts with
  | nil => simp [ofParts]
  | cons part parts ih =>
    have other (same : (ofParts (part :: parts)).variableNames = (ofParts parts).variableNames)
        (notVariable : ∀ t, Part.single t = part → t.kind ≠ .variable) :
        name ∈ (ofParts (part :: parts)).variableNames ↔
          ∃ t, Part.single t ∈ part :: parts ∧ t.kind = .variable ∧ t.value = name := by
      rw [same, ih]
      constructor
      · rintro ⟨t, member, isVariable, named⟩
        exact ⟨t, List.mem_cons_of_mem part member, isVariable, named⟩
      · rintro ⟨t, member, isVariable, named⟩
        rcases List.mem_cons.mp member with here | later
        · exact absurd isVariable (notVariable t here)
        · exact ⟨t, later, isVariable, named⟩
    cases part with
    | single t =>
      by_cases isVariable : t.kind = .variable
      · have added : (ofParts (.single t :: parts)).variableNames =
            t.value :: (ofParts parts).variableNames := by
          simp [ofParts, addPart, isVariable]
        rw [added, List.mem_cons, ih]
        constructor
        · rintro (rfl | ⟨u, member, isVariable', named⟩)
          · exact ⟨t, List.mem_cons_self, isVariable, rfl⟩
          · exact ⟨u, List.mem_cons_of_mem _ member, isVariable', named⟩
        · rintro ⟨u, member, isVariable', named⟩
          rcases List.mem_cons.mp member with here | later
          · cases here
            exact .inl named.symm
          · exact .inr ⟨u, later, isVariable', named⟩
      · refine other (by simp [ofParts, addPart, isVariable]) ?_
        rintro u same
        cases same
        exact isVariable
    | stray t | unclosed t | block opener body closer =>
      exact other rfl fun u same => by cases same

/-- A shape without open loops is that of parts without any. -/
theorem unclosed_not_mem {parts : List Part} (closed : (ofParts parts).unterminatedLoops = [])
    (t : Token) : Part.unclosed t ∉ parts := by
  induction parts with
  | nil => exact List.not_mem_nil
  | cons part parts ih =>
    cases part with
    | single u =>
      have same : (ofParts (.single u :: parts)).unterminatedLoops =
          (ofParts parts).unterminatedLoops := by
        simp only [ofParts, List.foldr_cons, addPart]
        split <;> rfl
      simpa using ih (same ▸ closed)
    | unclosed u => simp [ofParts, addPart] at closed
    | stray u | block opener body closer => simpa using ih closed

end Shape

namespace Draft

/-- What was put in front of a draft leaves its text where it was, behind it. -/
theorem infix_prepend {s : String} {d : Draft} (inside : s.toList <:+: d.text.toList) (text : String)
    (warnings : List Warning) : s.toList <:+: (d.prepend text warnings).text.toList := by
  rw [prepend, String.toList_append]
  exact inside.trans (List.suffix_append _ _).isInfix

/-- The induction is on the parts. Only an open loop would end the drafting before the variable is
reached; a loop before it, expanded or left as text, does not. -/
theorem exists_resolved_of_mem {lookup : Lookup} {looped : Bool} {parts : List Part} {d : Draft}
    (given : ofParts lookup looped parts = .ok d) (closed : ∀ t, Part.unclosed t ∉ parts) {t : Token}
    (member : Part.single t ∈ parts) (isVariable : t.kind = .variable) :
    ∃ w, resolve lookup t.value = .ok w ∧ w.made.toList <:+: d.text.toList := by
  induction parts generalizing looped d with
  | nil => cases member
  | cons part parts ih =>
    have closed' (u : Token) : Part.unclosed u ∉ parts := fun inside =>
      closed u (List.mem_cons_of_mem part inside)
    have behind {text : String} {warnings : List Warning} {looped : Bool}
        (later : Part.single t ∈ parts)
        (given : (do return (← ofParts lookup looped parts).prepend text warnings) = .ok d) :
        ∃ w, resolve lookup t.value = .ok w ∧ w.made.toList <:+: d.text.toList := by
      obtain ⟨rest, tail, rfl⟩ := exists_of_prepend given
      obtain ⟨w, resolved, inside⟩ := ih tail closed' later
      exact ⟨w, resolved, infix_prepend inside text warnings⟩
    rcases List.mem_cons.mp member with rfl | later
    · simp only [ofParts, isVariable] at given
      obtain ⟨w, resolved, given⟩ := bind_eq_ok.mp given
      obtain ⟨rest, -, rfl⟩ := exists_of_prepend given
      refine ⟨w, resolved, ?_⟩
      rw [prepend, String.toList_append]
      exact (List.prefix_append _ _).isInfix
    · cases part with
      | single u =>
        simp only [ofParts] at given
        split at given
        · obtain ⟨w, -, given⟩ := bind_eq_ok.mp given
          exact behind later given
        · exact behind later given
        · exact behind later given
      | stray u => exact behind later given
      | unclosed u => exact absurd List.mem_cons_self (closed u)
      | block opener body closer =>
        simp only [ofParts] at given
        split at given
        · exact behind later given
        · obtain ⟨w, -, given⟩ := bind_eq_ok.mp given
          obtain ⟨rest, tail, made⟩ := bind_eq_ok.mp given
          rw [return_eq_ok] at made
          subst made
          obtain ⟨v, resolved, inside⟩ := ih tail closed' later
          exact ⟨v, resolved, infix_prepend inside _ w.warnings⟩

end Draft

/-- A variable that a shape without open loops lists is filled in. -/
theorem Expansion.exists_resolved_of_mem {lookup : Lookup} {content name : String} {e : Expansion}
    (given : Expansion.ofContent lookup content = .ok e)
    (closed : (Shape.ofContent content).unterminatedLoops = [])
    (listed : name ∈ (Shape.ofContent content).variableNames) :
    ∃ w, resolve lookup name = .ok w ∧ w.made.toList <:+: e.text.toList := by
  obtain ⟨d, drafted, rfl⟩ := map_eq_ok.mp given
  obtain ⟨t, member, isVariable, rfl⟩ := Shape.mem_variableNames_iff.mp listed
  exact Draft.exists_resolved_of_mem drafted (Shape.unclosed_not_mem closed) member isVariable

end InvoiceForms
