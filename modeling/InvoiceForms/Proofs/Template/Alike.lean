import InvoiceForms.Proofs.Template.Documents

/-!
# Templates up to order

Two templates are alike when they are the same up to the order of their sections and of the keys in
them. Sorting what is sorted changes nothing, so an accepted template is alike to its sorted form.
-/

namespace InvoiceForms

namespace Section

variable {σ : Arrangement} {p : Json → Bool} {s : Section}

theorem arrange_arrange (data : ∀ e ∈ s.extras, e.2.IsData p) :
    (s.arrange σ).arrange σ = s.arrange σ := by
  obtain ⟨variant, enabled, position, content⟩ := s
  unfold arrange
  rw [σ.of_of]
  cases variant with
  | plain kind => rfl
  | table columns =>
    dsimp only [Variant.arrange]
    rw [σ.of_of]
  | unsupported type extras =>
    have within : Entries.mapValues (Value.arrange σ) (Entries.mapValues (Value.arrange σ) extras) =
        Entries.mapValues (Value.arrange σ) extras := by
      rw [Entries.mapValues_mapValues]
      exact Entries.mapValues_congr fun e member => (data e member).arrange_arrange σ
    dsimp only [Variant.arrange]
    rw [σ.of_mapValues_of, within]

end Section

namespace Template

variable {σ : Arrangement} {p : Json → Bool} {t : Template}

/-- The sections of an accepted template are in their order once they are arranged. -/
theorem Accepted.arrange_arrange (accepted : t.Accepted σ p) :
    (t.arrange σ).arrange σ = t.arrange σ := by
  have again : ((σ.of (t.sections.map fun s => (s.type, s.arrange σ))).map (·.2)).map
      (fun s => (s.type, s.arrange σ)) = Entries.mapValues (Section.arrange σ)
        (σ.of (t.sections.map fun s => (s.type, s.arrange σ))) := by
    rw [List.map_map, Entries.mapValues]
    refine List.map_congr_left fun e member => ?_
    obtain ⟨s, -, rfl⟩ := List.mem_map.mp (σ.mem_of.mp member)
    exact Prod.ext (s.type_arrange σ) rfl
  have still : Entries.mapValues (Section.arrange σ) (t.sections.map fun s => (s.type, s.arrange σ)) =
      t.sections.map fun s => (s.type, s.arrange σ) := by
    rw [Entries.mapValues, List.map_map]
    refine List.map_congr_left fun s member => Prod.ext rfl ?_
    exact Section.arrange_arrange (accepted.sections s member).data
  unfold arrange
  dsimp only
  rw [again, σ.of_mapValues_of, still]

/-- Whether two templates are the same up to the order of their sections and of the keys in them. -/
def Alike (t u : Template) : Prop := t.arrange .sorted = u.arrange .sorted

theorem Alike.refl (t : Template) : t.Alike t := rfl

/-- An accepted template is alike to the one that its document gives back. -/
theorem Accepted.alike_sorted (accepted : t.Accepted .sorted p) (flag : Bool) :
    (t.sorted flag).Alike { t with isDefault := flag } := by
  have same : ({ (t.arrange .sorted).arrange .sorted with isDefault := flag } : Template) =
      { t.arrange .sorted with isDefault := flag } := by rw [accepted.arrange_arrange]
  exact same

end Template

end InvoiceForms
