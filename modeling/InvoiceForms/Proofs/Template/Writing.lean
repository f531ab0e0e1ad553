import InvoiceForms.Proofs.Record.Writing
import InvoiceForms.Proofs.Template.Documents

/-!
# Templates that can be written

A template that JSON data describes holds nothing that cannot be written, and its document repeats no
key when the data does not.
-/

namespace InvoiceForms

open InvoiceForms.Record

theorem optionalText_writes (most : Nat) (x : Option String) : (optionalText most).Writes x :=
  Codec.optional_writes (Codec.text_writes _) x

theorem Address.writes (x : Address) : Address.schema.codec.Writes x := by
  apply Address.closed.writes
  simp only [Address.schema, List.forall_mem_cons, List.not_mem_nil, false_implies, implies_true,
    and_true]
  and_intros <;> exact optionalText_writes _ _

theorem Contact.writes (x : Contact) : Contact.schema.codec.Writes x := by
  apply Contact.closed.writes
  simp only [Contact.schema, List.forall_mem_cons, List.not_mem_nil, false_implies, implies_true,
    and_true]
  and_intros <;> exact optionalText_writes _ _

theorem TaxInfo.writes (x : TaxInfo) : TaxInfo.schema.codec.Writes x := by
  apply TaxInfo.closed.writes
  simp only [TaxInfo.schema, List.forall_mem_cons, List.not_mem_nil, false_implies, implies_true,
    and_true]
  and_intros <;> exact optionalText_writes _ _

theorem BankDetails.writes (x : BankDetails) : BankDetails.schema.codec.Writes x := by
  apply BankDetails.closed.writes
  simp only [BankDetails.schema, List.forall_mem_cons, List.not_mem_nil, false_implies, implies_true,
    and_true]
  and_intros <;> exact optionalText_writes _ _

theorem Logo.writes (x : Logo) : Logo.schema.codec.Writes x := by
  apply Logo.closed.writes
  simp only [Logo.schema, List.forall_mem_cons, List.not_mem_nil, false_implies, implies_true,
    and_true]
  exact ⟨⟨rfl, rfl⟩, optionalText_writes _ _, ⟨rfl, rfl⟩, ⟨rfl, rfl⟩⟩

theorem Company.writes (x : Company) : Company.schema.codec.Writes x := by
  apply Company.closed.writes
  simp only [Company.schema, List.forall_mem_cons, List.not_mem_nil, false_implies, implies_true,
    and_true]
  exact ⟨⟨rfl, rfl⟩, Address.writes _, Contact.writes _, TaxInfo.writes _, BankDetails.writes _,
    Logo.writes _, ⟨rfl, rfl⟩, ⟨rfl, rfl⟩⟩

theorem Margins.writes (x : Margins) : Margins.schema.codec.Writes x := by
  apply Margins.closed.writes
  simp only [Margins.schema, List.forall_mem_cons, List.not_mem_nil, false_implies, implies_true,
    and_true]
  and_intros <;> exact ⟨rfl, rfl⟩

theorem Fonts.writes (x : Fonts) : Fonts.schema.codec.Writes x := by
  apply Fonts.closed.writes
  simp only [Fonts.schema, List.forall_mem_cons, List.not_mem_nil, false_implies, implies_true,
    and_true]
  and_intros <;> exact ⟨rfl, rfl⟩

theorem Colors.writes (x : Colors) : Colors.schema.codec.Writes x := by
  apply Colors.closed.writes
  simp only [Colors.schema, List.forall_mem_cons, List.not_mem_nil, false_implies, implies_true,
    and_true]
  and_intros <;> exact ⟨rfl, rfl⟩

theorem Layout.writes (x : Layout) : Layout.schema.codec.Writes x := by
  apply Layout.closed.writes
  simp only [Layout.schema, List.forall_mem_cons, List.not_mem_nil, false_implies, implies_true,
    and_true]
  exact ⟨⟨rfl, rfl⟩, Margins.writes _, Fonts.writes _, Colors.writes _⟩

theorem Column.writes (x : Column) : Column.schema.codec.Writes x := by
  apply Column.closed.writes
  simp only [Column.schema, List.forall_mem_cons, List.not_mem_nil, false_implies, implies_true,
    and_true]
  exact ⟨⟨rfl, rfl⟩, ⟨rfl, rfl⟩, optionalText_writes _ _⟩

namespace Section

theorem common_writes {s : Section} (distinct : s.Distinct) : ∀ f ∈ commonFields, f.Writes s := by
  simp only [commonFields, List.forall_mem_cons, List.not_mem_nil, false_implies, implies_true,
    and_true]
  exact ⟨⟨rfl, rfl⟩, ⟨rfl, rfl⟩, Codec.mapping_writes distinct.1 fun _ _ => Codec.text_writes _ _⟩

/-- The fields of a section are written. -/
theorem fields_write {s : Section} (distinct : s.Distinct) : ∀ f ∈ s.schema.fields, f.Writes s := by
  unfold schema
  split
  · exact List.forall_mem_cons.mpr ⟨⟨rfl, rfl⟩, common_writes distinct⟩
  · refine List.forall_mem_cons.mpr ⟨⟨rfl, rfl⟩, List.forall_mem_append.mpr
      ⟨common_writes distinct, List.forall_mem_singleton.mpr ?_⟩⟩
    exact Codec.mapping_writes distinct.2 fun _ _ => Column.writes _
  · exact List.forall_mem_cons.mpr ⟨⟨rfl, rfl⟩, common_writes distinct⟩

variable {σ : Arrangement} {s : Section}

theorem extrasOf_schema (s : Section) : s.schema.extrasOf s = s.extras := by
  obtain ⟨variant, _, _, _⟩ := s
  cases variant <;> rfl

/-- What of a section no field takes is written. -/
theorem Accepted.extras_write (accepted : s.Accepted σ Json.distinctHere) :
    ∀ e ∈ s.schema.extrasOf s, Written e.2 e.2.toJson := by
  intro e member
  rw [extrasOf_schema] at member
  have data := accepted.data e member
  exact ⟨data.undecodable?, data.toJson⟩

theorem Accepted.writes (accepted : s.Accepted σ Json.distinctHere) : s.schema.codec.Writes s :=
  Schema.writes_of_fields accepted.distinctMembers (fields_write accepted.distinct)
    accepted.extras_write

/-- The document of a section repeats no key. -/
theorem Accepted.hasDistinctKeys (accepted : s.Accepted σ Json.distinctHere) :
    s.toDocument.hasDistinctKeys = true := by
  refine Json.everywhere_object.mpr ⟨decide_eq_true ?_, ?_⟩
  · have keys := accepted.distinctMembers
    rw [members_eq] at keys
    exact (List.nodup_cons.mp keys).2
  · intro e member
    refine Schema.distinct_of_mem_members (fields_write accepted.distinct) accepted.extras_write
      (r := s) ?_
    rw [members_eq]
    exact List.mem_cons_of_mem _ member

end Section

namespace Template

variable {σ : Arrangement} {t : Template}

/-- A template of JSON data holds nothing that cannot be written. -/
theorem Accepted.undecodable? (accepted : t.Accepted σ Json.distinctHere) :
    schema.undecodable? t = none := by
  have sections : (sectionsCodec.toValue t.sections).undecodable? = none := by
    show Value.itemsUndecodable? _ = none
    rw [Value.itemsUndecodable?_eq_none_iff]
    intro v member
    obtain ⟨s, inside, rfl⟩ := List.mem_map.mp member
    exact (accepted.sections s inside).writes.decodable
  show ((Value.entriesUndecodable? _).orElse fun _ => Value.entriesUndecodable? _) = none
  rw [Option.orElse_eq_or, Option.or_eq_none_iff, Value.entriesUndecodable?_eq_none_iff,
    Value.entriesUndecodable?_eq_none_iff]
  refine ⟨?_, nofun⟩
  simp only [schema, List.map_cons, List.map_nil, List.forall_mem_cons, List.not_mem_nil,
    false_implies, implies_true, and_true]
  exact ⟨rfl, rfl, rfl, (Company.writes t.company).decodable, (Layout.writes t.layout).decodable,
    sections⟩

/-- The document of a template repeats no key. -/
theorem Accepted.hasDistinctKeys (accepted : t.Accepted σ Json.distinctHere) :
    t.toDocument.hasDistinctKeys = true := by
  have sections : t.sectionsDocument.hasDistinctKeys = true := by
    refine Json.everywhere_object.mpr ⟨decide_eq_true ?_, ?_⟩
    · rw [Entries.keys, List.map_map]
      exact accepted.distinct
    · intro e member
      obtain ⟨s, inside, rfl⟩ := List.mem_map.mp member
      exact (accepted.sections s inside).hasDistinctKeys
  rw [toDocument_eq accepted.distinct]
  refine Json.everywhere_object.mpr ⟨rfl, ?_⟩
  simp only [List.forall_mem_cons, List.not_mem_nil, false_implies, implies_true, and_true]
  exact ⟨rfl, rfl, (Company.writes t.company).distinct, (Layout.writes t.layout).distinct, sections⟩

end Template

end InvoiceForms
