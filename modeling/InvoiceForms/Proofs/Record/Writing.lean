import InvoiceForms.Proofs.Record.Records

/-!
# Content that can be written

Content is written without a fault when it holds no bytes that are no text, and it can be read again
when no object in its written form repeats a key. Records have both from their fields.
-/

namespace InvoiceForms.Record

/-- A value that holds no bytes that are no text, and a written form that repeats no key. -/
structure Written (v : Value) (j : Json) : Prop where
  decodable : v.undecodable? = none
  distinct : j.hasDistinctKeys = true

/-- Content that is written in this way. -/
def Codec.Writes {α : Type} (c : Codec α) (x : α) : Prop := Written (c.toValue x) (c.dump .keys x)

/-- A field that is written in this way. -/
def RecordField.Writes {ρ : Type} (f : RecordField ρ) (r : ρ) : Prop :=
  Written (f.toValue r) (f.dump .keys r)

namespace Codec

variable {α : Type}

theorem optional_writes {c : Codec α} (content : ∀ x, c.Writes x) (x : Option α) :
    (optional c).Writes x := by
  cases x with
  | none => exact ⟨rfl, rfl⟩
  | some x => exact content x

theorem text_writes (rule : TextRule) (s : String) : (text rule).Writes s := ⟨rfl, rfl⟩

/-- Entries with keys of their own are written when their values are. -/
theorem mapping_writes {c : Codec α} {m : Entries α} (distinct : (Entries.keys m).Nodup)
    (values : ∀ e ∈ m, c.Writes e.2) : (mapping c).Writes m := by
  constructor
  · show Value.entriesUndecodable? (Entries.mapValues c.toValue m) = none
    rw [Value.entriesUndecodable?_eq_none_iff]
    intro e member
    obtain ⟨d, inside, rfl⟩ := List.mem_map.mp member
    exact (values d inside).decodable
  · refine Json.everywhere_object.mpr ⟨decide_eq_true ?_, ?_⟩
    · rw [Entries.keys_mapValues]
      exact distinct
    · intro e member
      obtain ⟨d, inside, rfl⟩ := List.mem_map.mp member
      exact (values d inside).distinct

end Codec

namespace Schema

variable {ρ : Type} {s : Schema ρ} {r : ρ}

/-- The members of a record whose fields and other entries are written repeat no key inside. -/
theorem distinct_of_mem_members (fields : ∀ f ∈ s.fields, f.Writes r)
    (extras : ∀ e ∈ s.extrasOf r, Written e.2 e.2.toJson) {e : String × Json}
    (member : e ∈ s.members .keys r) : e.2.hasDistinctKeys = true := by
  rcases List.mem_append.mp member with isField | isExtra
  · obtain ⟨f, inside, rfl⟩ := List.mem_map.mp isField
    exact (fields f inside).distinct
  · obtain ⟨d, inside, rfl⟩ := List.mem_map.mp isExtra
    exact (extras d inside).distinct

/-- A record is written when its fields and its other entries are, under keys of their own. -/
theorem writes_of_fields (distinct : (Entries.keys (s.members .keys r)).Nodup)
    (fields : ∀ f ∈ s.fields, f.Writes r) (extras : ∀ e ∈ s.extrasOf r, Written e.2 e.2.toJson) :
    s.codec.Writes r := by
  constructor
  · show ((Value.entriesUndecodable? _).orElse fun _ => Value.entriesUndecodable? _) = none
    rw [Option.orElse_eq_or, Option.or_eq_none_iff, Value.entriesUndecodable?_eq_none_iff,
      Value.entriesUndecodable?_eq_none_iff]
    refine ⟨?_, fun e member => (extras e member).decodable⟩
    intro e member
    obtain ⟨f, inside, rfl⟩ := List.mem_map.mp member
    exact (fields f inside).decodable
  · exact Json.everywhere_object.mpr ⟨decide_eq_true distinct,
      fun e member => distinct_of_mem_members fields extras member⟩

/-- A closed record is written when its fields are. -/
theorem Closed.writes (closed : s.Closed) (fields : ∀ f ∈ s.fields, f.Writes r) :
    s.codec.Writes r := by
  refine writes_of_fields ?_ fields ?_
  · rw [closed.keys_members]
    exact closed.distinct
  · rw [extrasOf, closed.forbids]
    exact List.forall_mem_nil _

end Schema

end InvoiceForms.Record
