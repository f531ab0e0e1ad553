import InvoiceForms.Proofs.Template.Parts
import InvoiceForms.Template.Section

/-!
# Sections come back

A section that data describes comes back from its document, given its type tag from outside: the
variant is the same, texts are trimmed already, and a section of unknown type keeps all of its
fields. The members of objects may be arranged on the way; then content, columns and unknown fields
are arranged in what comes back.
-/

namespace InvoiceForms

open InvoiceForms.Number InvoiceForms.Record InvoiceForms.Results InvoiceForms.Text

variable {σ : Arrangement}

/-- A variant with its columns or unknown fields arranged. -/
def Variant.arrange (σ : Arrangement) : Variant → Variant
  | .plain kind => .plain kind
  | .table columns => .table (σ.of columns)
  | .unsupported type extras =>
    .unsupported type (σ.of (Entries.mapValues (Value.arrange σ) extras))

/-- A section with its content, its columns and its unknown fields arranged. -/
def Section.arrange (σ : Arrangement) (s : Section) : Section :=
  { s with variant := s.variant.arrange σ, content := σ.of s.content }

theorem Column.closed : Column.schema.Closed := ⟨by decide, rfl, rfl, fun _ => rfl⟩

theorem Column.stable : Column.schema.codec.Stable σ id :=
  Column.closed.codec_stable {
    all := [
      .optional Codec.bool_stable (by simp) ⟨.bool true, rfl⟩,
      .optional (Codec.double_stable (.upTo 100)) (by simp)
        (by exact Codec.double_reads (by decide +kernel)),
      .optional (optionalText_stable 128) (by simp) ⟨.null, rfl⟩]
    fields := rfl
    start := trivial
    rebuild := fun _ _ => by simp only [List.foldl_cons, List.foldl_nil, Slot.optional, id_eq]
    apart := by
      simp only [List.map_cons, List.map_nil, List.pairwise_cons, List.forall_mem_cons,
        List.not_mem_nil, false_implies, implies_true, and_true, List.Pairwise.nil]
      and_intros <;> exact Slot.apart_of_free rfl rfl (fun _ _ => ⟨rfl, rfl⟩) fun _ _ => ⟨rfl, rfl⟩ }

theorem columns_stable : (Codec.mapping Column.schema.codec).Stable σ σ.of := by
  have stable : (Codec.mapping Column.schema.codec).Stable σ fun m => σ.of (Entries.mapValues id m) :=
    Codec.mapping_stable Column.stable
  simpa only [Entries.mapValues_id] using stable

theorem content_stable : (Codec.mapping (.text .free)).Stable σ σ.of := by
  have stable : (Codec.mapping (.text .free)).Stable σ fun m => σ.of (Entries.mapValues id m) :=
    Codec.mapping_stable (Codec.text_stable .free)
  simpa only [Entries.mapValues_id] using stable

namespace Section

@[simp] theorem type_arrange (σ : Arrangement) (s : Section) : (s.arrange σ).type = s.type := by
  obtain ⟨variant, _, _, _⟩ := s
  cases variant <;> rfl

/-- The slot of a fixed type tag, in sections of a type. -/
def tagSlot {kept : Section → Prop} {blank : Section} (tag : String) (start : kept blank)
    (fixed : ∀ s, kept s → s.type = tag) : Slot σ kept blank where
  field := fixedTag tag
  back _ s := s
  own v change s taken held := by
    obtain ⟨t, -, rfl⟩ := map_eq_ok.mp taken
    refine ⟨held, map_eq_ok.mpr ⟨tag, ?_, rfl⟩⟩
    have written : (fixedTag tag).dump .keys s = .text tag := congrArg Json.text (fixed s held)
    show (Codec.choice [tag] id).read (Value.ofJson (Json.arrange σ ((fixedTag tag).dump .keys s))) = _
    rw [written]
    simp [Codec.choice, Json.arrange, Value.ofJson]
  absent _ := by
    refine map_eq_ok.mpr ⟨tag, ?_, rfl⟩
    have written : (fixedTag tag).dump .keys blank = .text tag := congrArg Json.text (fixed blank start)
    show (Codec.choice [tag] id).read (Value.ofJson (Json.arrange σ ((fixedTag tag).dump .keys blank))) = _
    rw [written]
    simp [Codec.choice, Json.arrange, Value.ofJson]
  explained required := by cases required

/-- The slots of sections of a plain kind. -/
def plainSlots (σ : Arrangement) (kind : PlainKind) :
    (plainSchema kind).Slots σ (fun s => s.variant = .plain kind) (arrange σ) where
  all := [
    tagSlot kind.tag rfl fun s held => by rw [type, held],
    .optional Codec.bool_stable (fun _ _ held => by exact ⟨held, rfl⟩) (by exact ⟨.bool true, rfl⟩),
    .optional (Codec.int_stable .none) (fun _ _ held => by exact ⟨held, rfl⟩)
      (by exact ⟨.int 0, rfl⟩),
    .optional content_stable (fun _ _ held => by exact ⟨held, rfl⟩) (by exact ⟨.mapping [], rfl⟩)]
  fields := rfl
  start := rfl
  apart := by
    simp only [List.map_cons, List.map_nil, List.pairwise_cons, List.forall_mem_cons,
      List.not_mem_nil, false_implies, implies_true, and_true, List.Pairwise.nil]
    and_intros <;> exact Slot.apart_of_free rfl rfl (fun _ _ => ⟨rfl, rfl⟩) fun _ _ => ⟨rfl, rfl⟩
  rebuild s held := by
    simp only [List.foldl_cons, List.foldl_nil, Slot.optional, tagSlot, id_eq, plainSchema, arrange,
      held, Variant.arrange]

/-- The slots of tables. -/
def tableSlots (σ : Arrangement) :
    tableSchema.Slots σ (fun s => ∃ columns, s.variant = .table columns) (arrange σ) where
  all := [
    tagSlot SectionKind.productTable.tag ⟨[], rfl⟩ fun s ⟨_, held⟩ => by rw [type, held],
    .optional Codec.bool_stable (fun _ _ held => by exact ⟨held, rfl⟩) (by exact ⟨.bool true, rfl⟩),
    .optional (Codec.int_stable .none) (fun _ _ held => by exact ⟨held, rfl⟩)
      (by exact ⟨.int 0, rfl⟩),
    .optional content_stable (fun _ _ held => by exact ⟨held, rfl⟩) (by exact ⟨.mapping [], rfl⟩),
    .optional columns_stable
      (fun m s ⟨_, held⟩ => by
        simp only [withColumns, columns, held]
        exact ⟨⟨m, rfl⟩, trivial⟩)
      (by exact ⟨.mapping [], rfl⟩)]
  fields := rfl
  start := ⟨[], rfl⟩
  apart := by
    simp only [List.map_cons, List.map_nil, List.pairwise_cons, List.forall_mem_cons,
      List.not_mem_nil, false_implies, implies_true, and_true, List.Pairwise.nil]
    and_intros <;> refine Slot.apart_of_free rfl rfl ?_ ?_
    all_goals
      rintro x ⟨variant, _, _, _⟩
      cases variant <;> exact ⟨rfl, rfl⟩
  rebuild s := by
    rintro ⟨m, held⟩
    simp only [List.foldl_cons, List.foldl_nil, Slot.optional, tagSlot, id_eq, tableSchema, arrange,
      held, Variant.arrange, withColumns, columns]

/-- The slots of sections of unknown type. -/
def unsupportedSlots (σ : Arrangement) :
    unsupportedSchema.Slots σ (fun s => ∃ type extras, s.variant = .unsupported type extras)
      (fun s => { arrange σ s with variant := .unsupported s.type [] }) where
  all := [
    .mandatory (Codec.text_stable .free)
      (fun t s ⟨_, extras, held⟩ => by
        simp only [withType, type, held]
        exact ⟨⟨t, extras, rfl⟩, trivial⟩)
      (Codec.text_explained .free),
    .optional Codec.bool_stable (fun _ _ held => by exact ⟨held, rfl⟩) (by exact ⟨.bool true, rfl⟩),
    .optional (Codec.int_stable .none) (fun _ _ held => by exact ⟨held, rfl⟩)
      (by exact ⟨.int 0, rfl⟩),
    .optional content_stable (fun _ _ held => by exact ⟨held, rfl⟩) (by exact ⟨.mapping [], rfl⟩)]
  fields := rfl
  start := ⟨"", [], rfl⟩
  apart := by
    simp only [List.map_cons, List.map_nil, List.pairwise_cons, List.forall_mem_cons,
      List.not_mem_nil, false_implies, implies_true, and_true, List.Pairwise.nil]
    and_intros <;> refine Slot.apart_of_free rfl rfl ?_ ?_
    all_goals
      rintro x ⟨variant, _, _, _⟩
      cases variant <;> exact ⟨rfl, rfl⟩
  rebuild s := by
    rintro ⟨type, extras, held⟩
    simp only [List.foldl_cons, List.foldl_nil, Slot.optional, Slot.mandatory, id_eq,
      unsupportedSchema, arrange, withType]

end Section

end InvoiceForms
