import InvoiceForms.Proofs.Record.Records
import InvoiceForms.Template.Company
import InvoiceForms.Template.Layout

/-!
# Companies and layouts come back

The parts of a template that are closed records come back from their written form as they are,
however the members of objects are arranged.
-/

namespace InvoiceForms

open InvoiceForms.Number InvoiceForms.Record InvoiceForms.Text

variable {σ : Arrangement}

theorem optionalText_stable (most : Nat) : (optionalText most).Stable σ id := by
  have stable : (optionalText most).Stable σ (Option.map id) :=
    Codec.optional_stable (Codec.text_stable (.upTo most)) fun _ => nofun
  rwa [Option.map_id] at stable

theorem Address.closed : Address.schema.Closed := ⟨by decide, rfl, rfl, fun _ => rfl⟩

theorem Address.reads_blank : ∃ v, Address.schema.codec.read v = .ok {} :=
  Address.closed.reads_blank (by simp [Address.schema, RecordField.optional, RecordField.make])

theorem Address.stable : Address.schema.codec.Stable σ id :=
  Address.closed.codec_stable {
    all := [
      .optional (optionalText_stable 256) (by simp) ⟨.null, rfl⟩,
      .optional (optionalText_stable 32) (by simp) ⟨.null, rfl⟩,
      .optional (optionalText_stable 128) (by simp) ⟨.null, rfl⟩,
      .optional (optionalText_stable 128) (by simp) ⟨.text "Deutschland", rfl⟩]
    fields := rfl
    start := trivial
    rebuild := fun _ _ => by simp only [List.foldl_cons, List.foldl_nil, Slot.optional, id_eq]
    apart := by
      simp only [List.map_cons, List.map_nil, List.pairwise_cons, List.forall_mem_cons,
        List.not_mem_nil, false_implies, implies_true, and_true, List.Pairwise.nil]
      and_intros <;> exact Slot.apart_of_free rfl rfl (fun _ _ => ⟨rfl, rfl⟩) fun _ _ => ⟨rfl, rfl⟩ }

theorem Contact.closed : Contact.schema.Closed := ⟨by decide, rfl, rfl, fun _ => rfl⟩

theorem Contact.reads_blank : ∃ v, Contact.schema.codec.read v = .ok {} :=
  Contact.closed.reads_blank (by simp [Contact.schema, RecordField.optional, RecordField.make])

theorem Contact.stable : Contact.schema.codec.Stable σ id :=
  Contact.closed.codec_stable {
    all := [
      .optional (optionalText_stable 64) (by simp) ⟨.null, rfl⟩,
      .optional (optionalText_stable 256) (by simp) ⟨.null, rfl⟩,
      .optional (optionalText_stable 256) (by simp) ⟨.null, rfl⟩]
    fields := rfl
    start := trivial
    rebuild := fun _ _ => by simp only [List.foldl_cons, List.foldl_nil, Slot.optional, id_eq]
    apart := by
      simp only [List.map_cons, List.map_nil, List.pairwise_cons, List.forall_mem_cons,
        List.not_mem_nil, false_implies, implies_true, and_true, List.Pairwise.nil]
      and_intros <;> exact Slot.apart_of_free rfl rfl (fun _ _ => ⟨rfl, rfl⟩) fun _ _ => ⟨rfl, rfl⟩ }

theorem TaxInfo.closed : TaxInfo.schema.Closed := ⟨by decide, rfl, rfl, fun _ => rfl⟩

theorem TaxInfo.reads_blank : ∃ v, TaxInfo.schema.codec.read v = .ok {} :=
  TaxInfo.closed.reads_blank (by simp [TaxInfo.schema, RecordField.optional, RecordField.make])

theorem TaxInfo.stable : TaxInfo.schema.codec.Stable σ id :=
  TaxInfo.closed.codec_stable {
    all := [
      .optional (optionalText_stable 64) (by simp) ⟨.null, rfl⟩,
      .optional (optionalText_stable 64) (by simp) ⟨.null, rfl⟩,
      .optional (optionalText_stable 256) (by simp) ⟨.null, rfl⟩,
      .optional (optionalText_stable 128) (by simp) ⟨.null, rfl⟩,
      .optional (optionalText_stable 256) (by simp) ⟨.null, rfl⟩,
      .optional (optionalText_stable 256) (by simp) ⟨.null, rfl⟩]
    fields := rfl
    start := trivial
    rebuild := fun _ _ => by simp only [List.foldl_cons, List.foldl_nil, Slot.optional, id_eq]
    apart := by
      simp only [List.map_cons, List.map_nil, List.pairwise_cons, List.forall_mem_cons,
        List.not_mem_nil, false_implies, implies_true, and_true, List.Pairwise.nil]
      and_intros <;> exact Slot.apart_of_free rfl rfl (fun _ _ => ⟨rfl, rfl⟩) fun _ _ => ⟨rfl, rfl⟩ }

theorem BankDetails.closed : BankDetails.schema.Closed := ⟨by decide, rfl, rfl, fun _ => rfl⟩

theorem BankDetails.reads_blank : ∃ v, BankDetails.schema.codec.read v = .ok {} :=
  BankDetails.closed.reads_blank (by simp [BankDetails.schema, RecordField.optional, RecordField.make])

theorem BankDetails.stable : BankDetails.schema.codec.Stable σ id :=
  BankDetails.closed.codec_stable {
    all := [
      .optional (optionalText_stable 256) (by simp) ⟨.null, rfl⟩,
      .optional (optionalText_stable 64) (by simp) ⟨.null, rfl⟩,
      .optional (optionalText_stable 32) (by simp) ⟨.null, rfl⟩]
    fields := rfl
    start := trivial
    rebuild := fun _ _ => by simp only [List.foldl_cons, List.foldl_nil, Slot.optional, id_eq]
    apart := by
      simp only [List.map_cons, List.map_nil, List.pairwise_cons, List.forall_mem_cons,
        List.not_mem_nil, false_implies, implies_true, and_true, List.Pairwise.nil]
      and_intros <;> exact Slot.apart_of_free rfl rfl (fun _ _ => ⟨rfl, rfl⟩) fun _ _ => ⟨rfl, rfl⟩ }

theorem Logo.closed : Logo.schema.Closed := ⟨by decide, rfl, rfl, fun _ => rfl⟩

theorem Logo.reads_blank : ∃ v, Logo.schema.codec.read v = .ok {} :=
  Logo.closed.reads_blank (by simp [Logo.schema, RecordField.optional, RecordField.make])

theorem Logo.stable : Logo.schema.codec.Stable σ id :=
  Logo.closed.codec_stable {
    all := [
      .optional Codec.bool_stable (by simp) ⟨.bool false, rfl⟩,
      .optional (optionalText_stable 2048) (by simp) ⟨.null, rfl⟩,
      .optional (Codec.int_stable .positive) (by simp) ⟨.int 120, rfl⟩,
      .optional (Codec.int_stable .positive) (by simp) ⟨.int 60, rfl⟩]
    fields := rfl
    start := trivial
    rebuild := fun _ _ => by simp only [List.foldl_cons, List.foldl_nil, Slot.optional, id_eq]
    apart := by
      simp only [List.map_cons, List.map_nil, List.pairwise_cons, List.forall_mem_cons,
        List.not_mem_nil, false_implies, implies_true, and_true, List.Pairwise.nil]
      and_intros <;> exact Slot.apart_of_free rfl rfl (fun _ _ => ⟨rfl, rfl⟩) fun _ _ => ⟨rfl, rfl⟩ }

theorem Company.closed : Company.schema.Closed := ⟨by decide, rfl, rfl, fun _ => rfl⟩

theorem Company.stable : Company.schema.codec.Stable σ id :=
  Company.closed.codec_stable {
    all := [
      .mandatory (Codec.text_stable (.from1To 256)) (by simp) (Codec.text_explained (.from1To 256)),
      .optional Address.stable (by simp) (by exact Address.reads_blank),
      .optional Contact.stable (by simp) (by exact Contact.reads_blank),
      .optional TaxInfo.stable (by simp) (by exact TaxInfo.reads_blank),
      .optional BankDetails.stable (by simp) (by exact BankDetails.reads_blank),
      .optional Logo.stable (by simp) (by exact Logo.reads_blank),
      .optional Codec.bool_stable (by simp) ⟨.bool false, rfl⟩,
      .optional (Codec.int_stable .nonNegative) (by simp) ⟨.int 14, rfl⟩]
    fields := rfl
    start := trivial
    rebuild := fun _ _ => by simp only [List.foldl_cons, List.foldl_nil, Slot.optional, Slot.mandatory, id_eq]
    apart := by
      simp only [List.map_cons, List.map_nil, List.pairwise_cons, List.forall_mem_cons,
        List.not_mem_nil, false_implies, implies_true, and_true, List.Pairwise.nil]
      and_intros <;> exact Slot.apart_of_free rfl rfl (fun _ _ => ⟨rfl, rfl⟩) fun _ _ => ⟨rfl, rfl⟩ }

theorem Margins.closed : Margins.schema.Closed := ⟨by decide, rfl, rfl, fun _ => rfl⟩

theorem Margins.reads_blank : ∃ v, Margins.schema.codec.read v = .ok {} :=
  Margins.closed.reads_blank (by simp [Margins.schema, RecordField.optional, RecordField.make])

theorem Margins.stable : Margins.schema.codec.Stable σ id :=
  Margins.closed.codec_stable {
    all := [
      .optional (Codec.double_stable .nonNegative) (by simp) (by exact Codec.double_reads (by decide +kernel)),
      .optional (Codec.double_stable .nonNegative) (by simp) (by exact Codec.double_reads (by decide +kernel)),
      .optional (Codec.double_stable .nonNegative) (by simp) (by exact Codec.double_reads (by decide +kernel)),
      .optional (Codec.double_stable .nonNegative) (by simp) (by exact Codec.double_reads (by decide +kernel))]
    fields := rfl
    start := trivial
    rebuild := fun _ _ => by simp only [List.foldl_cons, List.foldl_nil, Slot.optional, id_eq]
    apart := by
      simp only [List.map_cons, List.map_nil, List.pairwise_cons, List.forall_mem_cons,
        List.not_mem_nil, false_implies, implies_true, and_true, List.Pairwise.nil]
      and_intros <;> exact Slot.apart_of_free rfl rfl (fun _ _ => ⟨rfl, rfl⟩) fun _ _ => ⟨rfl, rfl⟩ }

theorem Fonts.closed : Fonts.schema.Closed := ⟨by decide, rfl, rfl, fun _ => rfl⟩

theorem Fonts.reads_blank : ∃ v, Fonts.schema.codec.read v = .ok {} :=
  Fonts.closed.reads_blank (by simp [Fonts.schema, RecordField.optional, RecordField.make])

theorem Fonts.stable : Fonts.schema.codec.Stable σ id :=
  Fonts.closed.codec_stable {
    all := [
      .optional (Codec.text_stable .free) (by simp) ⟨.text "Arial, sans-serif", rfl⟩,
      .optional (Codec.int_stable .positive) (by simp) ⟨.int 24, rfl⟩,
      .optional (Codec.int_stable .positive) (by simp) ⟨.int 18, rfl⟩,
      .optional (Codec.int_stable .positive) (by simp) ⟨.int 12, rfl⟩,
      .optional (Codec.int_stable .positive) (by simp) ⟨.int 10, rfl⟩]
    fields := rfl
    start := trivial
    rebuild := fun _ _ => by simp only [List.foldl_cons, List.foldl_nil, Slot.optional, id_eq]
    apart := by
      simp only [List.map_cons, List.map_nil, List.pairwise_cons, List.forall_mem_cons,
        List.not_mem_nil, false_implies, implies_true, and_true, List.Pairwise.nil]
      and_intros <;> exact Slot.apart_of_free rfl rfl (fun _ _ => ⟨rfl, rfl⟩) fun _ _ => ⟨rfl, rfl⟩ }

theorem isHexDigit_iff (c : Char) :
    isHexDigit c = true ↔ (48 ≤ c.toNat ∧ c.toNat ≤ 57) ∨ (97 ≤ c.toNat ∧ c.toNat ≤ 102) ∨
      (65 ≤ c.toNat ∧ c.toNat ≤ 70) := by
  have order (a b : Char) : a ≤ b ↔ a.toNat ≤ b.toNat := Iff.rfl
  simp only [isHexDigit, isAsciiDigit, Bool.or_eq_true, Bool.and_eq_true, decide_eq_true_eq, order,
    or_assoc]
  rfl

/-- A hexadecimal digit in lower case is one, too. -/
theorem isHexDigit_toLower {c : Char} (hex : isHexDigit c = true) : isHexDigit c.toLower = true := by
  rw [isHexDigit_iff] at hex ⊢
  rw [toNat_toLower]
  split <;> omega

/-- A color is a number sign and three or six hexadecimal digits. -/
theorem isColor_iff (cs : List Char) :
    isColor cs = true ↔ ∃ ds, cs = '#' :: ds ∧ (ds.length = 3 ∨ ds.length = 6) ∧
      ∀ d ∈ ds, isHexDigit d = true := by
  unfold isColor
  split
  · next ds => simp
  · next other =>
    constructor
    · exact nofun
    · rintro ⟨ds, rfl, -⟩
      exact absurd rfl (other ds)

/-- The characters of a color are no white space. -/
theorem isWhiteSpace_of_isColor {cs : List Char} (color : isColor cs = true) :
    ∀ c ∈ cs, isWhiteSpace c = false := by
  obtain ⟨ds, rfl, -, digits⟩ := (isColor_iff cs).mp color
  intro c member
  rcases List.mem_cons.mp member with rfl | member
  · rfl
  · have hex := (isHexDigit_iff c).mp (digits c member)
    rw [Bool.eq_false_iff]
    simp only [isWhiteSpace, ne_eq, Bool.or_eq_true, Bool.and_eq_true, decide_eq_true_eq, beq_iff_eq]
    omega

theorem isColor_map_toLower {cs : List Char} (color : isColor cs = true) :
    isColor (cs.map Char.toLower) = true := by
  obtain ⟨ds, rfl, length, digits⟩ := (isColor_iff cs).mp color
  refine (isColor_iff _).mpr ⟨ds.map Char.toLower, rfl, by simpa using length, ?_⟩
  intro d member
  obtain ⟨c, inside, rfl⟩ := List.mem_map.mp member
  exact isHexDigit_toLower (digits c inside)

/-- A color in lower case is its own normal form. -/
theorem Colors.codec_stable : Colors.codec.Stable σ id := by
  apply Codec.textVia_stable
  intro s t passed normal
  unfold normalColor at normal
  split at normal
  · next color =>
    cases normal
    have lowered : isColor (lowerAscii s).toList = true := by
      rw [lowerAscii, String.toList_ofList]
      exact isColor_map_toLower color
    constructor
    · have trimmed : trimWhiteSpace (lowerAscii s) = lowerAscii s := by
        rw [trimWhiteSpace, trim_of_not (isWhiteSpace_of_isColor lowered), String.ofList_toList]
      show TextRule.free.check (lowerAscii s) = _
      unfold TextRule.check
      simp [TextRule.free, trimmed]
    · rw [normalColor, if_pos lowered, lowerAscii_lowerAscii]
  · cases normal

theorem Colors.closed : Colors.schema.Closed := ⟨by decide, rfl, rfl, fun _ => rfl⟩

theorem Colors.reads_blank : ∃ v, Colors.schema.codec.read v = .ok {} :=
  Colors.closed.reads_blank (by simp [Colors.schema, RecordField.optional, RecordField.make])

theorem Colors.stable : Colors.schema.codec.Stable σ id :=
  Colors.closed.codec_stable {
    all := [
      .optional Colors.codec_stable (by simp) ⟨.text "#8b4a8b", rfl⟩,
      .optional Colors.codec_stable (by simp) ⟨.text "#f5f5f5", rfl⟩,
      .optional Colors.codec_stable (by simp) ⟨.text "#333333", rfl⟩,
      .optional Colors.codec_stable (by simp) ⟨.text "#4caf50", rfl⟩]
    fields := rfl
    start := trivial
    rebuild := fun _ _ => by simp only [List.foldl_cons, List.foldl_nil, Slot.optional, id_eq]
    apart := by
      simp only [List.map_cons, List.map_nil, List.pairwise_cons, List.forall_mem_cons,
        List.not_mem_nil, false_implies, implies_true, and_true, List.Pairwise.nil]
      and_intros <;> exact Slot.apart_of_free rfl rfl (fun _ _ => ⟨rfl, rfl⟩) fun _ _ => ⟨rfl, rfl⟩ }

theorem Layout.closed : Layout.schema.Closed := ⟨by decide, rfl, rfl, fun _ => rfl⟩

theorem Layout.reads_blank : ∃ v, Layout.schema.codec.read v = .ok {} :=
  Layout.closed.reads_blank (by simp [Layout.schema, RecordField.optional, RecordField.make])

theorem Layout.stable : Layout.schema.codec.Stable σ id :=
  Layout.closed.codec_stable {
    all := [
      .optional (Codec.choice_stable PageFormat.all PageFormat.word) (by simp) ⟨.text "A4", rfl⟩,
      .optional Margins.stable (by simp) (by exact Margins.reads_blank),
      .optional Fonts.stable (by simp) (by exact Fonts.reads_blank),
      .optional Colors.stable (by simp) (by exact Colors.reads_blank)]
    fields := rfl
    start := trivial
    rebuild := fun _ _ => by simp only [List.foldl_cons, List.foldl_nil, Slot.optional, id_eq]
    apart := by
      simp only [List.map_cons, List.map_nil, List.pairwise_cons, List.forall_mem_cons,
        List.not_mem_nil, false_implies, implies_true, and_true, List.Pairwise.nil]
      and_intros <;> exact Slot.apart_of_free rfl rfl (fun _ _ => ⟨rfl, rfl⟩) fun _ _ => ⟨rfl, rfl⟩ }

end InvoiceForms
