import InvoiceForms.Proofs.Record.Walking
import InvoiceForms.Proofs.Template.SectionDocuments
import InvoiceForms.Store.Files

/-!
# Documents that can be walked through

A document describes a template, or is refused for a cause, unless its sections cannot be walked
through. The id that stands in for a missing one and the flag have no part in that.
-/

namespace InvoiceForms

open InvoiceForms.Record InvoiceForms.Text

theorem optionalText_walks (most : Nat) : (optionalText most).Walks :=
  (Codec.text_walks (.upTo most)).optional

section Parts

open RecordField (make_walks)

theorem Address.walks : Address.schema.codec.Walks :=
  Schema.codec_walks ⟨make_walks (optionalText_walks _), make_walks (optionalText_walks _),
    make_walks (optionalText_walks _), make_walks (optionalText_walks _)⟩

theorem Contact.walks : Contact.schema.codec.Walks :=
  Schema.codec_walks ⟨make_walks (optionalText_walks _), make_walks (optionalText_walks _),
    make_walks (optionalText_walks _)⟩

theorem TaxInfo.walks : TaxInfo.schema.codec.Walks :=
  Schema.codec_walks ⟨make_walks (optionalText_walks _), make_walks (optionalText_walks _),
    make_walks (optionalText_walks _), make_walks (optionalText_walks _),
    make_walks (optionalText_walks _), make_walks (optionalText_walks _)⟩

theorem BankDetails.walks : BankDetails.schema.codec.Walks :=
  Schema.codec_walks ⟨make_walks (optionalText_walks _), make_walks (optionalText_walks _),
    make_walks (optionalText_walks _)⟩

theorem Logo.walks : Logo.schema.codec.Walks :=
  Schema.codec_walks ⟨make_walks Codec.bool_walks, make_walks (optionalText_walks _),
    make_walks (Codec.int_walks _), make_walks (Codec.int_walks _)⟩

theorem Company.walks : Company.schema.codec.Walks :=
  Schema.codec_walks ⟨make_walks (Codec.text_walks _), make_walks Address.walks,
    make_walks Contact.walks, make_walks TaxInfo.walks, make_walks BankDetails.walks,
    make_walks Logo.walks, make_walks Codec.bool_walks, make_walks (Codec.int_walks _)⟩

theorem Margins.walks : Margins.schema.codec.Walks :=
  Schema.codec_walks ⟨make_walks (Codec.double_walks _), make_walks (Codec.double_walks _),
    make_walks (Codec.double_walks _), make_walks (Codec.double_walks _)⟩

theorem Fonts.walks : Fonts.schema.codec.Walks :=
  Schema.codec_walks ⟨make_walks (Codec.text_walks _), make_walks (Codec.int_walks _),
    make_walks (Codec.int_walks _), make_walks (Codec.int_walks _), make_walks (Codec.int_walks _)⟩

theorem Colors.walks : Colors.schema.codec.Walks :=
  Schema.codec_walks ⟨make_walks (Codec.textVia_walks _ _), make_walks (Codec.textVia_walks _ _),
    make_walks (Codec.textVia_walks _ _), make_walks (Codec.textVia_walks _ _)⟩

theorem Layout.walks : Layout.schema.codec.Walks :=
  Schema.codec_walks ⟨make_walks (Codec.choice_walks _ _), make_walks Margins.walks,
    make_walks Fonts.walks, make_walks Colors.walks⟩

end Parts

namespace Template

/-- Whether the entries of a template can be walked through is a matter of its sections alone. -/
theorem findSome?_misuse (entries : Entries Value) (cause : Misuse) :
    schema.fields.findSome? (Schema.misuse? entries) = some cause ↔
      ∃ v, entries.get? "sections" = some v ∧ readSections v = .error (.misuse cause) := by
  have none_of {f : RecordField Template} (walks : f.Walks) : Schema.misuse? entries f = none :=
    Schema.misuse?_of_walks walks
  have make_walks {α : Type} {required : Bool} {name key : String} {c : Codec α}
      {get : Template → α} {put : α → Template → Template} (walks : c.Walks) :
      Schema.misuse? entries (.make required name key c get put) = none :=
    none_of (RecordField.make_walks walks)
  unfold schema RecordField.mandatory RecordField.optional
  dsimp only
  rw [List.findSome?_cons, make_walks (Codec.textVia_walks _ _), List.findSome?_cons,
    make_walks (Codec.text_walks _), List.findSome?_cons, make_walks Codec.bool_walks,
    List.findSome?_cons, make_walks Company.walks, List.findSome?_cons, make_walks Layout.walks,
    List.findSome?_cons, List.findSome?_nil]
  dsimp only
  unfold Schema.misuse? RecordField.source RecordField.make
  dsimp only
  cases entries.get? "sections" with
  | none => simp
  | some v =>
    have read : sectionsCodec.read v = readSections v := rfl
    dsimp only
    rw [read]
    cases taken : readSections v with
    | ok sections => simp [Except.map, taken]
    | error e => cases e <;> simp [Except.map, taken]

end Template

namespace FileStore

/-- The value that a document gives for its sections; of a repeated key the last one counts. -/
def sectionsIn? (members : Entries Json) : Option Json :=
  Entries.get? "sections" (Entries.ofList members)

/-- The entries of a document, where the id of its file stands in for a missing one. -/
def entriesOf (id : String) (members : Entries Json) : Entries Value :=
  if Entries.has "id" (Value.ofMembers members) then Value.ofMembers members
  else Entries.set "id" (.text id) (Value.ofMembers members)

/-- A flag in place of its own leaves what entries say under other names. -/
theorem get?_flagged {key : String} (other : key ∉ Template.flagNames) (isDefault : Bool)
    (m : Entries Value) :
    Entries.get? key (Value.textEntries (Template.withFlag (.bool isDefault)
      (m.map fun e => (.text e.1, e.2)))) = Entries.get? key (Entries.ofList m) := by
  have flagged : Template.withFlag (.bool isDefault) (m.map fun e => (Value.text e.1, e.2)) =
      (m.filter (fun e => decide (e.1 ∉ Template.flagNames)) ++
        [("isDefault", Value.bool isDefault)]).map fun e => (Value.text e.1, e.2) := by
    have blind : ((fun p : Value × Value => decide (p.1 ∉ Template.flagNames.map Value.text)) ∘
        fun e : String × Value => (Value.text e.1, e.2)) =
          fun e => decide (e.1 ∉ Template.flagNames) := by
      funext e
      have own : Value.text e.1 ∈ Template.flagNames.map Value.text ↔ e.1 ∈ Template.flagNames := by
        simp
      exact decide_eq_decide.mpr (not_congr own)
    rw [Template.withFlag, List.filter_map, List.map_append, blind]
    rfl
  have apart : "isDefault" ≠ key := fun same => other (same ▸ List.mem_cons_self)
  rw [flagged, Value.textEntries_of_texts, Entries.get?_ofList, Entries.get?_ofList,
    List.reverse_append]
  refine (Entries.get?_cons_of_ne apart _ _).trans ?_
  show Entries.get? key (List.reverse (List.filter _ _)) = _
  rw [← List.filter_reverse, Entries.get?_filter fun v => decide_eq_true other]

theorem get?_ofMembers (key : String) (members : Entries Json) :
    Entries.get? key (Entries.ofList (Value.ofMembers members)) =
      (Entries.get? key (Entries.ofList members)).map .ofJson := by
  rw [Entries.get?_ofList, Entries.get?_ofList, ← Entries.get?_mapValues,
    Value.ofMembers_eq_mapValues, Entries.mapValues, Entries.mapValues, List.map_reverse]

/-- An id for a missing one leaves what a document says under other names. -/
theorem get?_entriesOf {key : String} (other : "id" ≠ key) (id : String) (members : Entries Json) :
    Entries.get? key (Entries.ofList (entriesOf id members)) =
      (Entries.get? key (Entries.ofList members)).map .ofJson := by
  rw [← get?_ofMembers]
  unfold entriesOf
  split
  · rfl
  · next unnamed =>
    have fresh : "id" ∉ Entries.keys (Value.ofMembers members) := by
      rw [← Entries.get?_eq_none_iff]
      simpa [Entries.has] using unnamed
    rw [Entries.set_of_not_mem fresh, Entries.get?_ofList, Entries.get?_ofList, List.reverse_append]
    exact Entries.get?_cons_of_ne other _ _

/-- A document has the id that it gives, or else the one of its file. -/
theorem get?_id_entriesOf (id : String) (members : Entries Json) :
    Entries.get? "id" (Entries.ofList (entriesOf id members)) =
      some ((Entries.get? "id" (Entries.ofList members)).elim (.text id) .ofJson) := by
  have given := get?_ofMembers "id" members
  unfold entriesOf
  split
  · next named =>
    obtain ⟨v, found⟩ := Option.isSome_iff_exists.mp named
    rw [given]
    cases stated : Entries.get? "id" (Entries.ofList members) with
    | some v => rfl
    | none =>
      rw [stated] at given
      rw [Entries.get?_ofList_eq_none_iff.mp given] at found
      cases found
  · next unnamed =>
    have absent : Entries.get? "id" (Value.ofMembers members) = none := by
      simpa [Entries.has] using unnamed
    have nothing : Entries.get? "id" (Entries.ofList members) = none := by
      rw [Entries.get?_ofList_eq_none_iff.mpr absent] at given
      exact Option.map_eq_none_iff.mp given.symm
    rw [nothing, Entries.set_of_not_mem (Entries.get?_eq_none_iff.mp absent), Entries.get?_ofList,
      List.reverse_append]
    exact Entries.get?_cons_self _ _ _

/-- A flag in place of its own, and an id for a missing one, leave the sections of a document. -/
theorem get?_sections (id : String) (isDefault : Bool) (members : Entries Json) :
    Entries.get? "sections" (Value.textEntries (Template.withFlag (.bool isDefault)
      ((entriesOf id members).map fun e => (.text e.1, e.2)))) =
        (sectionsIn? members).map .ofJson :=
  (get?_flagged (by decide) isDefault _).trans (get?_entriesOf (by decide) id members)

/-- What a document describes, by its entries and a flag. -/
theorem templateOf_eq (id : String) (isDefault : Bool) (members : Entries Json) :
    templateOf id isDefault members =
      match Template.schema.readPairs (Template.withFlag (.bool isDefault)
        ((entriesOf id members).map fun e => (.text e.1, e.2))) with
      | .ok t => .ok t
      | .error (.faults found) => .error (.configuration (.invalid id ⟨Template.schema.title, found⟩))
      | .error (.misuse cause) => .error (.misuse cause) := by
  unfold templateOf Template.ofDocument Template.ofDocumentWith Value.pairs entriesOf
  dsimp only
  cases Template.schema.readPairs _ with
  | ok t => rfl
  | error e => cases e <;> rfl

/-- A document cannot be walked through exactly when its sections cannot. -/
theorem templateOf_eq_misuse_iff {id : String} {isDefault : Bool} {members : Entries Json}
    {cause : Misuse} : templateOf id isDefault members = .error (.misuse cause) ↔
      ∃ v, sectionsIn? members = some v ∧
        Template.readSections (.ofJson v) = .error (.misuse cause) := by
  have read : Template.schema.readPairs (Template.withFlag (.bool isDefault)
      ((entriesOf id members).map fun e => (.text e.1, e.2))) = .error (.misuse cause) ↔ _ :=
    Schema.readPairs_eq_misuse_iff
  rw [Template.findSome?_misuse, get?_sections] at read
  have named : (∃ v, (sectionsIn? members).map Value.ofJson = some v ∧
      Template.readSections v = .error (.misuse cause)) ↔
        ∃ v, sectionsIn? members = some v ∧
          Template.readSections (.ofJson v) = .error (.misuse cause) := by
    cases sectionsIn? members <;> simp
  rw [← named, ← read, templateOf_eq]
  split <;> simp_all

/-- What keeps a document that can be walked through from being a template is a fault of its own. -/
theorem templateOf_eq_error {id : String} {isDefault : Bool} {members : Entries Json}
    {e : StoreFault} (failed : templateOf id isDefault members = .error e) :
    (∃ cause, e = .configuration (.invalid id cause)) ∨ ∃ cause, e = .misuse cause := by
  rw [templateOf_eq] at failed
  split at failed
  · cases failed
  · cases failed
    exact .inl ⟨_, rfl⟩
  · cases failed
    exact .inr ⟨_, rfl⟩

end FileStore

end InvoiceForms
