import InvoiceForms.Proofs.Template.SectionDocuments
import InvoiceForms.Template.Basic

/-!
# Documents of templates

A template that JSON data describes comes back from the document that stores keep of it, when the
flag is given again. Its sections stand under their types there, and each comes back as it was.
-/

namespace InvoiceForms

open InvoiceForms.Record InvoiceForms.Results InvoiceForms.Text

variable {σ : Arrangement} {p : Json → Bool}

namespace Template

/-- A template with its sections, and what stands in them, arranged. -/
def arrange (σ : Arrangement) (t : Template) : Template :=
  { t with sections := (σ.of (t.sections.map fun s => (s.type, s.arrange σ))).map (·.2) }

/-- A template in the order of its document, with a flag. -/
def sorted (t : Template) (flag : Bool) : Template := { t.arrange .sorted with isDefault := flag }

/-- The texts by which data of sections names their types. -/
def namesOf : Value → List String
  | .mapping entries => entries.filterMap fun e => Section.nameOf? e.2 (.text e.1)
  | v => (v.items?.getD []).filterMap fun item => Section.nameOf? item .null

/-- Every section that data describes under trimmed names comes back. -/
theorem accepted_of_readSections (lenient : Value.Lenient p) {v : Value} {sections : List Section}
    (data : v.IsData p) (trimmed : ∀ name ∈ namesOf v, trimWhiteSpace name = name)
    (given : readSections v = .ok sections) : ∀ s ∈ sections, s.Accepted σ p := by
  have described : ∀ {payload tag : Value} {s : Section}, payload.IsData p → tag.IsData p →
      (∀ name, Section.nameOf? payload tag = some name → name ∈ namesOf v) →
      (Section.ofPayload payload tag).mapError rejectionOf = .ok s → s.Accepted σ p :=
    fun dataPayload dataTag names accepted =>
      Section.accepted_of_ofPayload lenient dataPayload dataTag
        (fun name h => trimmed name (names name h)) (mapError_eq_ok.mp accepted)
  intro s member
  unfold readSections at given
  split at given
  · cases given
    cases member
  · next entries =>
    obtain ⟨e, inside, accepted⟩ := exists_of_mem_mapM given member
    refine described (data.of_mem_mapping inside) (.text lenient e.1) ?_ accepted
    intro name named
    exact List.mem_filterMap.mpr ⟨e, inside, named⟩
  · next notNull notMapping =>
    split at given
    · next items shape =>
      obtain ⟨item, inside, accepted⟩ := exists_of_mem_mapM given member
      have dataItem := data.of_mem_items? lenient shape inside
      have plain : sectionOfEntry item = (Section.ofPayload item .null).mapError rejectionOf := by
        obtain ⟨j, -, -, rfl⟩ := dataItem
        cases j <;> rfl
      rw [plain] at accepted
      refine described dataItem (.null lenient) ?_ accepted
      intro name named
      have names : namesOf v = items.filterMap fun item => Section.nameOf? item .null := by
        unfold namesOf
        split
        · exact absurd rfl (notMapping _)
        · rw [shape]
          rfl
      rw [names]
      exact List.mem_filterMap.mpr ⟨item, inside, named⟩
    · cases given

/-- Ids are their own normal form. -/
theorem id_stable : (Codec.textVia idRule usableId).Stable σ fun id => id := by
  apply Codec.textVia_stable
  intro s t passed normal
  unfold usableId at normal
  split at normal
  · cases normal
    next valid => exact ⟨passed, if_pos valid⟩
  · cases normal

/-- What a template of accepted data has. -/
structure Accepted (σ : Arrangement) (p : Json → Bool) (t : Template) : Prop where
  id : (Codec.textVia idRule usableId).Returns σ t.id t.id
  name : (Codec.text (.from1To 256)).Returns σ t.name t.name
  company : Company.schema.codec.Returns σ t.company t.company
  layout : Layout.schema.codec.Returns σ t.layout t.layout
  sections : ∀ s ∈ t.sections, s.Accepted σ p
  distinct : (t.sections.map (·.type)).Nodup

/-- The field of the flag. -/
def flagField : RecordField Template :=
  .optional "is_default" "isDefault" .bool (·.isDefault) fun x r => { r with isDefault := x }

/-- What entries say of the flag, whether they hold one or not. -/
structure FlagIs (entries : Entries Value) (q : Bool → Prop) : Prop where
  said : ∀ key v x, flagField.source entries = some (key, v) → Codec.bool.read v = .ok x → q x
  unsaid : (∀ key v x, flagField.source entries = some (key, v) → Codec.bool.read v ≠ .ok x) → q false

theorem flagIs_of_get? {entries : Entries Value} {flag : Bool}
    (flagged : entries.get? "isDefault" = some (.bool flag)) : FlagIs entries (· = flag) := by
  have source : flagField.source entries = some ("isDefault", .bool flag) :=
    RecordField.source_of_get? flagged
  refine ⟨?_, fun unread => absurd rfl (unread _ _ flag source)⟩
  intro key v x found read
  rw [source] at found
  cases found
  cases read
  rfl

/-- The fields of a template with what holds once they are read. -/
def guards (σ : Arrangement) (p : Json → Bool) (q : Bool → Prop) : List (Guard Template) :=
  schema.fields.zipWith .mk [
    fun t => (Codec.textVia idRule usableId).Returns σ t.id t.id,
    fun t => (Codec.text (.from1To 256)).Returns σ t.name t.name,
    fun t => q t.isDefault,
    fun t => Company.schema.codec.Returns σ t.company t.company,
    fun t => Layout.schema.codec.Returns σ t.layout t.layout,
    fun t => ∀ s ∈ t.sections, s.Accepted σ p]

section Guarded

variable {entries : Entries Value} {q : Bool → Prop}

theorem guards_own (lenient : Value.Lenient p) (flag : FlagIs entries q)
    (sections : ∀ v, entries.get? "sections" = some v → v.IsData p ∧
      ∀ name ∈ namesOf v, trimWhiteSpace name = name) :
    ∀ g ∈ guards σ p q, ∀ key v change r, g.field.source entries = some (key, v) →
      g.field.read v = .ok change → g.holds (change r) := by
  refine List.forall_mem_cons.mpr ⟨?_, List.forall_mem_cons.mpr ⟨?_, List.forall_mem_cons.mpr
    ⟨?_, List.forall_mem_cons.mpr ⟨?_, List.forall_mem_cons.mpr ⟨?_, List.forall_mem_cons.mpr
      ⟨?_, nofun⟩⟩⟩⟩⟩⟩
  all_goals
    intro key v change r found taken
    obtain ⟨x, content, rfl⟩ := RecordField.make_read_eq_ok.mp taken
  · exact id_stable v x content
  · exact Codec.text_stable _ v x content
  · exact flag.said key v x found content
  · exact Company.stable v x content
  · exact Layout.stable v x content
  · obtain ⟨data, trimmed⟩ := sections v (RecordField.get?_of_source rfl found)
    exact accepted_of_readSections lenient data trimmed content

theorem guards_absent (flag : FlagIs entries q) : ∀ g ∈ guards σ p q, g.Untaken entries → g.holds schema.blank := by
  refine List.forall_mem_cons.mpr ⟨?_, List.forall_mem_cons.mpr ⟨?_, List.forall_mem_cons.mpr
    ⟨?_, List.forall_mem_cons.mpr ⟨?_, List.forall_mem_cons.mpr ⟨?_, List.forall_mem_cons.mpr
      ⟨?_, nofun⟩⟩⟩⟩⟩⟩
  all_goals
    intro untaken
  · cases untaken.optional
  · cases untaken.optional
  · refine flag.unsaid fun key v x found read => ?_
    exact untaken.unread key v _ found (RecordField.make_read_eq_ok.mpr ⟨x, read, rfl⟩)
  · cases untaken.optional
  · obtain ⟨v, content⟩ := Layout.reads_blank
    exact Layout.stable v _ content
  · exact nofun

theorem guards_explained :
    ∀ g ∈ guards σ p q, g.field.required = true → ∀ v, g.field.read v ≠ .error (.faults []) := by
  refine List.forall_mem_cons.mpr ⟨?_, List.forall_mem_cons.mpr ⟨?_, List.forall_mem_cons.mpr
    ⟨?_, List.forall_mem_cons.mpr ⟨?_, List.forall_mem_cons.mpr ⟨?_, List.forall_mem_cons.mpr
      ⟨?_, nofun⟩⟩⟩⟩⟩⟩
  all_goals
    intro required
  · exact RecordField.make_explained (Codec.textVia_explained _ _)
  · exact RecordField.make_explained (Codec.text_explained _)
  · cases required
  · exact RecordField.make_explained Company.schema.read_explained
  · cases required
  · cases required

theorem guards_apart : (guards σ p q).Pairwise Guard.Apart := by
  simp only [guards, schema, RecordField.mandatory, RecordField.optional, List.zipWith_cons_cons,
    List.zipWith_nil_left, List.pairwise_cons, List.forall_mem_cons, List.not_mem_nil,
    false_implies, implies_true, and_true, List.Pairwise.nil]
  and_intros <;> exact Guard.apart_of_make (fun _ _ held => held) fun _ _ held => held

end Guarded

/-- No type is shared when each section has a type of its own. -/
theorem duplicateType?_eq_none_iff {seen : List String} {sections : List Section} :
    duplicateType? seen sections = none ↔
      (sections.map (·.type)).Nodup ∧ ∀ s ∈ sections, s.type ∉ seen := by
  induction sections generalizing seen with
  | nil => simp [duplicateType?]
  | cons s rest ih =>
    rw [duplicateType?]
    split
    · next shared => simp [shared]
    · next own =>
      rw [ih, List.map_cons, List.nodup_cons, List.forall_mem_cons]
      constructor
      · rintro ⟨distinct, others⟩
        refine ⟨⟨?_, distinct⟩, own, fun r member =>
          List.not_mem_of_not_mem_cons (others r member)⟩
        intro twice
        obtain ⟨r, member, same⟩ := List.mem_map.mp twice
        exact others r member (same ▸ List.mem_cons_self)
      · rintro ⟨⟨once, distinct⟩, -, others⟩
        refine ⟨distinct, fun r member => List.not_mem_cons_of_ne_of_not_mem ?_ (others r member)⟩
        intro same
        exact once (same ▸ List.mem_map_of_mem member)

theorem checked_eq_ok_iff {t : Template} :
    schema.checked t = .ok t ↔ (t.sections.map (·.type)).Nodup := by
  have iff : schema.checked t = .ok t ↔ duplicateType? [] t.sections = none := by
    have check : schema.check t = checkTypes t := rfl
    unfold Schema.checked
    rw [check]
    unfold checkTypes
    cases duplicateType? [] t.sections <;> simp [refuse]
  rw [iff, duplicateType?_eq_none_iff]
  simp

/-- What data of a template says comes back part by part. -/
theorem accepted_of_readEntries (lenient : Value.Lenient p) {entries : Entries Value} {q : Bool → Prop}
    {t : Template} (flag : FlagIs entries q)
    (sections : ∀ v, entries.get? "sections" = some v → v.IsData p ∧
      ∀ name ∈ namesOf v, trimWhiteSpace name = name)
    (given : schema.readEntries entries = .ok t) : t.Accepted σ p ∧ q t.isDefault := by
  obtain ⟨fresh, taken, extra, passed⟩ := Schema.readEntries_eq_ok.mp given
  obtain rfl : fresh = t := congrArg Prod.fst extra
  have guarded : Guarded entries (fun _ => True) schema.blank (guards σ p q) :=
    ⟨trivial, fun g member key v change r found taken _ =>
      ⟨trivial, guards_own lenient flag sections g member key v change r found taken⟩,
      guards_absent flag, guards_explained, guards_apart⟩
  have holds := (Schema.holds_of_guarded guarded taken).2
  obtain ⟨id, holds⟩ := List.forall_mem_cons.mp holds
  obtain ⟨name, holds⟩ := List.forall_mem_cons.mp holds
  obtain ⟨isDefault, holds⟩ := List.forall_mem_cons.mp holds
  obtain ⟨company, holds⟩ := List.forall_mem_cons.mp holds
  obtain ⟨layout, holds⟩ := List.forall_mem_cons.mp holds
  obtain ⟨sections, -⟩ := List.forall_mem_cons.mp holds
  exact ⟨⟨id, name, company, layout, sections, checked_eq_ok_iff.mp passed⟩, isDefault⟩

/-- The sections of a template in an arrangement of their types. -/
theorem sections_arrange (t : Template) : (t.arrange σ).sections =
    (σ.of (t.sections.map fun s => (s.type, s))).map fun e => e.2.arrange σ := by
  have tagged : (t.sections.map fun s => (s.type, s.arrange σ)) =
      Entries.mapValues (Section.arrange σ) (t.sections.map fun s => (s.type, s)) := by
    rw [Entries.mapValues, List.map_map]
    rfl
  show (σ.of (t.sections.map fun s => (s.type, s.arrange σ))).map (·.2) = _
  rw [tagged, σ.of_mapValues, Entries.mapValues, List.map_map]
  rfl

/-- Arranging a template moves its sections. -/
theorem sections_arrange_perm (σ : Arrangement) (t : Template) :
    (t.arrange σ).sections.Perm (t.sections.map (Section.arrange σ)) := by
  have moved := (σ.of_perm (t.sections.map fun s => (s.type, s.arrange σ))).map (·.2)
  rw [List.map_map] at moved
  exact moved

theorem types_arrange_perm (σ : Arrangement) (t : Template) :
    ((t.arrange σ).sections.map (·.type)).Perm (t.sections.map (·.type)) := by
  refine ((sections_arrange_perm σ t).map _).trans (.of_eq ?_)
  rw [List.map_map]
  exact List.map_congr_left fun s _ => s.type_arrange σ

/-- The sections in the document of a template. -/
def sectionsDocument (t : Template) : Json :=
  .object (t.sections.map fun s => (s.type, s.toDocument))

/-- The document of a template whose sections have types of their own. -/
theorem toDocument_eq {t : Template} (distinct : (t.sections.map (·.type)).Nodup) :
    t.toDocument = .object [
      ("id", .text t.id), ("name", .text t.name),
      ("companyInfo", Company.schema.codec.dump .keys t.company),
      ("layout", Layout.schema.codec.dump .keys t.layout), ("sections", t.sectionsDocument)] := by
  have keys : (Entries.keys (t.sections.map fun s => (s.type, s.toDocument))).Nodup := by
    rw [Entries.keys, List.map_map]
    exact distinct
  rw [toDocument, Entries.ofList_of_nodup keys]
  rfl

/-- The sections of a document are read back in the order in which they stand there. -/
theorem readSections_sectionsDocument {t : Template}
    (returns : ∀ s ∈ t.sections, s.Returns σ) :
    readSections (Value.ofJson (Json.arrange σ t.sectionsDocument)) =
      .ok (t.arrange σ).sections := by
  have entries : Value.ofJson (Json.arrange σ t.sectionsDocument) =
      .mapping (Entries.mapValues (fun s => Value.ofJson (Json.arrange σ s.toDocument))
        (σ.of (t.sections.map fun s => (s.type, s)))) := by
    rw [sectionsDocument, Json.arrange_object, Value.ofJson, Value.ofMembers_eq_mapValues,
      ← σ.of_mapValues, ← σ.of_mapValues, Entries.mapValues_mapValues, Entries.mapValues,
      Entries.mapValues, List.map_map, List.map_map]
    rfl
  rw [entries, sections_arrange]
  refine mapM_eq_ok.mpr ?_
  rw [Entries.mapValues, List.forall₂_map_left_iff, List.forall₂_map_right_iff, List.forall₂_same]
  intro e member
  obtain ⟨s, inside, rfl⟩ := List.mem_map.mp ((σ.mem_of).mp member)
  exact mapError_eq_ok.mpr (returns s inside)

/-- What the members of a template's document become. -/
def documentEntries (σ : Arrangement) (t : Template) : Entries Value := [
  ("id", .text t.id), ("name", .text t.name),
  ("companyInfo", .ofJson (.arrange σ (Company.schema.codec.dump .keys t.company))),
  ("layout", .ofJson (.arrange σ (Layout.schema.codec.dump .keys t.layout))),
  ("sections", .ofJson (.arrange σ t.sectionsDocument))]

theorem keys_documentEntries (σ : Arrangement) (t : Template) : Entries.keys (documentEntries σ t) =
    ["id", "name", "companyInfo", "layout", "sections"] := rfl

/-- The document of a template becomes these entries. -/
theorem ofJson_toDocument {t : Template} (distinct : (t.sections.map (·.type)).Nodup) :
    Value.ofJson (Json.arrange σ t.toDocument) = .mapping (σ.of (documentEntries σ t)) := by
  rw [toDocument_eq distinct, Json.arrange_object, Value.ofJson, Value.ofMembers_eq_mapValues,
    ← σ.of_mapValues]
  rfl

/-- The entries that are read when the document comes with a flag. -/
def flaggedEntries (σ : Arrangement) (t : Template) (flag : Bool) : Entries Value :=
  σ.of (documentEntries σ t) ++ [("isDefault", .bool flag)]

section Flagged

variable (σ : Arrangement) (t : Template) (flag : Bool)

theorem flaggedEntries_perm :
    (flaggedEntries σ t flag).Perm (documentEntries σ t ++ [("isDefault", .bool flag)]) :=
  (σ.of_perm _).append_right _

theorem keys_flaggedEntries_perm : (Entries.keys (flaggedEntries σ t flag)).Perm
    ["id", "name", "companyInfo", "layout", "sections", "isDefault"] :=
  (flaggedEntries_perm σ t flag).map Prod.fst

theorem nodup_flaggedEntries : (Entries.keys (flaggedEntries σ t flag)).Nodup :=
  (keys_flaggedEntries_perm σ t flag).nodup_iff.mpr (by decide)

/-- The entries are those of the fields, and no others. -/
theorem leftover_flaggedEntries : schema.leftover (flaggedEntries σ t flag) = [] := by
  have fields : schema.fields.map (·.key) =
      ["id", "name", "isDefault", "companyInfo", "layout", "sections"] := rfl
  have iff : ∀ key, key ∈ Entries.keys (flaggedEntries σ t flag) ↔
      key ∈ schema.fields.map (·.key) := by
    intro key
    rw [(keys_flaggedEntries_perm σ t flag).mem_iff, fields]
    exact List.Perm.mem_iff (by decide)
  rw [Schema.leftover_of_keys fun f member => (iff f.key).mpr (List.mem_map_of_mem member),
    List.filter_eq_nil_iff]
  intro e member
  have isKey := (iff e.1).mp (List.mem_map_of_mem member)
  simp only [isKey, decide_true, Bool.not_true]
  exact Bool.false_ne_true

end Flagged

/-- Reading a document with a flag is reading its entries and the flag. -/
theorem ofDocument_toDocument_eq {t : Template} (distinct : (t.sections.map (·.type)).Nodup)
    (flag : Bool) : ofDocument (Value.ofJson (Json.arrange σ t.toDocument)) flag =
      (schema.readEntries (flaggedEntries σ t flag)).mapError schema.faultOf := by
  have unflagged : ∀ e ∈ σ.of (documentEntries σ t), e.1 ∉ flagNames := by
    rw [← List.forall_mem_map (f := Prod.fst) (P := (· ∉ flagNames))]
    intro key member
    have own : key ∈ ["id", "name", "companyInfo", "layout", "sections"] :=
      (σ.keys_of_perm (documentEntries σ t)).mem_iff.mp member
    clear member
    revert key
    decide
  have pairs : withFlag (.bool flag)
      ((σ.of (documentEntries σ t)).map fun e => (Value.text e.1, e.2)) =
        (flaggedEntries σ t flag).map fun e => (Value.text e.1, e.2) := by
    rw [withFlag, flaggedEntries, List.map_append, List.filter_eq_self.mpr]
    · rfl
    · intro p member
      obtain ⟨e, inside, rfl⟩ := List.mem_map.mp member
      have none := unflagged e inside
      simpa using none
  rw [ofJson_toDocument distinct, ofDocument, ofDocumentWith, Value.pairs]
  dsimp only
  rw [pairs, Schema.readPairs_of_texts, Entries.ofList_of_nodup (nodup_flaggedEntries σ t flag)]

/-- A template whose parts come back comes back from its document, with the flag it is read with. -/
theorem Accepted.comes_back {t : Template} (accepted : t.Accepted σ p) (flag : Bool) :
    ofDocument (Value.ofJson (Json.arrange σ t.toDocument)) flag =
      .ok { t.arrange σ with isDefault := flag } := by
  obtain ⟨id, name, company, layout, sections, distinct⟩ := accepted
  have found : ∀ {key v}, Entries.get? key (documentEntries σ t ++ [("isDefault", .bool flag)]) =
      some v → Entries.get? key (flaggedEntries σ t flag) = some v := by
    intro key v given
    rw [Entries.get?_of_perm (flaggedEntries_perm σ t flag) (nodup_flaggedEntries σ t flag), given]
  have sources : List.Forall₂ (fun f change => ∃ v,
      Entries.get? f.key (flaggedEntries σ t flag) = some v ∧ f.read v = .ok change)
      schema.fields [
        fun r => { r with id := t.id }, fun r => { r with name := t.name },
        fun r => { r with isDefault := flag }, fun r => { r with company := t.company },
        fun r => { r with layout := t.layout },
        fun r => { r with sections := (t.arrange σ).sections }] := by
    refine .cons ⟨_, found rfl, ?_⟩ (.cons ⟨_, found rfl, ?_⟩ (.cons ⟨_, found rfl, rfl⟩
      (.cons ⟨_, found rfl, ?_⟩ (.cons ⟨_, found rfl, ?_⟩ (.cons ⟨_, found rfl, ?_⟩ .nil)))))
    · exact RecordField.make_read_eq_ok.mpr ⟨_, id, rfl⟩
    · exact RecordField.make_read_eq_ok.mpr ⟨_, name, rfl⟩
    · exact RecordField.make_read_eq_ok.mpr ⟨_, company, rfl⟩
    · exact RecordField.make_read_eq_ok.mpr ⟨_, layout, rfl⟩
    · have read := readSections_sectionsDocument fun s inside => (sections s inside).returns
      exact RecordField.make_read_eq_ok.mpr ⟨_, read, rfl⟩
  have types : ((t.arrange σ).sections.map (·.type)).Nodup :=
    (types_arrange_perm σ t).nodup_iff.mpr distinct
  rw [ofDocument_toDocument_eq distinct flag]
  refine mapError_eq_ok.mpr (Schema.readEntries_eq_ok.mpr
    ⟨_, Schema.readFields_of_sources sources _, ?_, checked_eq_ok_iff.mpr types⟩)
  show (_, (schema.leftover _).map _) = _
  rw [leftover_flaggedEntries]
  rfl

end Template

end InvoiceForms
