import InvoiceForms.Proofs.Record.Pairs
import InvoiceForms.Proofs.Template.Admission
import InvoiceForms.Proofs.Validation.Refusals

/-!
# Type tags and variants

Each section of a template was asked for under a tag: the key of a mapping, the type among its entries,
or the kind of a section that was given whole. The tag as it was given chooses the variant, while the
type of the section is the tag trimmed. So a tag can be disguised by white space: a section under it has
a type that is known, and no rules of a known variant. This module says that nothing else comes between
the type of a section and its variant.
-/

namespace InvoiceForms

open InvoiceForms.Record InvoiceForms.Results InvoiceForms.Text

namespace SectionKind

/-- A kind has one tag. -/
theorem ofTag?_eq_some_iff {tag : String} {kind : SectionKind} : ofTag? tag = some kind ↔ tag = kind.tag := by
  constructor
  · intro found
    have same := List.find?_some found
    exact (of_decide_eq_true same).symm
  · rintro rfl
    exact Section.ofTag?_tag kind

/-- The kind whose records have a title. -/
def titled? (title : String) : Option SectionKind :=
  all.find? fun kind => (Section.kindSchema kind).title = title

end SectionKind

namespace Section

/-- The kind of a section, if it is one that is rendered. -/
def kind? (s : Section) : Option SectionKind :=
  match s.variant with
  | .plain kind => some (.plain kind)
  | .table _ => some .productTable
  | .unsupported .. => none

/-- Whether a section has a type, and the variant that its type asks for. -/
structure Tagged (s : Section) : Prop where
  named : s.type ≠ ""
  variant : s.kind? = SectionKind.ofTag? s.type

/-- How a section is asked for: the tag that becomes its type, and the kind that it will be of. -/
structure Asked where
  tag : Value
  kind : Option SectionKind

namespace Asked

/-- What is asked for by a tag: the kind that has it, as it is given. -/
def byTag (tag : Value) : Asked where
  tag := tag
  kind :=
    match tag with
    | .text name => SectionKind.ofTag? name
    | _ => none

/-- A known kind is asked for by its own tag. -/
theorem tag_of_byTag {given tag : Value} {kind : SectionKind} (asked : byTag given = ⟨tag, some kind⟩) :
    tag = .text kind.tag := by
  obtain rfl : given = tag := congrArg Asked.tag asked
  have found := congrArg Asked.kind asked
  cases given with
  | text name => rw [SectionKind.ofTag?_eq_some_iff.mp found]
  | _ => cases found

/-- What a payload asks for, when a tag is given or stands in it. -/
def byPayload (payload given : Value) : Asked :=
  match payload.pairs with
  | .ok pairs => byTag (tagOf (Value.textEntries pairs) given)
  | .error _ => byTag given

/-- What an entry of a list asks for. A section that is given whole keeps its kind. -/
def byEntry (entry : Value) : Asked :=
  match entry with
  | .record title fields extras =>
    match schemaTitled? title, SectionKind.titled? title with
    | none, _ => byPayload entry .null
    | some _, some kind => ⟨.text kind.tag, some kind⟩
    | some _, none => ⟨(Entries.get? "type" (fields ++ extras)).getD .null, none⟩
  | _ => byPayload entry .null

/-- Whether a section is what was asked for: its type is the tag as texts are read, trimmed. -/
structure Describes (a : Asked) (s : Section) : Prop where
  type : readText .free a.tag = .ok s.type
  kind : s.kind? = a.kind

/-- Whether a tag becomes no type, or one of another kind than the one that it asks for. -/
def Disguised (a : Asked) : Prop :=
  ∃ type, readText .free a.tag = .ok type ∧ (type = "" ∨ SectionKind.ofTag? type ≠ a.kind)

/-- A section has the variant of its type exactly when its tag was not disguised. -/
theorem Describes.tagged_iff {a : Asked} {s : Section} (describes : a.Describes s) :
    s.Tagged ↔ ¬ a.Disguised := by
  constructor
  · rintro ⟨named, variant⟩ ⟨type, read, wrong⟩
    rw [describes.type] at read
    cases read
    rcases wrong with empty | other
    · exact named empty
    · exact other (variant.symm.trans describes.kind)
  · intro plain
    refine ⟨fun empty => plain ⟨s.type, describes.type, .inl empty⟩, ?_⟩
    rw [describes.kind]
    by_contra other
    exact plain ⟨s.type, describes.type, .inr (Ne.symm other)⟩

end Asked

/-- A text is read trimmed. -/
theorem readText_text (name : String) : readText .free (.text name) = .ok (trimWhiteSpace name) := by
  show TextRule.free.check name = _
  obtain ⟨t, passed⟩ : ∃ t, TextRule.free.check name = .ok t := ⟨_, rfl⟩
  rw [passed, TextRule.eq_normal_of_check passed]
  rfl

/-- The tags of kinds are trimmed. -/
theorem trimWhiteSpace_tag (kind : SectionKind) : trimWhiteSpace kind.tag = kind.tag := by
  cases kind with
  | plain kind => cases kind <;> decide
  | productTable => decide

theorem readText_tag (kind : SectionKind) : readText .free (.text kind.tag) = .ok kind.tag := by
  rw [readText_text, trimWhiteSpace_tag]

/-- The type of a kind's sections is its tag. -/
theorem type_of_kind {s : Section} {kind : SectionKind} (own : s.kind? = some kind) :
    s.type = kind.tag := by
  obtain ⟨variant, _, _, _⟩ := s
  cases variant with
  | unsupported type extras => cases own
  | _ =>
    cases own
    rfl

theorem schema_eq_kind (s : Section) :
    s.schema = (s.kind?.map kindSchema).getD unsupportedSchema := by
  obtain ⟨variant, _, _, _⟩ := s
  cases variant <;> rfl

/-- The rules of a kind hold of its sections: no other entries than those of its fields, and columns
only in tables. -/
theorem rules_of_kind {s : Section} {kind : SectionKind} (own : s.kind? = some kind) :
    s.schema = kindSchema kind ∧ s.extras = [] ∧ (s.isTable = true ↔ kind = .productTable) ∧
      (kind ≠ .productTable → s.columns = []) := by
  obtain ⟨variant, _, _, _⟩ := s
  cases variant with
  | unsupported type extras => cases own
  | plain kind =>
    cases own
    exact ⟨rfl, rfl, by simp [isTable], fun _ => rfl⟩
  | table columns =>
    cases own
    exact ⟨rfl, rfl, by simp [isTable], fun other => absurd rfl other⟩

/-- What is no table has no columns. -/
theorem columns_of_unknown {s : Section} (unknown : s.kind? = none) : s.columns = [] := by
  obtain ⟨variant, _, _, _⟩ := s
  cases variant with
  | table columns => cases unknown
  | _ => rfl

/-- What is read with the schema of a kind is of the kind. -/
theorem kind_of_readEntries {kind : SectionKind} {entries : Entries Value} {s : Section}
    (given : (kindSchema kind).readEntries entries = .ok s) : s.kind? = some kind := by
  cases kind with
  | plain kind =>
    have taken := (plain_closed kind).readFields_of_readEntries given
    obtain ⟨held, -⟩ := (plainSlots .written kind).holds taken
    rw [kind?, held]
  | productTable =>
    have taken := table_closed.readFields_of_readEntries given
    obtain ⟨⟨columns, held⟩, -⟩ := (tableSlots .written).holds taken
    rw [kind?, held]

/-- Of a section whose type is any text, the fields make one of unknown kind. -/
theorem kind_of_readFields {entries : Entries Value} {s : Section}
    (taken : Schema.readFields entries openFields unsupportedSchema.blank = .ok (s, [])) :
    s.kind? = none := by
  obtain ⟨⟨type, extras, held⟩, -⟩ := (unsupportedSlots .written).holds taken
  rw [kind?, held]

/-- What is read with the schema of unknown types has the type that its entry is read as. -/
theorem describes_of_unsupported {entries : Entries Value} {tag : Value} {s : Section}
    (named : entries.get? "type" = some tag) (given : unsupportedSchema.readEntries entries = .ok s) :
    Asked.Describes ⟨tag, none⟩ s := by
  obtain ⟨fresh, taken, typed, rfl⟩ := unsupported_of_readEntries named given
  have unknown := kind_of_readFields taken
  obtain ⟨variant, _, _, _⟩ := fresh
  cases variant with
  | unsupported type extras => exact ⟨typed, rfl⟩
  | _ => cases unknown

/-- What is read with the schema of all sections has a type, and the variant of an unknown one. -/
theorem describes_of_common {entries : Entries Value} {s : Section}
    (given : commonSchema.readEntries entries = .ok s) :
    Asked.Describes ⟨(entries.get? "type").getD .null, none⟩ s := by
  obtain ⟨fresh, taken, extra, -⟩ := Schema.readEntries_eq_ok.mp given
  obtain rfl : fresh = s := congrArg Prod.fst extra
  obtain ⟨tag, named, typed⟩ := type_of_readFields taken
  refine ⟨?_, kind_of_readFields taken⟩
  rw [named]
  exact typed

theorem describes_of_kind {kind : SectionKind} {entries : Entries Value} {s : Section}
    (given : (kindSchema kind).readEntries entries = .ok s) :
    Asked.Describes ⟨.text kind.tag, some kind⟩ s := by
  have own := kind_of_readEntries given
  refine ⟨?_, own⟩
  rw [type_of_kind own]
  exact readText_tag kind

/-- What a section is read from: the entries of its payload, with its tag put among them as the type. -/
def taggedEntries (pairs : List (Value × Value)) (tag : Value) : Entries Value :=
  Value.textEntries (pairs ++ [(.text "type", tag)])

theorem get?_taggedEntries (pairs : List (Value × Value)) (tag : Value) :
    (taggedEntries pairs tag).get? "type" = some tag :=
  Value.get?_textEntries_concat pairs "type" tag

/-- A section is read with the schema of the kind that its tag asks for, or with that of unknown types. -/
theorem reads_of_ofPairs {pairs : List (Value × Value)} {given : Value} {s : Section}
    (accepted : ofPairs pairs given = .ok s) :
    ∃ tag kind, Asked.byTag (tagOf (Value.textEntries pairs) given) = ⟨tag, kind⟩ ∧
      ((kind.map kindSchema).getD unsupportedSchema).readEntries (taggedEntries pairs tag) = .ok s := by
  have entriesOf {schema : Schema Section} {tag : Value} (tagged : readTagged schema pairs tag = .ok s) :
      schema.readEntries (taggedEntries pairs tag) = .ok s :=
    Schema.readEntries_of_readPairs (mapError_eq_ok.mp tagged)
  unfold ofPairs at accepted
  dsimp only at accepted
  generalize tagOf (Value.textEntries pairs) given = tag at accepted ⊢
  by_cases truthy : tag.isTruthy = true
  · rw [if_pos truthy] at accepted
    cases tag with
    | text name => exact ⟨.text name, SectionKind.ofTag? name, rfl, entriesOf accepted⟩
    | _ =>
      split at accepted
      · cases accepted
      · contradiction
      · exact ⟨_, none, rfl, entriesOf accepted⟩
  · rw [if_neg truthy] at accepted
    cases accepted

/-- The section that pairs describe is what their tag asks for. -/
theorem describes_of_ofPairs {pairs : List (Value × Value)} {given : Value} {s : Section}
    (accepted : ofPairs pairs given = .ok s) :
    (Asked.byTag (tagOf (Value.textEntries pairs) given)).Describes s := by
  obtain ⟨tag, kind, asked, read⟩ := reads_of_ofPairs accepted
  rw [asked]
  cases kind with
  | none => exact describes_of_unsupported (get?_taggedEntries pairs tag) read
  | some kind =>
    rw [Asked.tag_of_byTag asked]
    exact describes_of_kind read

theorem describes_of_ofPayload {payload given : Value} {s : Section}
    (accepted : ofPayload payload given = .ok s) : (Asked.byPayload payload given).Describes s := by
  unfold ofPayload at accepted
  unfold Asked.byPayload
  split at accepted
  · cases accepted
  · next pairs shape =>
    rw [shape]
    exact describes_of_ofPairs accepted

/-- A title of a kind is that of its schema; two further titles have schemas that are of no kind. -/
theorem schemaTitled?_cases {title : String} {schema : Schema Section}
    (titled : schemaTitled? title = some schema) :
    (∃ kind, SectionKind.titled? title = some kind ∧ schema = kindSchema kind) ∨
      SectionKind.titled? title = none ∧ (schema = unsupportedSchema ∨ schema = commonSchema) := by
  unfold schemaTitled? at titled
  rw [List.find?_append, List.find?_map] at titled
  have same : SectionKind.all.find? ((fun s : Schema Section => decide (s.title = title)) ∘ kindSchema) =
      SectionKind.titled? title := rfl
  rw [same] at titled
  cases own : SectionKind.titled? title with
  | some kind =>
    rw [own] at titled
    cases titled
    exact .inl ⟨kind, rfl, rfl⟩
  | none =>
    rw [own] at titled
    have member := List.mem_of_find?_eq_some (Option.none_or.symm.trans titled)
    simp only [List.mem_cons, List.not_mem_nil, or_false] at member
    exact .inr ⟨rfl, member⟩

end Section

namespace Template

open Section (Asked)

/-- What an entry of a list of sections describes is what it asks for. -/
theorem describes_of_sectionOfEntry {entry : Value} {s : Section}
    (accepted : sectionOfEntry entry = .ok s) : (Asked.byEntry entry).Describes s := by
  have payload (described : (Section.ofPayload entry .null).mapError rejectionOf = .ok s) :
      (Asked.byPayload entry .null).Describes s :=
    Section.describes_of_ofPayload (mapError_eq_ok.mp described)
  cases entry with
  | record title fields extras =>
    unfold sectionOfEntry at accepted
    dsimp only at accepted
    unfold Asked.byEntry
    dsimp only
    cases titled : Section.schemaTitled? title with
    | none =>
      rw [titled] at accepted
      exact payload accepted
    | some schema =>
      rw [titled] at accepted
      dsimp only at accepted
      rcases Section.schemaTitled?_cases titled with ⟨kind, own, rfl⟩ | ⟨unknown, rfl | rfl⟩
      · rw [own]
        exact Section.describes_of_kind accepted
      · rw [unknown]
        obtain ⟨fresh, taken, -, -⟩ := Schema.readEntries_eq_ok.mp accepted
        obtain ⟨tag, named, -⟩ := Section.type_of_readFields taken
        have described := Section.describes_of_unsupported named accepted
        dsimp only
        rw [named]
        exact described
      · rw [unknown]
        exact Section.describes_of_common accepted
  | _ => exact payload accepted

/-- What the data of sections asks for, one after another. -/
def askedIn : Value → List Asked
  | .null => []
  | .mapping entries => entries.map fun e => Asked.byPayload e.2 (.text e.1)
  | v => (v.items?.getD []).map Asked.byEntry

theorem askedIn_of_items? {v : Value} {items : List Value} (notNull : v ≠ .null)
    (notMapping : ∀ entries, v ≠ .mapping entries) (shape : v.items? = some items) :
    askedIn v = items.map Asked.byEntry := by
  unfold askedIn
  split
  · exact absurd rfl notNull
  · exact absurd rfl (notMapping _)
  · rw [shape]
    rfl

/-- The sections that data describes are what it asks for. -/
theorem describes_of_readSections {v : Value} {sections : List Section}
    (given : readSections v = .ok sections) :
    List.Forall₂ Asked.Describes (askedIn v) sections := by
  unfold readSections at given
  split at given
  · cases given
    exact .nil
  · next entries =>
    rw [askedIn, List.forall₂_map_left_iff]
    refine (mapM_eq_ok.mp given).imp fun e s accepted => ?_
    exact Section.describes_of_ofPayload (mapError_eq_ok.mp accepted)
  · next notNull notMapping =>
    split at given
    · next items shape =>
      rw [askedIn_of_items? notNull notMapping shape, List.forall₂_map_left_iff]
      exact (mapM_eq_ok.mp given).imp fun _ _ => describes_of_sectionOfEntry
    · cases given

/-- A payload of a section is refused for a cause. -/
theorem rejectionOf_ofPayload_ne {payload given : Value} {e : DataFault}
    (failed : Section.ofPayload payload given = .error e) : rejectionOf e ≠ .faults [] := by
  have tagged {schema : Schema Section} {pairs : List (Value × Value)} {tag : Value}
      (failed : Section.readTagged schema pairs tag = .error e) : rejectionOf e ≠ .faults [] := by
    unfold Section.readTagged at failed
    cases read : schema.readPairs (pairs ++ [(.text "type", tag)]) with
    | ok s =>
      rw [read] at failed
      cases failed
    | error r =>
      rw [read] at failed
      cases failed
      have some := schema.readPairs_explained (pairs ++ [(.text "type", tag)])
      rw [read] at some
      cases r with
      | faults found => exact fun same => some (congrArg Except.error same)
      | misuse cause => nofun
  unfold Section.ofPayload at failed
  split at failed
  · next cause _ =>
    cases failed
    cases cause <;> nofun
  · unfold Section.ofPairs at failed
    dsimp only at failed
    split at failed
    · split at failed
      · cases failed
        nofun
      · exact tagged failed
      · exact tagged failed
    · cases failed
      nofun

theorem readSections_explained (v : Value) : readSections v ≠ .error (.faults []) := by
  have payload {entry given : Value} :
      (Section.ofPayload entry given).mapError rejectionOf ≠ .error (.faults []) := by
    intro unexplained
    cases described : Section.ofPayload entry given with
    | ok s =>
      rw [described] at unexplained
      cases unexplained
    | error e =>
      rw [described] at unexplained
      exact rejectionOf_ofPayload_ne described (Except.error.inj unexplained)
  intro unexplained
  unfold readSections at unexplained
  split at unexplained
  · cases unexplained
  · obtain ⟨e, -, failed⟩ := exists_of_mapM_eq_error unexplained
    exact payload failed
  · split at unexplained
    · obtain ⟨entry, -, failed⟩ := exists_of_mapM_eq_error unexplained
      unfold sectionOfEntry at failed
      dsimp only at failed
      split at failed
      · split at failed
        · exact Schema.readEntries_explained _ _ failed
        · exact payload failed
      · exact payload failed
    · cases unexplained

/-- The field of the sections. -/
def sectionsField : RecordField Template :=
  .optional "sections" "sections" sectionsCodec (·.sections) fun x r => { r with sections := x }

/-- The data of the sections among the entries of a template. -/
def sectionData (entries : Entries Value) : Value := (entries.get? "sections").getD .null

/-- The sections of a template are what its entries ask for. -/
theorem describes_of_readEntries {entries : Entries Value} {t : Template}
    (given : schema.readEntries entries = .ok t) :
    List.Forall₂ Asked.Describes (askedIn (sectionData entries)) t.sections := by
  obtain ⟨fresh, taken, extra, -⟩ := Schema.readEntries_eq_ok.mp given
  obtain rfl : fresh = t := congrArg Prod.fst extra
  refine Schema.holds_of_field (schema.fields.take 5) [] (f := sectionsField)
    (p := fun t => List.Forall₂ Asked.Describes (askedIn (sectionData entries)) t.sections)
    taken ?_ ?_ ?_ nofun
  · exact fun _ v _ => RecordField.make_explained readSections_explained v
  · intro t key v change _ found content
    obtain ⟨sections, read, rfl⟩ := RecordField.make_read_eq_ok.mp content
    have there : entries.get? "sections" = some v := RecordField.get?_of_source rfl found
    rw [sectionData, there]
    exact describes_of_readSections read
  · intro t before nothing _
    -- The fields in front of the sections leave the template without any.
    have bare : t.sections = [] := by
      refine Schema.preserved_of_readFields (p := fun t => t.sections = []) ?_ before rfl
      intro f member v change t content bare
      simp only [schema, List.take_succ_cons, List.take_zero, List.mem_cons, List.not_mem_nil,
        or_false] at member
      rcases member with rfl | rfl | rfl | rfl | rfl
      all_goals
        obtain ⟨x, -, rfl⟩ := RecordField.make_read_eq_ok.mp content
        exact bare
    have absent : entries.get? "sections" = none := by
      unfold RecordField.source at nothing
      split at nothing
      · cases nothing
      · next absent => exact absent
    rw [sectionData, absent, bare]
    exact .nil

/-- The entries of a mapping or of a record. -/
def entriesIn : Value → Entries Value
  | .mapping entries => entries
  | .record _ fields extras => fields ++ extras
  | _ => []

theorem readEntries_of_read {v : Value} {t : Template} (given : schema.read v = .ok t) :
    schema.readEntries (entriesIn v) = .ok t := by
  unfold Schema.read at given
  split at given
  · exact given
  · split at given
    · exact given
    · cases given
  · cases given

/-- How the sections of a template that was read from data stand to what the data asks for. -/
structure TagsDecide (v : Value) (t : Template) : Prop where
  /-- One after another, the sections are what was asked for. -/
  described : List.Forall₂ Asked.Describes (askedIn (sectionData (entriesIn v))) t.sections
  /-- A section has a type and the variant of its type exactly when its tag was not disguised. -/
  each : List.Forall₂ (fun a s => s.Tagged ↔ ¬ a.Disguised) (askedIn (sectionData (entriesIn v)))
    t.sections
  all : (∀ s ∈ t.sections, s.Tagged) ↔ ∀ a ∈ askedIn (sectionData (entriesIn v)), ¬ a.Disguised
  /-- The rules of a known type hold of every section of the type whose tag was not disguised. -/
  rules : ∀ s ∈ t.sections, s.Tagged → ∀ kind : SectionKind, s.type = kind.tag →
    s.schema = Section.kindSchema kind ∧ s.extras = [] ∧ (s.isTable = true ↔ kind = .productTable) ∧
      (kind ≠ .productTable → s.columns = [])
  /-- Of these the validator refuses the tables that are too wide. -/
  widths : ∀ s ∈ t.sections, s.Tagged → s.type = SectionKind.productTable.tag →
    (Issue.errors (Validator.checkColumns s) ≠ [] ↔
      Validator.maxTableWidth.lt (Validator.tableWidth s.columns) = true)
  /-- A section whose tag was disguised is one of unknown type, though its type is known or empty, and
  its widths are never looked at. -/
  disguised : ∀ s ∈ t.sections, ¬ s.Tagged → s.schema = Section.unsupportedSchema ∧
    (s.type = "" ∨ ∃ kind : SectionKind, s.type = kind.tag) ∧ Validator.checkColumns s = []

/-- Lists that are related item by item have all items of one kind when the others have. -/
theorem forall_mem_iff_of_forall₂ {α β : Type} {p : α → Prop} {q : β → Prop} {xs : List α} {ys : List β}
    (related : List.Forall₂ (fun x y => q y ↔ p x) xs ys) : (∀ y ∈ ys, q y) ↔ ∀ x ∈ xs, p x := by
  induction related with
  | nil => simp
  | cons first rest ih => rw [List.forall_mem_cons, List.forall_mem_cons, first, ih]

/-- For every template that is read from data, in whatever shape: exactly the sections whose tags were
not disguised have a type and the variant of their type. -/
theorem tags_decide {v : Value} {t : Template} (given : schema.read v = .ok t) : TagsDecide v t := by
  have described := describes_of_readEntries (readEntries_of_read given)
  have each := described.imp fun _ _ describes => describes.tagged_iff
  have kind_of_type {s : Section} (tagged : s.Tagged) {kind : SectionKind} (known : s.type = kind.tag) :
      s.kind? = some kind := by
    rw [tagged.variant, SectionKind.ofTag?_eq_some_iff]
    exact known
  refine ⟨described, each, forall_mem_iff_of_forall₂ each, ?_, ?_, ?_⟩
  · intro s _ tagged kind known
    exact Section.rules_of_kind (kind_of_type tagged known)
  · intro s _ tagged known
    obtain ⟨-, -, table, -⟩ := Section.rules_of_kind (kind_of_type tagged known)
    rw [Validator.errors_checkColumns_ne_nil_iff, and_iff_right (table.mpr rfl)]
  · intro s _ untagged
    have unknown : s.kind? = none := by
      cases own : s.kind? with
      | none => rfl
      | some kind =>
        have known := Section.type_of_kind own
        refine absurd ⟨?_, ?_⟩ untagged
        · rw [known]
          exact Section.tag_ne_empty kind
        · rw [own, eq_comm, SectionKind.ofTag?_eq_some_iff]
          exact known
    refine ⟨?_, ?_, ?_⟩
    · rw [s.schema_eq_kind, unknown]
      rfl
    · by_cases empty : s.type = ""
      · exact .inl empty
      · right
        cases found : SectionKind.ofTag? s.type with
        | none => exact absurd ⟨empty, unknown.trans found.symm⟩ untagged
        | some kind => exact ⟨kind, SectionKind.ofTag?_eq_some_iff.mp found⟩
    · rw [Validator.checkColumns, Section.columns_of_unknown unknown]
      rfl

/-- What a template of a company is read from, with its sections in either shape. -/
def sectionsValue (sections : Value) : Value :=
  .mapping [
    ("id", .text "a"), ("name", .text "A"), ("companyInfo", .mapping [("name", .text "Meadow")]),
    ("sections", sections)]

/-- What sections are read as: of each its type, its kind, and the names of its further entries. -/
def sectionsRead (v : Value) : Except Rejection (List (String × Option SectionKind × List String)) :=
  (schema.read v).map fun t => t.sections.map fun s => (s.type, s.kind?, s.extras.map (·.1))

/-- Columns that are wider than a page. -/
def wideColumns : Value :=
  .mapping [
    ("title", .mapping [("widthPercent", .int 70), ("label", .text "Article")]),
    ("price", .mapping [("widthPercent", .int 70), ("label", .text "Price")])]

/-- A header, a section of a type that is not known, and a table. -/
def plainTags : Value :=
  sectionsValue (.list [
    .mapping [("type", .text "header")], .mapping [("type", .text "coupon"), ("colour", .text "red")],
    .mapping [("type", .text "productTable"), ("columns", wideColumns)]])

theorem plain_tags_decide : ∃ t, schema.read plainTags = .ok t ∧ TagsDecide plainTags t ∧
    t.sections.map (fun s => (s.type, s.kind?, s.extras.map (·.1))) =
      [("header", some (.plain .header), []), ("coupon", none, ["colour"]),
        ("productTable", some .productTable, [])] := by
  have read : sectionsRead plainTags = .ok
      [("header", some (.plain .header), []), ("coupon", none, ["colour"]),
        ("productTable", some .productTable, [])] := by decide +kernel
  obtain ⟨t, given, seen⟩ := map_eq_ok.mp read
  exact ⟨t, given, tags_decide given, seen⟩

/-- A table and a section without a type, whose tags have white space around them. -/
def paddedTags : Value :=
  sectionsValue (.mapping [
    (" productTable ", .mapping [("columns", wideColumns)]), ("  ", .mapping [])])

/-- A section whose type is that of tables is read as one of unknown type, its columns as entries
without a meaning, and the validator does not look at their widths; another section has no type. -/
theorem padded_table_is_unknown : ∃ t, schema.read paddedTags = .ok t ∧
    ∃ table bare, t.sections = [table, bare] ∧
      table.type = SectionKind.productTable.tag ∧ ¬ table.Tagged ∧
      table.schema = Section.unsupportedSchema ∧ table.extras.map (·.1) = ["columns"] ∧
      Validator.checkColumns table = [] ∧ bare.type = "" := by
  have read : sectionsRead paddedTags = .ok
      [("productTable", none, ["columns"]), ("", none, [])] := by decide
  obtain ⟨t, given, seen⟩ := map_eq_ok.mp read
  obtain ⟨table, rest, both, first, others⟩ := List.map_eq_cons_iff.mp seen
  obtain ⟨bare, nothing, rfl, second, behind⟩ := List.map_eq_cons_iff.mp others
  obtain rfl := List.map_eq_nil_iff.mp behind
  obtain ⟨type, described⟩ := Prod.mk.inj first
  obtain ⟨unknown, extras⟩ := Prod.mk.inj described
  refine ⟨t, given, table, bare, both, type, ?_, ?_, extras, ?_, (Prod.mk.inj second).1⟩
  · rintro ⟨-, variant⟩
    rw [unknown, type] at variant
    revert variant
    decide
  · rw [table.schema_eq_kind, unknown]
    rfl
  · rw [Validator.checkColumns, Section.columns_of_unknown unknown]
    rfl

end Template

end InvoiceForms
