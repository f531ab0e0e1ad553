import InvoiceForms.Proofs.Template.Sections

/-!
# Documents of sections

The document of a section has no type, since it stands under it. Read with the type from outside, the
document of a section that data described gives the section again.
-/

namespace InvoiceForms

open InvoiceForms.Record InvoiceForms.Results InvoiceForms.Text

variable {σ : Arrangement} {p : Json → Bool}

namespace Value

/-- The entries among pairs whose keys are texts are a mapping made of the pairs. -/
theorem textEntries_of_texts (m : Entries Value) :
    textEntries (m.map fun e => (text e.1, e.2)) = Entries.ofList m := by
  rw [textEntries, List.filterMap_map]
  congr 1
  exact List.filterMap_some

/-- The last of some pairs is what its key finds. -/
theorem get?_textEntries_concat (pairs : List (Value × Value)) (key : String) (v : Value) :
    Entries.get? key (textEntries (pairs ++ [(text key, v)])) = some v := by
  rw [textEntries, List.filterMap_append, Entries.ofList, Entries.setAll, List.foldl_append]
  exact Entries.get?_set_self key v _

theorem haveTextKeys_of_texts (m : Entries Value) :
    haveTextKeys (m.map fun e => (text e.1, e.2)) = true := by
  rw [haveTextKeys, List.all_eq_true]
  intro p member
  obtain ⟨e, -, rfl⟩ := List.mem_map.mp member
  rfl

end Value

namespace Record.Schema

variable {ρ : Type}

/-- Pairs with texts for keys are read like a mapping. -/
theorem readPairs_of_texts (s : Schema ρ) (m : Entries Value) :
    s.readPairs (m.map fun e => (Value.text e.1, e.2)) = s.readEntries (Entries.ofList m) := by
  rw [readPairs, Value.haveTextKeys_of_texts, if_pos rfl, Value.textEntries_of_texts]

/-- Pairs are read only when their keys are texts. -/
theorem readEntries_of_readPairs {s : Schema ρ} {pairs : List (Value × Value)} {r : ρ}
    (given : s.readPairs pairs = .ok r) : s.readEntries (Value.textEntries pairs) = .ok r := by
  unfold readPairs at given
  dsimp only at given
  split at given
  · exact given
  · split at given <;> cases given

end Record.Schema

namespace Section

/-- The members of a section start with its type. -/
theorem members_eq (s : Section) : s.schema.members .keys s =
    ("type", .text s.type) :: (s.schema.members .keys s).erase "type" := by
  obtain ⟨variant, _, _, _⟩ := s
  cases variant <;> rfl

/-- The entries of a section's document with its type put among them. -/
def documentEntries (σ : Arrangement) (s : Section) : Entries Value :=
  σ.of (Entries.mapValues (fun j => Value.ofJson (Json.arrange σ j))
    ((s.schema.members .keys s).erase "type")) ++ [("type", .text s.type)]

/-- These are the entries of the whole written form. -/
theorem documentEntries_perm (σ : Arrangement) (s : Section) :
    (documentEntries σ s).Perm (s.schema.returned σ s) := by
  have whole : s.schema.returned σ s = σ.of (("type", Value.text s.type) ::
      Entries.mapValues (fun j => Value.ofJson (Json.arrange σ j))
        ((s.schema.members .keys s).erase "type")) := by
    rw [Schema.returned, s.members_eq]
    rfl
  rw [whole, documentEntries]
  refine ((σ.of_perm _).append_right _).trans (.trans ?_ (σ.of_perm _).symm)
  exact List.perm_append_comm

theorem nodup_documentEntries {s : Section}
    (distinct : (Entries.keys (s.schema.members .keys s)).Nodup) :
    (Entries.keys (documentEntries σ s)).Nodup := by
  rw [Entries.keys, ((documentEntries_perm σ s).map Prod.fst).nodup_iff, ← Entries.keys,
    Schema.returned, σ.nodup_keys_of, Entries.keys_mapValues]
  exact distinct

/-- The document of a section is read with the schema of its type. -/
theorem ofPayload_toDocument {s : Section} (nonempty : s.type ≠ "")
    (own : schemaOf s.type = s.schema)
    (distinct : (Entries.keys (s.schema.members .keys s)).Nodup) :
    ofPayload (Value.ofJson (Json.arrange σ s.toDocument)) (.text s.type) =
      (s.schema.readEntries (documentEntries σ s)).mapError s.schema.faultOf := by
  have truthy : (Value.text s.type).isTruthy = true := decide_eq_true nonempty
  have document : Value.ofJson (Json.arrange σ s.toDocument) =
      .mapping (σ.of (Entries.mapValues (fun j => Value.ofJson (Json.arrange σ j))
        ((s.schema.members .keys s).erase "type"))) := by
    rw [toDocument, Json.arrange_object, Value.ofJson, Value.ofMembers_eq_mapValues,
      ← σ.of_mapValues, Entries.mapValues_mapValues]
  have pairs (m : Entries Value) : m.map (fun e => (Value.text e.1, e.2)) ++
      [(Value.text "type", Value.text s.type)] =
        (m ++ [("type", Value.text s.type)]).map fun e => (Value.text e.1, e.2) := by
    rw [List.map_append]
    rfl
  rw [document]
  show ofPairs _ _ = _
  have tag (entries : Entries Value) : tagOf entries (.text s.type) = .text s.type := if_pos truthy
  unfold ofPairs
  dsimp only
  rw [tag, if_pos truthy]
  show readTagged (schemaOf s.type) _ _ = _
  rw [readTagged, own, pairs, Schema.readPairs_of_texts, ← documentEntries,
    Entries.ofList_of_nodup (nodup_documentEntries distinct)]

theorem ofTag?_tag (kind : SectionKind) : SectionKind.ofTag? kind.tag = some kind := by
  cases kind with
  | plain kind => cases kind <;> decide
  | productTable => decide

theorem schemaOf_tag (kind : SectionKind) : schemaOf kind.tag = kindSchema kind := by
  rw [schemaOf, ofTag?_tag]
  rfl

theorem tag_ne_empty (kind : SectionKind) : kind.tag ≠ "" := by
  cases kind with
  | plain kind => cases kind <;> decide
  | productTable => decide

theorem plain_closed (kind : PlainKind) : (plainSchema kind).Closed :=
  ⟨by cases kind <;> decide, rfl, rfl, fun _ => rfl⟩

theorem table_closed : tableSchema.Closed := ⟨by decide, rfl, rfl, fun _ => rfl⟩

/-- A section comes back from its document. -/
def Returns (σ : Arrangement) (s : Section) : Prop :=
  ofPayload (Value.ofJson (Json.arrange σ s.toDocument)) (.text s.type) = .ok (s.arrange σ)

/-- The keys of content and of columns are distinct. -/
def Distinct (s : Section) : Prop :=
  (Entries.keys s.content).Nodup ∧ (Entries.keys s.columns).Nodup

/-- Reading a field leaves these keys distinct. -/
def KeepsDistinct (f : RecordField Section) : Prop :=
  ∀ v change s, f.read v = .ok change → Distinct s → Distinct (change s)

theorem keepsDistinct_common : ∀ f ∈ commonFields, KeepsDistinct f := by
  simp only [commonFields, List.forall_mem_cons, List.not_mem_nil, false_implies, implies_true,
    and_true]
  and_intros
  all_goals
    intro v change s taken distinct
    obtain ⟨x, read, rfl⟩ := RecordField.make_read_eq_ok.mp taken
  · exact distinct
  · exact distinct
  · exact ⟨Codec.nodup_keys_of_mapping read, distinct.2⟩

theorem keepsDistinct_fixedTag (tag : String) : KeepsDistinct (fixedTag tag) := by
  intro v change s taken distinct
  obtain ⟨x, -, rfl⟩ := RecordField.make_read_eq_ok.mp taken
  exact distinct

theorem keepsDistinct_kind (kind : SectionKind) : ∀ f ∈ (kindSchema kind).fields, KeepsDistinct f := by
  cases kind with
  | plain kind => exact List.forall_mem_cons.mpr ⟨keepsDistinct_fixedTag _, keepsDistinct_common⟩
  | productTable =>
    refine List.forall_mem_cons.mpr ⟨keepsDistinct_fixedTag _,
      List.forall_mem_append.mpr ⟨keepsDistinct_common, List.forall_mem_singleton.mpr ?_⟩⟩
    intro v change s taken distinct
    obtain ⟨columns, read, rfl⟩ := RecordField.make_read_eq_ok.mp taken
    have own := Codec.nodup_keys_of_mapping read
    obtain ⟨variant, _, _, _⟩ := s
    cases variant with
    | table => exact ⟨distinct.1, own⟩
    | plain | unsupported => exact distinct

theorem keepsDistinct_open : ∀ f ∈ openFields, KeepsDistinct f := by
  refine List.forall_mem_cons.mpr ⟨?_, keepsDistinct_common⟩
  intro v change s taken distinct
  obtain ⟨type, -, rfl⟩ := RecordField.make_read_eq_ok.mp taken
  obtain ⟨variant, _, _, _⟩ := s
  cases variant <;> exact distinct

/-- What a section of accepted data has. -/
structure Accepted (σ : Arrangement) (p : Json → Bool) (s : Section) : Prop where
  named : s.type ≠ ""
  returns : s.Returns σ
  distinct : s.Distinct
  distinctMembers : (Entries.keys (s.schema.members .keys s)).Nodup
  data : ∀ e ∈ s.extras, e.2.IsData p

/-- A section of a closed schema comes back when its schema has slots. -/
theorem accepted_of_closed {entries : Entries Value} {s : Section} {kept : Section → Prop}
    (kind : SectionKind) (slots : (kindSchema kind).Slots σ kept (arrange σ))
    (closed : (kindSchema kind).Closed) (start : (kindSchema kind).blank.Distinct)
    (variant : ∀ s, kept s → s.schema = kindSchema kind ∧ s.type = kind.tag ∧ s.extras = [])
    (given : (kindSchema kind).readEntries entries = .ok s) : s.Accepted σ p := by
  have taken := closed.readFields_of_readEntries given
  obtain ⟨held, holds⟩ := slots.holds taken
  obtain ⟨own, tag, none⟩ := variant s held
  have keys : (Entries.keys (s.schema.members .keys s)).Nodup := by
    rw [own, closed.keys_members]
    exact closed.distinct
  refine ⟨tag ▸ tag_ne_empty kind, ?_,
    Schema.preserved_of_readFields (keepsDistinct_kind kind) taken start, keys, ?_⟩
  · rw [Returns, ofPayload_toDocument]
    · rw [own, slots.readEntries closed held holds (own ▸ documentEntries_perm σ s)]
      rfl
    · rw [tag]
      exact tag_ne_empty kind
    · rw [tag, schemaOf_tag, own]
    · exact keys
  · rw [none]
    exact nofun

/-- A section whose type is any text has the type that its entry is read as. -/
theorem type_of_readFields {entries : Entries Value} {s : Section}
    (taken : Schema.readFields entries openFields unsupportedSchema.blank = .ok (s, [])) :
    ∃ tag, entries.get? "type" = some tag ∧ readText .free tag = .ok s.type := by
  refine Schema.holds_of_field [] commonFields (p := fun s => ∃ tag, entries.get? "type" = some tag ∧
    readText .free tag = .ok s.type) taken ?_ ?_ ?_ ?_
  · exact fun _ v _ => RecordField.make_explained (Codec.text_explained .free) v
  · intro blank key v change start found read
    cases start
    obtain ⟨type, passed, rfl⟩ := RecordField.make_read_eq_ok.mp read
    exact ⟨v, RecordField.get?_of_source rfl found, passed⟩
  · intro _ _ _ optional
    cases optional
  · simp only [commonFields, List.forall_mem_cons, List.not_mem_nil, false_implies, implies_true,
      and_true]
    and_intros
    all_goals
      intro v change s read held
      obtain ⟨x, -, rfl⟩ := RecordField.make_read_eq_ok.mp read
      exact held

/-- A section of unknown type has the type it is read with, and all entries that no field takes. -/
theorem unsupported_of_readEntries {entries : Entries Value} {tag : Value} {s : Section}
    (named : entries.get? "type" = some tag) (given : unsupportedSchema.readEntries entries = .ok s) :
    ∃ fresh, Schema.readFields entries unsupportedSchema.fields unsupportedSchema.blank =
        .ok (fresh, []) ∧ readText .free tag = .ok fresh.type ∧
      s = withExtras (unsupportedSchema.leftover entries) fresh := by
  obtain ⟨fresh, taken, extra, -⟩ := Schema.readEntries_eq_ok.mp given
  obtain ⟨tag', found, typed⟩ := type_of_readFields taken
  rw [named] at found
  cases found
  exact ⟨fresh, taken, typed, (congrArg Prod.fst extra).symm⟩

/-- Unknown fields do not show in the others. -/
theorem dump_withExtras {f : RecordField Section} (member : f ∈ openFields) (extras : Entries Value)
    (s : Section) : f.dump .keys (withExtras extras s) = f.dump .keys s := by
  obtain ⟨variant, _, _, _⟩ := s
  simp only [openFields, commonFields, List.mem_cons, List.not_mem_nil, or_false] at member
  rcases member with rfl | rfl | rfl | rfl <;> cases variant <;> rfl

theorem keys_members_unsupported (s : Section) : Entries.keys (unsupportedSchema.members .keys s) =
    unsupportedSchema.fields.map (·.key) ++ Entries.keys s.extras := by
  rw [Schema.members, Entries.keys_append, Entries.keys, List.map_map]
  exact congrArg _ (Entries.keys_mapValues _ _)

/-- The members of a section of unknown type have keys of their own. -/
theorem nodup_members_unsupported {s : Section} (distinct : (Entries.keys s.extras).Nodup)
    (others : ∀ e ∈ s.extras, e.1 ∉ unsupportedSchema.fields.map (·.key)) :
    (Entries.keys (unsupportedSchema.members .keys s)).Nodup := by
  rw [keys_members_unsupported, List.nodup_append]
  refine ⟨by decide, distinct, ?_⟩
  intro key isField other isExtra same
  obtain ⟨e, member, rfl⟩ := List.mem_map.mp isExtra
  exact others e member (same ▸ isField)

/-- What is left over of the document of a section of unknown type are its unknown fields. -/
theorem leftover_documentEntries {s : Section} (unknown : s.schema = unsupportedSchema)
    (data : ∀ e ∈ s.extras, e.2.IsData p)
    (others : ∀ e ∈ s.extras, e.1 ∉ unsupportedSchema.fields.map (·.key))
    (distinct : (Entries.keys (unsupportedSchema.members .keys s)).Nodup) :
    unsupportedSchema.leftover (documentEntries σ s) =
      σ.of (Entries.mapValues (Value.arrange σ) s.extras) := by
  have perm := documentEntries_perm σ s
  rw [unknown] at perm
  have present : ∀ f ∈ unsupportedSchema.fields, f.key ∈ Entries.keys (documentEntries σ s) := by
    intro f member
    rw [Schema.mem_keys_of_perm_returned perm]
    exact List.mem_map_of_mem (Schema.mem_members member .keys s)
  -- Behind the type stand the three common fields, and then what is unknown.
  have rest : (s.schema.members .keys s).erase "type" =
      commonFields.map (fun f => (f.key, f.dump .keys s)) ++
        Entries.mapValues Value.toJson s.extras := by
    rw [unknown]
    rfl
  have keys : (Entries.keys (Entries.mapValues (fun j => Value.ofJson (Json.arrange σ j))
      ((s.schema.members .keys s).erase "type"))).Nodup := by
    rw [← unknown, members_eq] at distinct
    rw [Entries.keys_mapValues]
    exact (List.nodup_cons.mp distinct).2
  have known : (Entries.mapValues (fun j => Value.ofJson (Json.arrange σ j))
      (commonFields.map fun f => (f.key, f.dump .keys s))).filter
        (fun e => !decide (e.1 ∈ unsupportedSchema.fields.map (·.key))) = [] := rfl
  have kept : (Entries.mapValues (fun j => Value.ofJson (Json.arrange σ j))
      (Entries.mapValues Value.toJson s.extras)).filter
        (fun e => !decide (e.1 ∈ unsupportedSchema.fields.map (·.key))) =
      Entries.mapValues (Value.arrange σ) s.extras := by
    rw [Entries.mapValues_mapValues, List.filter_eq_self.mpr]
    · exact Entries.mapValues_congr fun e member => (data e member).ofJson_arrange σ
    · intro e member
      obtain ⟨d, inside, rfl⟩ := List.mem_map.mp member
      simp only [others d inside, decide_false, Bool.not_false]
  have type : ([("type", Value.text s.type)] : Entries Value).filter
      (fun e => !decide (e.1 ∈ unsupportedSchema.fields.map (·.key))) = [] := rfl
  rw [Schema.leftover_of_keys present, documentEntries, List.filter_append, type,
    ← σ.of_filter keys fun e => !decide (e.1 ∈ unsupportedSchema.fields.map (·.key)), rest,
    Entries.mapValues_append, List.filter_append, known, kept, List.nil_append, List.append_nil]

/-- A section of unknown type that is read under a trimmed name has this name for its type, and holds
what no field takes. -/
theorem unsupported_of_named {entries : Entries Value} {name : String} {s : Section}
    (named : entries.get? "type" = some (.text name)) (trimmed : trimWhiteSpace name = name)
    (given : unsupportedSchema.readEntries entries = .ok s) :
    ∃ fresh, Schema.readFields entries unsupportedSchema.fields unsupportedSchema.blank =
        .ok (fresh, []) ∧ s = withExtras (unsupportedSchema.leftover entries) fresh ∧
      s.type = name ∧ s.schema = unsupportedSchema ∧ s.extras = unsupportedSchema.leftover entries := by
  obtain ⟨fresh, taken, read, same⟩ := unsupported_of_readEntries named given
  obtain ⟨⟨type, none, variant⟩, -⟩ := (unsupportedSlots .written).holds taken
  have tagged : fresh.type = name := by
    rw [TextRule.eq_normal_of_check (show TextRule.free.check name = .ok fresh.type from read)]
    exact trimmed
  have variant' : s.variant = .unsupported type (unsupportedSchema.leftover entries) := by
    rw [same, withExtras, variant]
  refine ⟨fresh, taken, same, ?_, ?_, ?_⟩
  · rw [← tagged, Section.type, variant', Section.type, variant]
  · rw [Section.schema, variant']
  · rw [Section.extras, variant']

/-- A section of unknown type is read again from its document, arranged as that is. -/
theorem readEntries_documentEntries {entries : Entries Value} {fresh s : Section}
    (taken : Schema.readFields entries unsupportedSchema.fields unsupportedSchema.blank =
      .ok (fresh, [])) (same : s = withExtras (unsupportedSchema.leftover entries) fresh)
    (schema : s.schema = unsupportedSchema) (data : ∀ e ∈ s.extras, e.2.IsData p)
    (others : ∀ e ∈ s.extras, e.1 ∉ unsupportedSchema.fields.map (·.key))
    (keys : (Entries.keys (unsupportedSchema.members .keys s)).Nodup) :
    unsupportedSchema.readEntries (documentEntries σ s) = .ok (s.arrange σ) := by
  obtain ⟨⟨type, none, variant⟩, holds⟩ := (unsupportedSlots σ).holds taken
  have perm := documentEntries_perm σ s
  rw [schema] at perm
  have found : ∀ f ∈ unsupportedSchema.fields, Entries.get? f.key (documentEntries σ s) =
      some (Value.ofJson (Json.arrange σ (f.dump .keys fresh))) := by
    intro f member
    rw [← dump_withExtras member (unsupportedSchema.leftover entries) fresh, ← same]
    exact Schema.get?_of_perm_returned perm keys member
  have again := (unsupportedSlots σ).readFields ⟨type, none, variant⟩ holds found
  refine Schema.readEntries_eq_ok.mpr ⟨_, again, ?_, rfl⟩
  show (withExtras (unsupportedSchema.leftover (documentEntries σ s)) _, _) = _
  rw [leftover_documentEntries schema data others keys, same]
  simp [withExtras, arrange, variant, Variant.arrange, Section.extras, Section.type]

/-- A section of unknown type comes back when its unknown fields are data. -/
theorem accepted_of_unsupported {entries : Entries Value} {name : String} {s : Section}
    (named : entries.get? "type" = some (.text name)) (trimmed : trimWhiteSpace name = name)
    (nonempty : name ≠ "") (unknown : schemaOf name = unsupportedSchema)
    (distinct : (Entries.keys entries).Nodup) (data : ∀ e ∈ entries, e.2.IsData p)
    (given : unsupportedSchema.readEntries entries = .ok s) : s.Accepted σ p := by
  obtain ⟨fresh, taken, same, type, schema, extras⟩ := unsupported_of_named named trimmed given
  have others : ∀ e ∈ s.extras, e.1 ∉ unsupportedSchema.fields.map (·.key) := by
    rw [extras]
    exact fun e => Schema.not_key_of_mem_leftover
  have extraData : ∀ e ∈ s.extras, e.2.IsData p := by
    rw [extras]
    exact fun e member => data e (List.mem_of_mem_filter member)
  have extraKeys : (Entries.keys s.extras).Nodup := by
    rw [extras]
    exact distinct.sublist (List.filter_sublist.map Prod.fst)
  have keys : (Entries.keys (unsupportedSchema.members .keys s)).Nodup :=
    nodup_members_unsupported extraKeys others
  have mappings : s.Distinct := by
    have distinctFresh : fresh.Distinct := Schema.preserved_of_readFields keepsDistinct_open taken
      ⟨List.nodup_nil, List.nodup_nil⟩
    rw [same]
    obtain ⟨variant, _, _, _⟩ := fresh
    cases variant <;> exact distinctFresh
  have whole : unsupportedSchema.readEntries (documentEntries σ s) = .ok (s.arrange σ) :=
    readEntries_documentEntries taken same schema extraData others keys
  have named : s.type ≠ "" := type ▸ nonempty
  refine ⟨named, ?_, mappings, schema ▸ keys, extraData⟩
  rw [Returns, ofPayload_toDocument named, schema, whole]
  · rfl
  · rw [type, schema, unknown]
  · rw [schema]
    exact keys

/-- The text by which data of a section names its type: a given one, or the one in the data. -/
def nameOf? (payload given : Value) : Option String :=
  match payload.pairs with
  | .ok pairs =>
    match tagOf (Value.textEntries pairs) given with
    | .text name => some name
    | _ => none
  | .error _ => none

/-- A section is read with the schema of a name. -/
theorem readTagged_of_ofPayload (lenient : Value.Lenient p) {payload given : Value} {s : Section}
    (data : payload.IsData p) (dataGiven : given.IsData p) (accepted : ofPayload payload given = .ok s) :
    ∃ pairs name, payload.pairs = .ok pairs ∧ nameOf? payload given = some name ∧ name ≠ "" ∧
      readTagged (schemaOf name) pairs (.text name) = .ok s := by
  unfold ofPayload at accepted
  split at accepted
  · cases accepted
  · next pairs shape =>
    have dataTag : (tagOf (Value.textEntries pairs) given).IsData p := by
      unfold tagOf
      split
      · exact dataGiven
      · cases found : Entries.get? "type" (Value.textEntries pairs) with
        | none => exact .null lenient
        | some v =>
          exact Value.IsData.of_mem_textEntries (fun q h => data.of_mem_pairs lenient shape h)
            (Entries.mem_of_get? found)
    unfold ofPairs at accepted
    dsimp only at accepted
    split at accepted
    · next truthy =>
      generalize shapeTag : tagOf (Value.textEntries pairs) given = tag at *
      cases tag with
      | text name =>
        refine ⟨pairs, name, shape, ?_, of_decide_eq_true truthy, accepted⟩
        rw [nameOf?, shape]
        dsimp only
        rw [shapeTag]
      | list | mapping => cases accepted
      | null => cases truthy
      | bool | int | float =>
        obtain ⟨fresh, -, unread, -⟩ := unsupported_of_readEntries (Value.get?_textEntries_concat pairs _ _)
          (Schema.readEntries_of_readPairs (mapError_eq_ok.mp accepted))
        cases unread
      | _ =>
        obtain ⟨j, -, -, same⟩ := dataTag
        cases j <;> cases same
    · cases accepted

/-- A section that data describes under a trimmed name comes back from its document. -/
theorem accepted_of_ofPayload (lenient : Value.Lenient p) {payload given : Value} {s : Section}
    (data : payload.IsData p) (dataGiven : given.IsData p)
    (trimmed : ∀ name, nameOf? payload given = some name → trimWhiteSpace name = name)
    (accepted : ofPayload payload given = .ok s) : s.Accepted σ p := by
  obtain ⟨pairs, name, shape, named, nonempty, tagged⟩ :=
    readTagged_of_ofPayload lenient data dataGiven accepted
  have read := Schema.readEntries_of_readPairs (mapError_eq_ok.mp tagged)
  have typed := Value.get?_textEntries_concat pairs "type" (.text name)
  have entriesData : ∀ e ∈ Value.textEntries (pairs ++ [(.text "type", .text name)]),
      e.2.IsData p := by
    intro e member
    refine Value.IsData.of_mem_textEntries ?_ member
    intro q inside
    rcases List.mem_append.mp inside with inside | last
    · exact data.of_mem_pairs lenient shape inside
    · rw [List.mem_singleton.mp last]
      exact .text lenient name
  cases kind : SectionKind.ofTag? name with
  | none =>
    have unknown : schemaOf name = unsupportedSchema := by rw [schemaOf, kind]; rfl
    rw [unknown] at read
    exact accepted_of_unsupported typed (trimmed name named) nonempty unknown
      (Entries.nodup_keys_ofList _) entriesData read
  | some kind' =>
    have own : schemaOf name = kindSchema kind' := by rw [schemaOf, kind]; rfl
    rw [own] at read
    cases kind' with
    | plain plainKind =>
      refine accepted_of_closed (.plain plainKind) (plainSlots σ plainKind) (plain_closed plainKind)
        ⟨List.nodup_nil, List.nodup_nil⟩ ?_ read
      intro s held
      rw [Section.schema, Section.type, Section.extras, held]
      exact ⟨rfl, rfl, rfl⟩
    | productTable =>
      refine accepted_of_closed .productTable (tableSlots σ) table_closed
        ⟨List.nodup_nil, List.nodup_nil⟩ ?_ read
      rintro s ⟨columns, held⟩
      rw [Section.schema, Section.type, Section.extras, held]
      exact ⟨rfl, rfl, rfl⟩

end Section

end InvoiceForms
