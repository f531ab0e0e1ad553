import InvoiceForms.Proofs.Template.Documents
import InvoiceForms.Record.Assignment

/-!
# What validation makes true of templates

The id of a template that validation lets through can be used as a file name, whatever data it was
read from and whatever was assigned to it since. The flag that a document is read with is the flag of
its template, whatever the document says of itself.
-/

namespace InvoiceForms

open InvoiceForms.Record InvoiceForms.Results

namespace Template

variable {entries : Entries Value} {t : Template}

/-- The field of the id. -/
def idField : RecordField Template :=
  .mandatory "id" "id" (.textVia idRule usableId) (·.id) fun x r => { r with id := x }

theorem usableId_eq_ok {given id : String} (usable : usableId given = .ok id) :
    TemplateId.isValid id = true := by
  unfold usableId at usable
  split at usable
  · next valid =>
    cases usable
    exact valid
  · cases usable

/-- What the id field takes is an id. -/
theorem isValid_of_idField {v : Value} {change : Template → Template}
    (taken : idField.read v = .ok change) (t : Template) :
    TemplateId.isValid (change t).id = true := by
  obtain ⟨id, content, rfl⟩ := RecordField.make_read_eq_ok.mp taken
  obtain ⟨given, -, normal⟩ := bind_eq_ok.mp content
  cases usable : usableId given with
  | ok id' =>
    rw [usable] at normal
    cases normal
    exact usableId_eq_ok usable
  | error reason =>
    rw [usable] at normal
    cases normal

/-- No other field than its own changes the id. -/
theorem id_of_field {f : RecordField Template} (member : f ∈ schema.fields.tail) {v : Value}
    {change : Template → Template} (taken : f.read v = .ok change) (t : Template) :
    (change t).id = t.id := by
  simp only [schema, List.tail_cons, List.mem_cons, List.not_mem_nil, or_false] at member
  rcases member with rfl | rfl | rfl | rfl | rfl
  all_goals
    obtain ⟨x, -, rfl⟩ := RecordField.make_read_eq_ok.mp taken
    rfl

/-- A template that is read has the id that its entries give. -/
theorem id_of_readEntries (given : schema.readEntries entries = .ok t) : ∃ v,
    entries.get? "id" = some v ∧ (Codec.textVia idRule usableId).read v = .ok t.id := by
  obtain ⟨fresh, taken, extra, -⟩ := Schema.readEntries_eq_ok.mp given
  obtain rfl : fresh = t := congrArg Prod.fst extra
  refine Schema.holds_of_field [] schema.fields.tail (f := idField) (p := fun t => ∃ v,
    entries.get? "id" = some v ∧ (Codec.textVia idRule usableId).read v = .ok t.id) taken ?_ ?_ ?_ ?_
  · exact fun _ v _ => RecordField.make_explained (Codec.textVia_explained _ _) v
  · intro t key v change _ found content
    obtain ⟨id, read, rfl⟩ := RecordField.make_read_eq_ok.mp content
    refine ⟨v, ?_, read⟩
    -- The key and the name of the field are the same.
    unfold RecordField.source at found
    split at found
    · next here =>
      cases found
      exact here
    · next absent =>
      rw [show idField.name = idField.key from rfl, absent] at found
      cases found
  · intro t _ _ optional
    cases optional
  · intro f member v change t content own
    rw [id_of_field member content t]
    exact own

/-- A template that is read has a usable id. -/
theorem isValid_id_of_readEntries (given : schema.readEntries entries = .ok t) :
    TemplateId.isValid t.id = true := by
  obtain ⟨v, -, read⟩ := id_of_readEntries given
  exact isValid_of_idField (RecordField.make_read_eq_ok.mpr ⟨t.id, read, rfl⟩) t

/-- The templates that validation lets through: those that are read, from data or from a document, and
those that an assignment leaves of them, be it refused or not. -/
inductive Admitted : Template → Prop
  | read {v : Value} {t : Template} (given : schema.read v = .ok t) : Admitted t
  | document {document flag : Value} {t : Template}
    (given : ofDocumentWith document flag = .ok t) : Admitted t
  | assigned {t : Template} (admitted : Admitted t) (name : String) (v : Value) :
    Admitted (schema.assign ⟨t, []⟩ name v).result.record

/-- No field makes a usable id unusable. -/
theorem isValid_id_of_field {f : RecordField Template} (member : f ∈ schema.fields) {v : Value}
    {change : Template → Template} (taken : f.read v = .ok change)
    (valid : TemplateId.isValid t.id = true) : TemplateId.isValid (change t).id = true := by
  rcases List.mem_cons.mp member with rfl | other
  · exact isValid_of_idField taken t
  · rw [id_of_field other taken]
    exact valid

/-- Assignments keep ids usable. -/
theorem isValid_id_of_assign (valid : TemplateId.isValid t.id = true) (name : String) (v : Value) :
    TemplateId.isValid (schema.assign ⟨t, []⟩ name v).result.record.id = true := by
  have assigned {f : RecordField Template} (member : f ∈ schema.fields) :
      TemplateId.isValid (schema.assignField ⟨t, []⟩ f v).result.record.id = true := by
    unfold Schema.assignField
    cases taken : f.read v with
    | error e => exact valid
    | ok change =>
      have still := isValid_id_of_field member taken valid
      dsimp only
      split <;> exact still
  have named : TemplateId.isValid (schema.assignName ⟨t, []⟩ name v).result.record.id = true := by
    have reads : schema.assignsRead = true := rfl
    unfold Schema.assignName
    rw [reads]
    cases found : schema.fields.find? (·.name = name) with
    | none => exact valid
    | some f => exact assigned (List.mem_of_find?_eq_some found)
  unfold Schema.assign Schema.refuseAssignment
  split
  · exact valid
  · split
    · exact valid
    · split
      · exact valid
      · split
        · exact valid
        · exact named

/-- The id of a template that validation lets through can be used as a file name. The induction is on
how the template came about. -/
theorem Admitted.isValid_id (admitted : t.Admitted) : TemplateId.isValid t.id = true := by
  induction admitted with
  | @read v t given =>
    change schema.read v = .ok t at given
    unfold Schema.read at given
    split at given
    · exact isValid_id_of_readEntries given
    · split at given
      · exact isValid_id_of_readEntries given
      · cases given
    · cases given
  | @document document flag t given =>
    unfold ofDocumentWith at given
    split at given
    · exact isValid_id_of_readEntries (Schema.readEntries_of_readPairs (mapError_eq_ok.mp given))
    · cases given
  | assigned admitted name v valid => exact isValid_id_of_assign valid name v

/-- A template that is read with a flag has the flag. -/
theorem isDefault_of_readEntries {flag : Bool}
    (flagged : entries.get? "isDefault" = some (.bool flag))
    (given : schema.readEntries entries = .ok t) : t.isDefault = flag := by
  have source : flagField.source entries = some ("isDefault", .bool flag) :=
    RecordField.source_of_get? flagged
  have reads : flagField.read (.bool flag) = .ok fun t => { t with isDefault := flag } := rfl
  obtain ⟨fresh, taken, extra, -⟩ := Schema.readEntries_eq_ok.mp given
  obtain rfl : fresh = t := congrArg Prod.fst extra
  refine Schema.holds_of_field (schema.fields.take 2) (schema.fields.drop 3) (f := flagField)
    (p := fun t => t.isDefault = flag) taken ?_ ?_ ?_ ?_
  · intro key v found
    rw [source] at found
    cases found
    rw [reads]
    nofun
  · intro t key v change _ found content
    rw [source] at found
    cases found
    rw [reads] at content
    cases content
    rfl
  · intro t _ nothing _
    rw [source] at nothing
    cases nothing
  · intro f member v change t content flagged
    simp only [schema, List.drop_succ_cons, List.drop_zero, List.mem_cons, List.not_mem_nil,
      or_false] at member
    rcases member with rfl | rfl | rfl
    all_goals
      obtain ⟨x, -, rfl⟩ := RecordField.make_read_eq_ok.mp content
      exact flagged

/-- The flag of a document is the one it is read with. -/
theorem isDefault_of_ofDocument {document : Value} {flag : Bool}
    (given : ofDocument document flag = .ok t) : t.isDefault = flag := by
  unfold ofDocument ofDocumentWith at given
  split at given
  · next pairs whole =>
    refine isDefault_of_readEntries (Value.get?_textEntries_concat _ _ _)
      (Schema.readEntries_of_readPairs (mapError_eq_ok.mp given))
  · cases given

end Template

end InvoiceForms
