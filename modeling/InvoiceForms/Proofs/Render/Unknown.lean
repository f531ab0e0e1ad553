import InvoiceForms.Proofs.Render.Order
import InvoiceForms.Proofs.Template.Tags

/-!
# Rendering sections of unknown type

A section of unknown type keeps all entries of its payload that no field takes (`Section.mem_of_extras`). Where
such a type is supported, one of them is looked at: what stands under the name of columns is taken for the
columns of a table. Data never is, so a section with anything but an empty value there is not rendered; every
other section is, as far as its content strings can be expanded (`Renderer.render_iff_no_columns`).
-/

namespace InvoiceForms

open InvoiceForms.Record InvoiceForms.Results

namespace Section

/-- What a section of unknown type has under the name of columns. -/
def unknownColumns (s : Section) : Value := (s.extras.get? "columns").getD .null

/-- A section that is to be rendered has something unknown in the place of columns. -/
structure BringsColumns (r : Renderer) (s : Section) : Prop where
  enabled : s.enabled = true
  supported : r.supports s.type = true
  columns : s.unknownColumns.isTruthy = true

/-- The unknown fields of a section are entries of the payload that it was read from. -/
theorem mem_of_extras {payload given : Value} {pairs : List (Value × Value)} {s : Section}
    (accepted : ofPayload payload given = .ok s) (shape : payload.pairs = .ok pairs) :
    ∀ e ∈ s.extras, (Value.text e.1, e.2) ∈ pairs := by
  have described : ofPairs pairs given = .ok s := by
    rw [ofPayload, shape] at accepted
    exact accepted
  obtain ⟨tag, kind, -, read⟩ := reads_of_ofPairs described
  cases kind with
  | some kind =>
    rw [(rules_of_kind (kind_of_readEntries read)).2.1]
    exact List.forall_mem_nil _
  | none =>
    obtain ⟨fresh, -, -, same⟩ := unsupported_of_readEntries (get?_taggedEntries pairs tag) read
    intro e member
    have left : e ∈ unsupportedSchema.leftover (taggedEntries pairs tag) := by
      rw [same] at member
      obtain ⟨variant, _, _, _⟩ := fresh
      cases variant with
      | unsupported type extras => exact member
      | plain | table => cases member
    -- The type is a field, so that what was put among the entries is not left over.
    have notType : e.1 ≠ "type" := fun same =>
      Schema.not_key_of_mem_leftover left (same ▸ List.mem_cons_self)
    obtain ⟨⟨key, v⟩, inside, chosen⟩ :=
      List.mem_filterMap.mp (Entries.mem_of_mem_ofList (List.mem_of_mem_filter left))
    cases key with
    | text name =>
      cases chosen
      rcases List.mem_append.mp inside with inside | last
      · exact inside
      · exact absurd (Value.text.inj (congrArg Prod.fst (List.mem_singleton.mp last))) notType
    | _ => cases chosen

/-- The unknown fields of a section that was read from a JSON object are JSON data. -/
theorem data_extras_of_ofPayload {members : List (String × Json)} {given : Value} {s : Section}
    (accepted : ofPayload (Value.ofJson (.object members)) given = .ok s) :
    ∀ e ∈ s.extras, ∃ j, e.2 = Value.ofJson j := by
  intro e member
  have inside := mem_of_extras accepted rfl e member
  rw [Value.ofMembers_eq_mapValues, Entries.mapValues, List.map_map] at inside
  obtain ⟨d, -, same⟩ := List.mem_map.mp inside
  exact ⟨d.2, (congrArg Prod.snd same).symm⟩

end Section

namespace Renderer

/-- Why something is not taken for columns: a mapping has no columns in it, and nothing else is a mapping. -/
def columnFault : Value → SectionFault
  | .mapping ((_, column) :: _) => .noAttribute column.kindName "enabled"
  | other => .noAttribute other.kindName "items"

variable {r : Renderer} {s : Section} {ctx : Context}

/-- Data in the place of columns is refused unless it is empty. -/
theorem looseColumns_of_data (data : ∀ e ∈ s.extras, ∃ j, e.2 = Value.ofJson j) :
    looseColumns s =
      if s.unknownColumns.isTruthy then .error (columnFault s.unknownColumns) else .ok [] := by
  obtain ⟨j, found⟩ : ∃ j, s.unknownColumns = Value.ofJson j := by
    unfold Section.unknownColumns
    cases found : s.extras.get? "columns" with
    | none => exact ⟨.null, rfl⟩
    | some v => exact data _ (Entries.mem_of_get? found)
  have here : (s.extras.get? "columns").getD .null = Value.ofJson j := found
  unfold looseColumns
  dsimp only
  rw [found, here]
  by_cases present : (Value.ofJson j).isTruthy = true
  · rw [if_pos present, if_pos present]
    cases j with
    | object members =>
      cases members with
      | nil => cases present
      | cons column rest =>
        obtain ⟨key, x⟩ := column
        have asked : looseColumn? key (Value.ofJson x) =
            .error (.noAttribute (Value.ofJson x).kindName "enabled") := by
          rw [looseColumn?, demand_ofJson]
          rfl
        show (looseColumn? key (Value.ofJson x) >>= _) = _
        rw [asked]
        rfl
    | null => cases present
    | _ => rfl
  · rw [if_neg present, if_neg present]
    rfl

theorem renderEnabled_of_data (data : ∀ e ∈ s.extras, ∃ j, e.2 = Value.ofJson j)
    (expands : ∀ f ∈ s.content, ∃ e, Expansion.ofContent ctx.lookup f.2 = .ok e) :
    renderEnabled s ctx =
      if s.unknownColumns.isTruthy then .error (columnFault s.unknownColumns) else .ok (rendering ctx s) := by
  have filled := expandFields_eq_ok.mpr ⟨expands, rfl⟩
  unfold renderEnabled
  rw [filled, looseColumns_of_data data]
  by_cases present : s.unknownColumns.isTruthy = true
  · rw [if_pos present, if_pos present]
    rfl
  · rw [if_neg present, if_neg present]
    show Except.ok _ = Except.ok _
    rw [List.append_nil]
    rfl

/-- For every section whose unknown fields are JSON data, all supported types and all data for which each of
its content strings has an expansion. It is rendered unless it is enabled and of a supported type and has
something in the place of columns that counts as present; then what fails is that columns are asked for
there. Nothing of the kind stands in sections of known types, so they are always rendered. -/
theorem render_iff_no_columns (data : ∀ e ∈ s.extras, ∃ j, e.2 = Value.ofJson j)
    (expands : ∀ f ∈ s.content, ∃ e, Expansion.ofContent ctx.lookup f.2 = .ok e) :
    ((∃ x, r.render s ctx = .ok x) ↔ ¬ s.BringsColumns r) ∧
    (∀ fault, r.render s ctx = .error fault ↔
      s.BringsColumns r ∧ fault = columnFault s.unknownColumns) ∧
    (s.kind? ≠ none → ¬ s.BringsColumns r) := by
  have outcome : (¬ s.BringsColumns r ∧ ∃ x, r.render s ctx = .ok x) ∨
      s.BringsColumns r ∧ r.render s ctx = .error (columnFault s.unknownColumns) := by
    cases on : s.enabled with
    | false =>
      refine .inl ⟨fun brings => ?_, _, by rw [render, on]; rfl⟩
      rw [brings.enabled] at on
      cases on
    | true =>
      cases supported : r.supports s.type with
      | false =>
        refine .inl ⟨fun brings => ?_, _, by rw [render, on, supported]; rfl⟩
        rw [brings.supported] at supported
        cases supported
      | true =>
        have rendered : r.render s ctx = renderEnabled s ctx := by
          rw [render, on, supported]
          rfl
        rw [rendered, renderEnabled_of_data data expands]
        by_cases present : s.unknownColumns.isTruthy = true
        · exact .inr ⟨⟨on, supported, present⟩, if_pos present⟩
        · exact .inl ⟨fun brings => present brings.columns, _, if_neg present⟩
  refine ⟨?_, ?_, ?_⟩
  · rcases outcome with ⟨brings, x, made⟩ | ⟨brings, failed⟩
    · exact iff_of_true ⟨x, made⟩ brings
    · refine iff_of_false ?_ (not_not_intro brings)
      rintro ⟨x, made⟩
      rw [failed] at made
      cases made
  · intro fault
    rcases outcome with ⟨brings, x, made⟩ | ⟨brings, failed⟩
    · rw [made]
      exact iff_of_false nofun fun h => brings h.1
    · rw [failed, Except.error.injEq, eq_comm]
      exact ⟨fun same => ⟨brings, same⟩, And.right⟩
  · intro known brings
    obtain ⟨kind, own⟩ := Option.ne_none_iff_exists'.mp known
    have columns := brings.columns
    rw [Section.unknownColumns, (Section.rules_of_kind own).2.1] at columns
    cases columns

/-- A gallery, a type that is not known, with a caption among its unknown fields. -/
theorem captioned_gallery_rendered :
    let payload := Json.object [("type", .text "gallery"), ("caption", .list [.text "wide"])]
    let r : Renderer := { supported := ["gallery"] }
    ∃ s, Section.ofPayload (Value.ofJson payload) .null = .ok s ∧
      (∀ e ∈ s.extras, ∃ j, e.2 = Value.ofJson j) ∧
      (∀ f ∈ s.content, ∃ e, Expansion.ofContent ({} : Context).lookup f.2 = .ok e) ∧
      s.extras = [("caption", .list [.text "wide"])] ∧ ∃ x, r.render s {} = .ok x := by
  intro payload r
  have accepted : Section.ofPayload (Value.ofJson payload) .null =
      .ok { variant := .unsupported "gallery" [("caption", .list [.text "wide"])] } := by decide
  have data := Section.data_extras_of_ofPayload accepted
  have expands := List.forall_mem_nil fun f : String × String =>
    ∃ e, Expansion.ofContent ({} : Context).lookup f.2 = .ok e
  have rendered := (render_iff_no_columns (r := r) data expands).1
  refine ⟨_, accepted, data, expands, rfl, rendered.mpr fun brings => ?_⟩
  cases brings.columns

/-- A gallery is accepted with a list under the name of columns, and then not rendered. -/
theorem columned_gallery_not_rendered :
    let payload := Json.object [("type", .text "gallery"), ("columns", .list [.text "wide"])]
    let r : Renderer := { supported := ["gallery"] }
    ∃ s, Section.ofPayload (Value.ofJson payload) .null = .ok s ∧ s.content = [] ∧
      r.render s {} = .error (.noAttribute "list" "items") := by
  intro payload r
  exact ⟨{ variant := .unsupported "gallery" [("columns", .list [.text "wide"])] }, by decide, rfl,
    by decide⟩

end Renderer

end InvoiceForms
