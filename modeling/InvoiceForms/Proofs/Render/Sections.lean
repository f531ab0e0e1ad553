import InvoiceForms.Proofs.Results
import InvoiceForms.Proofs.Template.SectionDocuments
import InvoiceForms.Render.Section

/-!
# Rendering sections that were sorted

A section that comes back from a store has its content, its columns and its unknown fields in the
order of their keys. It is rendered whenever the section that was stored is, but fields, columns and
cells follow the order that it has now: `Section.KeepsOrder` is what makes the two look alike.
-/

namespace InvoiceForms

open InvoiceForms.Record InvoiceForms.Results

variable {p : Json → Bool} {σ : Arrangement}

namespace Value

theorem attribute?_ofJson (name : String) (j : Json) : (ofJson j).attribute? name = none := by
  cases j <;> rfl

/-- Whether data counts as present does not depend on the order in which it stands. -/
theorem IsData.isTruthy_arrange {v : Value} (data : v.IsData p) :
    (v.arrange .sorted).isTruthy = v.isTruthy := by
  obtain ⟨j, finite, -, rfl⟩ := data
  rw [arrange, toJson_ofJson finite]
  cases j with
  | list items =>
    rw [Json.sortMembers, ← Json.arrangeItems_sorted, Json.arrangeItems_eq_map, ofJson, ofJson,
      ofItems_eq_map, ofItems_eq_map]
    cases items <;> rfl
  | object members =>
    have moved := Arrangement.sorted.of_perm (Entries.mapValues (Json.arrange .sorted) members)
    have same := (moved.map fun e => (e.1, ofJson e.2)).isEmpty_eq
    rw [← Json.arrange_sorted, Json.arrange_object, ofJson, ofJson, ofMembers_eq_mapValues,
      ofMembers_eq_mapValues, isTruthy, isTruthy, Entries.mapValues, same]
    cases members <;> rfl
  | null | bool | int | float | text => rfl

end Value

/-- A rendered section apart from its warnings. -/
def RenderedSection.bare (x : RenderedSection) : RenderedSection := { x with warnings := [] }

namespace Renderer

/-- The expansion of a content string that has one. -/
def expansionOf (lookup : Lookup) (content : String) : Expansion :=
  (Expansion.ofContent lookup content).toOption.getD default

theorem expandFields_eq_ok {lookup : Lookup} {content : Entries String}
    {expansions : Entries Expansion} : expandFields lookup content = .ok expansions ↔
      (∀ f ∈ content, ∃ e, Expansion.ofContent lookup f.2 = .ok e) ∧
        expansions = Entries.mapValues (expansionOf lookup) content := by
  induction content generalizing expansions with
  | nil =>
    rw [expandFields]
    exact ⟨fun h => by cases h; exact ⟨nofun, rfl⟩, fun h => by rw [h.2]; rfl⟩
  | cons f rest ih =>
    obtain ⟨key, text⟩ := f
    rw [expandFields, bind_eq_ok, List.forall_mem_cons]
    constructor
    · rintro ⟨e, first, others⟩
      obtain ⟨es, tail, made⟩ := bind_eq_ok.mp others
      obtain ⟨each, rfl⟩ := ih.mp tail
      refine ⟨⟨⟨e, first⟩, each⟩, ?_⟩
      rw [← return_eq_ok.mp made, Entries.mapValues, Entries.mapValues, List.map_cons, expansionOf,
        first]
      rfl
    · rintro ⟨⟨⟨e, first⟩, each⟩, rfl⟩
      refine ⟨e, first, bind_eq_ok.mpr ⟨_, ih.mpr ⟨each, rfl⟩, ?_⟩⟩
      rw [Entries.mapValues, Entries.mapValues, List.map_cons, expansionOf, first]
      rfl

/-- What is demanded of data is not there. -/
theorem demand_ofJson (name : String) (j : Json) : demand name (Value.ofJson j) =
    .error (.noAttribute (Value.ofJson j).kindName name) := by
  rw [demand, Value.attribute?_ofJson]
  rfl

theorem looseColumnsFrom_ne_ok {members : List (String × Json)} (some : members ≠ [])
    (loose : List RenderedColumn) : looseColumnsFrom (Value.ofMembers members) ≠ .ok loose := by
  obtain ⟨⟨key, x⟩, rest, rfl⟩ := List.exists_cons_of_ne_nil some
  intro given
  obtain ⟨here, first, -⟩ := bind_eq_ok.mp given
  obtain ⟨enabled, asked, -⟩ := bind_eq_ok.mp first
  rw [demand_ofJson] at asked
  cases asked

/-- Columns among unknown fields of data are none: as soon as there is something in their place, the
section is not rendered. -/
theorem looseColumns_eq_ok {s : Section} (data : ∀ e ∈ s.extras, ∃ j, e.2 = Value.ofJson j)
    {loose : List RenderedColumn} : looseColumns s = .ok loose ↔
      ((s.extras.get? "columns").getD .null).isTruthy = false ∧ loose = [] := by
  obtain ⟨j, found⟩ : ∃ j, (s.extras.get? "columns").getD .null = Value.ofJson j := by
    cases found : s.extras.get? "columns" with
    | none => exact ⟨.null, rfl⟩
    | some v => exact data _ (Entries.mem_of_get? found)
  unfold looseColumns
  dsimp only
  rw [found]
  by_cases present : (Value.ofJson j).isTruthy = true
  · rw [if_pos present, present]
    refine ⟨fun given => ?_, fun absent => by cases absent.1⟩
    exfalso
    cases j with
    | object members =>
      refine looseColumnsFrom_ne_ok ?_ loose given
      rintro rfl
      cases present
    | list | text | int | float | bool =>
      obtain ⟨items, asked, -⟩ := bind_eq_ok.mp given
      rw [demand_ofJson] at asked
      cases asked
    | null => cases present
  · rw [if_neg present, return_eq_ok]
    exact ⟨fun h => ⟨eq_false_of_ne_true present, h.symm⟩, fun h => h.2.symm⟩

/-- The cells of the rows of a section, before they are put under columns. -/
def cellsOf (ctx : Context) (s : Section) : List (List String) :=
  if s.isTable then rowCells (Entries.mapValues (expansionOf ctx.lookup) s.content) else []

/-- What a section is rendered to, when it is. -/
def rendering (ctx : Context) (s : Section) : RenderedSection :=
  let expansions := Entries.mapValues (expansionOf ctx.lookup) s.content
  let columns := s.columns.values
  let cells := cellsOf ctx s
  let warnings := expansions.flatMap (·.2.warnings) ++ rowsWarnings columns 1 cells
  { type := s.type
    position := s.position
    fields := expansions.map fun e => (e.1, e.2.text)
    columns := renderedColumns s.columns
    rows := cells.map (tableRow columns)
    warnings := warnings.map (·.inSection s.type) }

end Renderer

namespace Section

open Renderer

/-- A section is rendered when each of its content strings has an expansion, and nothing stands in
the place of columns that are not known. -/
structure Renders (ctx : Context) (s : Section) : Prop where
  content : ∀ f ∈ s.content, ∃ e, Expansion.ofContent ctx.lookup f.2 = .ok e
  columns : ((s.extras.get? "columns").getD .null).isTruthy = false

/-- A section looks as before when it is sorted: its fields and its enabled columns stand in the
order of their keys already, and the cells of each row stay under their columns. -/
structure KeepsOrder (ctx : Context) (s : Section) : Prop where
  content : s.content.Pairwise fun a b => a.1 ≤ b.1
  columns : (s.columns.filter (·.2.enabled)).Pairwise fun a b => a.1 ≤ b.1
  rows : ∀ expansions, expandFields ctx.lookup s.content = .ok expansions →
    ∀ cells ∈ rowCells expansions,
      tableRow (Entries.values (Json.sortEntries s.columns)) cells = tableRow s.columns.values cells

variable {s : Section} {ctx : Context}

/-- Rows are as before when all columns stand in the order of their keys. -/
theorem keepsOrder_of_pairwise (content : s.content.Pairwise fun a b => a.1 ≤ b.1)
    (columns : s.columns.Pairwise fun a b => a.1 ≤ b.1) : s.KeepsOrder ctx := by
  have stays : Json.sortEntries s.columns = s.columns := Arrangement.sorted.of_of_pairwise columns
  refine ⟨content, columns.filter _, ?_⟩
  intro expansions _ cells _
  rw [stays]

theorem renderEnabled_eq_ok (data : ∀ e ∈ s.extras, ∃ j, e.2 = Value.ofJson j)
    {x : RenderedSection} : renderEnabled s ctx = .ok x ↔ s.Renders ctx ∧ x = rendering ctx s := by
  unfold renderEnabled
  constructor
  · intro given
    obtain ⟨expansions, filled, rest⟩ := bind_eq_ok.mp given
    obtain ⟨loose, none, made⟩ := bind_eq_ok.mp rest
    obtain ⟨content, rfl⟩ := expandFields_eq_ok.mp (mapError_eq_ok.mp filled)
    obtain ⟨columns, rfl⟩ := (looseColumns_eq_ok data).mp none
    refine ⟨⟨content, columns⟩, ?_⟩
    rw [← return_eq_ok.mp made, List.append_nil]
    rfl
  · rintro ⟨⟨content, columns⟩, rfl⟩
    have filled := expandFields_eq_ok.mpr ⟨content, rfl⟩
    have none := (looseColumns_eq_ok data).mpr ⟨columns, rfl⟩
    rw [filled, none]
    show Except.ok _ = Except.ok _
    rw [List.append_nil]
    rfl

@[simp] theorem isTable_arrange (σ : Arrangement) (s : Section) :
    (s.arrange σ).isTable = s.isTable := by
  obtain ⟨variant, _, _, _⟩ := s
  cases variant <;> rfl

theorem columns_arrange (σ : Arrangement) (s : Section) : (s.arrange σ).columns = σ.of s.columns := by
  obtain ⟨variant, _, _, _⟩ := s
  cases variant with
  | table columns => rfl
  | plain | unsupported => exact (σ.of_of_pairwise .nil).symm

theorem extras_arrange (σ : Arrangement) (s : Section) :
    (s.arrange σ).extras = σ.of (Entries.mapValues (Value.arrange σ) s.extras) := by
  obtain ⟨variant, _, _, _⟩ := s
  cases variant with
  | unsupported type extras => rfl
  | plain | table => exact (σ.of_of_pairwise .nil).symm

theorem Accepted.nodup_extras (accepted : s.Accepted σ p) : (Entries.keys s.extras).Nodup := by
  have keys := accepted.distinctMembers
  obtain ⟨variant, _, _, _⟩ := s
  cases variant with
  | unsupported type extras =>
    change (Entries.keys (unsupportedSchema.members .keys _)).Nodup at keys
    rw [keys_members_unsupported, List.nodup_append] at keys
    exact keys.2.1
  | plain | table => exact List.nodup_nil

theorem Accepted.data_extras (accepted : s.Accepted σ p) :
    ∀ e ∈ s.extras, ∃ j, e.2 = Value.ofJson j := by
  intro e member
  obtain ⟨j, -, -, same⟩ := accepted.data e member
  exact ⟨j, same.symm⟩

theorem data_extras_sorted (s : Section) :
    ∀ e ∈ (s.arrange .sorted).extras, ∃ j, e.2 = Value.ofJson j := by
  intro e member
  rw [extras_arrange, Arrangement.mem_of] at member
  obtain ⟨d, -, rfl⟩ := List.mem_map.mp member
  exact ⟨_, rfl⟩

/-- A section that was sorted is rendered when it was before. -/
theorem Accepted.renders_sorted (accepted : s.Accepted σ p) :
    (s.arrange .sorted).Renders ctx ↔ s.Renders ctx := by
  have content : ∀ f, f ∈ (s.arrange .sorted).content ↔ f ∈ s.content := fun f =>
    Arrangement.mem_of .sorted
  have columns : (((s.arrange .sorted).extras.get? "columns").getD .null).isTruthy =
      ((s.extras.get? "columns").getD .null).isTruthy := by
    have distinct : (Entries.keys (Entries.mapValues (Value.arrange .sorted) s.extras)).Nodup := by
      rw [Entries.keys_mapValues]
      exact accepted.nodup_extras
    rw [extras_arrange, Arrangement.get?_of .sorted distinct, Entries.get?_mapValues]
    cases found : s.extras.get? "columns" with
    | none => rfl
    | some v => exact (accepted.data _ (Entries.mem_of_get? found)).isTruthy_arrange
  constructor
  · intro renders
    exact ⟨fun f member => renders.content f ((content f).mpr member), columns ▸ renders.columns⟩
  · intro renders
    exact ⟨fun f member => renders.content f ((content f).mp member), columns.trans renders.columns⟩

theorem columns_of_not_table (plain : s.isTable = false) : s.columns = [] := by
  obtain ⟨variant, _, _, _⟩ := s
  cases variant with
  | table columns => cases plain
  | plain | unsupported => rfl

theorem renderedColumns_sorted_iff {columns : Entries Column} (distinct : (Entries.keys columns).Nodup) :
    renderedColumns (Json.sortEntries columns) = renderedColumns columns ↔
      (columns.filter (·.2.enabled)).Pairwise fun a b => a.1 ≤ b.1 := by
  unfold renderedColumns
  change ((Arrangement.sorted.of columns).filter _).map _ = _ ↔ _
  rw [← Arrangement.sorted.of_filter distinct]
  exact Arrangement.map_sorted_eq_iff (·.key) fun _ => rfl

theorem fields_sorted_iff {content : Entries String} :
    ((Entries.mapValues (expansionOf ctx.lookup) (Json.sortEntries content)).map
        fun e => (e.1, e.2.text)) =
      (Entries.mapValues (expansionOf ctx.lookup) content).map (fun e => (e.1, e.2.text)) ↔
      content.Pairwise fun a b => a.1 ≤ b.1 := by
  rw [Entries.mapValues, Entries.mapValues, List.map_map, List.map_map]
  exact Arrangement.map_sorted_eq_iff (f := fun e => (e.1, (expansionOf ctx.lookup e.2).text))
    Prod.fst fun _ => rfl

theorem rows_sorted_iff : (cellsOf ctx s).map (tableRow (Entries.values (Json.sortEntries s.columns))) =
      (cellsOf ctx s).map (tableRow s.columns.values) ↔
      ∀ cells ∈ rowCells (Entries.mapValues (expansionOf ctx.lookup) s.content),
        tableRow (Entries.values (Json.sortEntries s.columns)) cells =
          tableRow s.columns.values cells := by
  unfold cellsOf
  by_cases table : s.isTable = true
  · rw [if_pos table]
    exact List.map_inj_left
  · have plain := eq_false_of_ne_true table
    have none : Json.sortEntries s.columns = s.columns := by
      rw [columns_of_not_table plain]
      exact Arrangement.sorted.of_of_pairwise .nil
    rw [none]
    exact ⟨fun _ _ _ => rfl, fun _ => rfl⟩

/-- Two rendered sections that are alike but for their warnings. -/
theorem bare_eq_iff {x y : RenderedSection} : x.bare = y.bare ↔
    x.type = y.type ∧ x.position = y.position ∧ x.fields = y.fields ∧ x.columns = y.columns ∧
      x.rows = y.rows ∧ x.skipped = y.skipped := by
  simp only [RenderedSection.bare, RenderedSection.mk.injEq, and_true]

/-- What a sorted section is rendered to is what it was before exactly when the order is kept. -/
theorem bare_rendering_sorted_iff (distinct : s.Distinct) (renders : s.Renders ctx) :
    (rendering ctx (s.arrange .sorted)).bare = (rendering ctx s).bare ↔ s.KeepsOrder ctx := by
  have expansions := expandFields_eq_ok.mpr ⟨renders.content, rfl⟩
  have columns : (s.arrange .sorted).columns = Json.sortEntries s.columns := columns_arrange .sorted s
  have content : (s.arrange .sorted).content = Json.sortEntries s.content := rfl
  have cells (ascending : s.content.Pairwise fun a b => a.1 ≤ b.1) :
      cellsOf ctx (s.arrange .sorted) = cellsOf ctx s := by
    have stays : Json.sortEntries s.content = s.content := Arrangement.sorted.of_of_pairwise ascending
    rw [cellsOf, isTable_arrange, content, stays, cellsOf]
  rw [bare_eq_iff]
  unfold rendering
  dsimp only
  rw [content, columns, type_arrange]
  constructor
  · rintro ⟨-, -, fields, shown, rows, -⟩
    have ascending := fields_sorted_iff.mp fields
    rw [cells ascending] at rows
    refine ⟨ascending, (renderedColumns_sorted_iff distinct.2).mp shown, ?_⟩
    intro es given
    rw [expansions] at given
    cases given
    exact rows_sorted_iff.mp rows
  · intro keeps
    rw [cells keeps.content]
    exact ⟨rfl, rfl, fields_sorted_iff.mpr keeps.content,
      (renderedColumns_sorted_iff distinct.2).mpr keeps.columns,
      rows_sorted_iff.mpr (keeps.rows _ expansions), rfl⟩

end Section

end InvoiceForms
