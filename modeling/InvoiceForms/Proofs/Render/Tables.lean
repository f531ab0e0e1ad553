import InvoiceForms.Proofs.Render.Positions
import InvoiceForms.Proofs.Render.Supply

/-!
# Rows under their headers

The headers of a table and the entries of each of its rows are both made from one list, the enabled columns
with the indices at which they are declared (`Section.shownColumns`). So every entry stands under its header,
and a column that is switched off goes with the cells under it and nothing else (`rows_line_up`). The items
of a loop all have the same number of cells; either all rows have the wrong shape or none.
-/

namespace InvoiceForms

open InvoiceForms.Results InvoiceForms.Text

/-- The cells that the rows of a table are made of, one list for each item of the first loop that has any
items, in order. -/
inductive SuppliedBy (lookup : Lookup) : Entries String → List (List String) → Prop
  | nothing {content : Entries String} (empty : ∀ f ∈ content, NoItems lookup f.2) :
      SuppliedBy lookup content []
  | loop (before after : Entries String) {f : String × String} {body : List Token} {items : List Value}
      {supply : List (List String)} (empty : ∀ g ∈ before, NoItems lookup g.2)
      (loops : LoopsOver lookup f.2 body items) (some : items ≠ [])
      (cells : List.Forall₂ (CellsFor lookup body) (items.zipIdx 1) supply) :
      SuppliedBy lookup (before ++ f :: after) supply

/-- The enabled columns of a section, each with the index at which it is declared. -/
def Section.shownColumns (s : Section) : List ((String × Column) × Nat) :=
  s.columns.zipIdx.filter (·.1.2.enabled)

/-- A named column, switched off if it has the name. -/
def Column.offAt (key : String) (c : String × Column) : String × Column :=
  if c.1 = key then (c.1, { c.2 with enabled := false }) else c

/-- A table in which a column is switched off. -/
def Section.switchOff (key : String) (s : Section) : Section :=
  s.withColumns (s.columns.map (Column.offAt key))

/-- A rendered table without a column and the entries under it. -/
def RenderedSection.without (key : String) (x : RenderedSection) : RenderedSection :=
  { x with
    columns := x.columns.filter (·.key ≠ key)
    rows := x.rows.map fun row => ((x.columns.zip row).filter (·.1.key ≠ key)).map (·.2) }

/-- The warnings about the shape of rows. -/
def RenderedSection.shapeWarnings (x : RenderedSection) : List Warning :=
  x.warnings.filter (·.code = "row_shape")

section Supplied

variable {lookup : Lookup}

/-- How many cells an item has is decided by the body of the loop. -/
theorem CellsFor.length {body : List Token} {item : Value × Nat} {cells : List String}
    (own : CellsFor lookup body item cells) :
    cells.length = 1 + Placed.bars (Placed.ofTokens body) := by
  obtain ⟨row, made, rfl⟩ := own
  rw [Row.length_cells, Row.count_marks_ofParts (fun part => Part.wellFormed_of_mem_ofTokens) made,
    Part.flatMap_placed_ofTokens]

theorem CellsFor.length_of_mem {body : List Token} {items : List (Value × Nat)} {supply : List (List String)}
    (each : List.Forall₂ (CellsFor lookup body) items supply) :
    ∀ cells ∈ supply, cells.length = 1 + Placed.bars (Placed.ofTokens body) := by
  induction each with
  | nil => exact List.forall_mem_nil _
  | cons first rest ih => exact List.forall_mem_cons.mpr ⟨first.length, ih⟩

/-- All lists of cells are of the same length. -/
theorem SuppliedBy.exists_length {content : Entries String} {supply : List (List String)}
    (supplied : SuppliedBy lookup content supply) : ∃ count, ∀ cells ∈ supply, cells.length = count := by
  cases supplied with
  | nothing empty => exact ⟨0, List.forall_mem_nil _⟩
  | loop before after empty loops some each => exact ⟨_, CellsFor.length_of_mem each⟩

/-- Fields whose loop has no items may stand in front. -/
theorem SuppliedBy.cons {content : Entries String} {supply : List (List String)} {f : String × String}
    (none : NoItems lookup f.2) (supplied : SuppliedBy lookup content supply) :
    SuppliedBy lookup (f :: content) supply := by
  cases supplied with
  | nothing empty => exact .nothing (List.forall_mem_cons.mpr ⟨none, empty⟩)
  | loop before after empty loops some each =>
    exact .loop (f :: before) after (List.forall_mem_cons.mpr ⟨none, empty⟩) loops some each

/-- The cells that a table takes are those of the first loop that has any items. -/
theorem suppliedBy_rowCells {content : Entries String}
    (expands : ∀ f ∈ content, ∃ e, Expansion.ofContent lookup f.2 = .ok e) :
    SuppliedBy lookup content
      (Renderer.rowCells (Entries.mapValues (Renderer.expansionOf lookup) content)) := by
  classical
  induction content with
  | nil => exact .nothing (List.forall_mem_nil _)
  | cons f content ih =>
    rw [List.forall_mem_cons] at expands
    obtain ⟨⟨e, given⟩, others⟩ := expands
    by_cases none : NoItems lookup f.2
    · have passed := Renderer.rowCells_behind [f] content
        (List.forall_mem_singleton.mpr ⟨e, given⟩) (List.forall_mem_singleton.mpr none)
      rw [List.singleton_append] at passed
      rw [passed]
      exact (ih others).cons none
    · rw [Renderer.rowCells_cons_of_items given none]
      have complete : HasCompleteLoop (Token.scan f.2) := by
        by_contra incomplete
        exact none ((noItems_iff given).mpr (cells_of_not_complete given incomplete).2)
      obtain ⟨body, items, loops⟩ := exists_loopsOver given complete
      refine .loop [] content (List.forall_mem_nil _) loops ?_ (loops.cells given).2
      rintro rfl
      have length := loops.length_cells given
      exact none ((noItems_iff given).mpr (List.length_eq_zero_iff.mp length))

end Supplied

namespace Renderer

/-- Cells are cut or filled up one after another. -/
theorem fitCells_succ (n : Nat) (cells : List String) :
    fitCells (n + 1) cells = cells.headD "" :: fitCells n cells.tail := by
  cases cells with
  | nil => rfl
  | cons cell cells =>
    show cell :: (cells ++ List.replicate (n + 1) "").take n = cell :: _
    rw [fitCells, List.tail_cons, List.take_append, List.take_append, List.take_replicate,
      List.take_replicate, Nat.min_eq_left (by omega), Nat.min_eq_left (by omega)]

theorem fitCells_length (cells : List String) : fitCells cells.length cells = cells := by
  rw [fitCells, List.take_left]

/-- The cells of the enabled columns are found at the indices at which the columns are declared. The
induction is on the columns, with the cells in front already passed. -/
theorem enabledCells_fitCells (columns : Entries Column) (cells : List String) (passed : Nat) :
    enabledCells (fitCells columns.length (cells.drop passed)) columns.values =
      ((columns.zipIdx passed).filter (·.1.2.enabled)).map fun c => cells[c.2]?.getD "" := by
  induction columns generalizing passed with
  | nil => rfl
  | cons column columns ih =>
    have first : (cells.drop passed).headD "" = cells[passed]?.getD "" := by
      rw [List.headD_eq_head?_getD, List.head?_drop]
    have rest := ih (passed + 1)
    rw [List.length_cons, fitCells_succ, first, List.tail_drop, Entries.values, List.map_cons, enabledCells,
      List.zipIdx_cons, List.filter_cons]
    rw [Entries.values] at rest
    by_cases enabled : column.2.enabled = true
    · rw [if_pos enabled, if_pos enabled, rest, List.map_cons]
    · rw [if_neg enabled, if_neg enabled, rest]

/-- A row of a table with columns has the trimmed cells at the indices of the enabled columns, and nothing
where there is no cell. -/
theorem tableRow_eq {columns : Entries Column} (some : columns ≠ []) (cells : List String) :
    tableRow columns.values cells =
      (columns.zipIdx.filter (·.1.2.enabled)).map fun c => trimBlank (cells[c.2]?.getD "") := by
  have length : (Entries.values columns).length = columns.length := List.length_map _
  have declared : ¬ (Entries.values columns).isEmpty = true := by
    rw [List.isEmpty_iff_length_eq_zero, length, List.length_eq_zero_iff]
    exact some
  have fitted : tableRow columns.values cells =
      enabledCells (fitCells columns.length (cells.map trimBlank)) columns.values := by
    rw [tableRow, if_neg declared, length]
    by_cases fits : (cells.map trimBlank).length = columns.length
    · rw [if_pos fits, ← fits, fitCells_length]
    · rw [if_neg fits]
  have entries := enabledCells_fitCells columns (cells.map trimBlank) 0
  rw [List.drop_zero] at entries
  rw [fitted, entries]
  refine List.map_congr_left fun c _ => ?_
  rw [List.getElem?_map]
  cases cells[c.2]? with
  | some cell => rfl
  | none => exact (by decide : "" = trimBlank "")

/-- The headers of a table are made from the enabled columns. -/
theorem renderedColumns_eq (columns : Entries Column) : renderedColumns columns =
    (columns.zipIdx.filter (·.1.2.enabled)).map fun c => ⟨c.1.1, c.1.2.label, c.1.2.widthPercent⟩ := by
  conv_lhs => rw [renderedColumns, ← List.zipIdx_map_fst 0 columns, List.filter_map, List.map_map]
  rfl

/-- Rows that all have the same number of cells give a warning each or none at all. -/
theorem rowsWarnings_of_length {columns : List Column} (some : columns ≠ []) {count : Nat}
    {supply : List (List String)} (same : ∀ cells ∈ supply, cells.length = count) (number : Nat) :
    rowsWarnings columns number supply =
      if count = columns.length then []
      else (List.range' number supply.length).map fun k => .rowShape k count columns.length := by
  induction supply generalizing number with
  | nil => rw [rowsWarnings, List.length_nil, List.range'_zero, List.map_nil, ite_self]
  | cons cells supply ih =>
    rw [List.forall_mem_cons] at same
    have declared : ¬ columns.isEmpty = true := mt List.isEmpty_iff.mp some
    rw [rowsWarnings, ih same.2, rowWarnings, same.1]
    by_cases fits : count = columns.length
    · rw [if_pos (.inr fits), if_pos fits, if_pos fits, List.append_nil]
    · rw [if_neg (not_or.mpr ⟨declared, fits⟩), if_neg fits, if_neg fits, List.length_cons, List.range'_succ,
        List.map_cons, List.singleton_append]

/-- Only how many columns there are counts for these warnings. -/
theorem rowsWarnings_congr {columns others : List Column} (length : columns.length = others.length)
    (number : Nat) (supply : List (List String)) :
    rowsWarnings columns number supply = rowsWarnings others number supply := by
  induction supply generalizing number with
  | nil => rfl
  | cons cells supply ih =>
    have here : rowWarnings columns number cells = rowWarnings others number cells := by
      simp only [rowWarnings, List.isEmpty_iff_length_eq_zero, length]
    rw [rowsWarnings, rowsWarnings, ih, here]

/-- The entries of a column in the rows are found under its header, whatever is left out. -/
theorem entries_zip {α : Type} (columns : List α) (header : α → RenderedColumn) (entry : α → String)
    (key : String) :
    (((columns.map header).zip (columns.map entry)).filter (·.1.key ≠ key)).map (·.2) =
      (columns.filter fun c => (header c).key ≠ key).map entry := by
  rw [List.zip_map', List.filter_map, List.map_map]
  rfl

end Renderer

namespace Warning

/-- Warnings about content are none about the shape of rows. -/
theorem OfContent.code_ne {w : Warning} (kind : w.OfContent) : w.code ≠ "row_shape" := by
  cases kind <;> exact ne_of_beq_false rfl

theorem code_inSection (type : String) (w : Warning) : (w.inSection type).code = w.code := by
  unfold inSection
  split
  · split <;> rfl
  · rfl

end Warning

namespace Section

variable {s : Section} (key : String)

@[simp] theorem type_switchOff : (s.switchOff key).type = s.type := by
  obtain ⟨variant, _, _, _⟩ := s
  cases variant <;> rfl

@[simp] theorem isTable_switchOff : (s.switchOff key).isTable = s.isTable := by
  obtain ⟨variant, _, _, _⟩ := s
  cases variant <;> rfl

@[simp] theorem enabled_switchOff : (s.switchOff key).enabled = s.enabled := by
  obtain ⟨variant, _, _, _⟩ := s
  cases variant <;> rfl

@[simp] theorem position_switchOff : (s.switchOff key).position = s.position := by
  obtain ⟨variant, _, _, _⟩ := s
  cases variant <;> rfl

@[simp] theorem content_switchOff : (s.switchOff key).content = s.content := by
  obtain ⟨variant, _, _, _⟩ := s
  cases variant <;> rfl

theorem columns_switchOff (table : s.isTable = true) :
    (s.switchOff key).columns = s.columns.map (Column.offAt key) := by
  obtain ⟨variant, _, _, _⟩ := s
  cases variant with
  | table columns => rfl
  | plain | unsupported => cases table

/-- Of the enabled columns, all are left but the one that is switched off. -/
theorem shownColumns_switchOff (table : s.isTable = true) :
    (s.switchOff key).shownColumns = s.shownColumns.filter (·.1.1 ≠ key) := by
  have remains (c : (String × Column) × Nat) :
      (Column.offAt key c.1).2.enabled = (decide (c.1.1 ≠ key) && c.1.2.enabled) := by
    unfold Column.offAt
    by_cases here : c.1.1 = key
    · simp [here]
    · simp [here]
  rw [shownColumns, columns_switchOff key table, List.zipIdx_map, List.filter_map, shownColumns,
    List.filter_filter]
  have same : (fun c : (String × Column) × Nat => c.1.2.enabled) ∘ Prod.map (Column.offAt key) id =
      fun c => decide (c.1.1 ≠ key) && c.1.2.enabled := funext remains
  rw [same]
  conv_rhs => rw [← List.map_id (s.columns.zipIdx.filter _)]
  refine List.map_congr_left fun c member => ?_
  have other : c.1.1 ≠ key := of_decide_eq_true (Bool.and_eq_true_iff.mp (List.mem_filter.mp member).2).1
  rw [Prod.map, Column.offAt, if_neg other]
  rfl

end Section

namespace RendersTable

open Renderer

variable {r : Renderer} {ctx : Context} {s : Section} {x : RenderedSection}

theorem columns_eq (given : RendersTable r ctx s x) : x.columns =
    s.shownColumns.map fun c => ⟨c.1.1, c.1.2.label, c.1.2.widthPercent⟩ := by
  rw [given.eq_rendering.2, Section.shownColumns, ← renderedColumns_eq]
  rfl

/-- The entries of a row are the trimmed cells at the indices of the enabled columns. -/
theorem rows_eq_shown (given : RendersTable r ctx s x) (some : s.columns ≠ []) : x.rows =
    (rowCells (Entries.mapValues (expansionOf ctx.lookup) s.content)).map fun cells =>
      s.shownColumns.map fun c => trimBlank (cells[c.2]?.getD "") := by
  rw [given.rows_eq]
  exact List.map_congr_left fun cells _ => tableRow_eq some cells

/-- A table is rendered with a column switched off as well. -/
theorem switchOff (given : RendersTable r ctx s x) (key : String) :
    RendersTable r ctx (s.switchOff key) (rendering ctx (s.switchOff key)) := by
  have table : (s.switchOff key).isTable = true := by
    rw [Section.isTable_switchOff]
    exact given.table
  have enabled : (s.switchOff key).enabled = true := by
    rw [Section.enabled_switchOff]
    exact given.enabled
  have supported : r.supports (s.switchOff key).type = true := by
    rw [Section.type_switchOff]
    exact given.supported
  have none := extras_of_table table
  have renders : (s.switchOff key).Renders ctx := by
    refine ⟨?_, by rw [none]; rfl⟩
    rw [Section.content_switchOff]
    exact given.eq_rendering.1.content
  have data : ∀ e ∈ (s.switchOff key).extras, ∃ j, e.2 = Value.ofJson j := by
    rw [none]
    exact List.forall_mem_nil _
  exact ⟨enabled, supported, table,
    (render_eq_ok enabled data).mpr ⟨fun _ => renders, (if_pos supported).symm⟩⟩

/-- What is left is what was rendered, without the column. -/
theorem rendering_switchOff (given : RendersTable r ctx s x) (some : s.columns ≠ []) (key : String) :
    rendering ctx (s.switchOff key) = x.without key := by
  have columns := Section.columns_switchOff key given.table
  have declared : (s.switchOff key).columns ≠ [] := by
    rw [columns]
    exact mt List.map_eq_nil_iff.mp some
  have length : (s.switchOff key).columns.values.length = s.columns.values.length := by
    rw [columns, Entries.values, Entries.values, List.length_map, List.length_map, List.length_map]
  have header := (given.switchOff key).columns_eq
  have rows := (given.switchOff key).rows_eq_shown declared
  have warnings := rowsWarnings_congr length 1 (cellsOf ctx s)
  rw [Section.shownColumns_switchOff key given.table] at header rows
  have headerLeft : x.columns.filter (·.key ≠ key) =
      (s.shownColumns.filter (·.1.1 ≠ key)).map fun c => ⟨c.1.1, c.1.2.label, c.1.2.widthPercent⟩ := by
    rw [given.columns_eq, List.filter_map]
    rfl
  have rowsLeft : (x.rows.map fun row => ((x.columns.zip row).filter (·.1.key ≠ key)).map (·.2)) =
      (rowCells (Entries.mapValues (expansionOf ctx.lookup) s.content)).map fun cells =>
        (s.shownColumns.filter (·.1.1 ≠ key)).map fun c => trimBlank (cells[c.2]?.getD "") := by
    rw [given.columns_eq, given.rows_eq_shown some, List.map_map]
    exact List.map_congr_left fun cells _ => entries_zip _ _ _ key
  have cells : cellsOf ctx (s.switchOff key) = cellsOf ctx s := by
    rw [cellsOf, Section.isTable_switchOff, Section.content_switchOff, cellsOf]
  rw [Section.content_switchOff] at rows
  rw [RenderedSection.without, headerLeft, rowsLeft, ← header, ← rows, given.eq_rendering.2]
  simp only [rendering, Section.type_switchOff, Section.position_switchOff, Section.content_switchOff, cells,
    warnings]

/-- The warnings about the shape of rows are those that the rows give. -/
theorem shapeWarnings_eq (given : RendersTable r ctx s x) : x.shapeWarnings =
    (rowsWarnings s.columns.values 1 (cellsOf ctx s)).map (·.inSection s.type) := by
  have kept : ((fun w : Warning => decide (w.code = "row_shape")) ∘ fun w : Warning => w.inSection s.type) =
      fun w : Warning => decide (w.code = "row_shape") :=
    funext fun w => by rw [Function.comp_apply, Warning.code_inSection]
  rw [RenderedSection.shapeWarnings, given.eq_rendering.2, rendering, List.filter_map, kept, List.filter_append]
  have content : ((Entries.mapValues (expansionOf ctx.lookup) s.content).flatMap (·.2.warnings)).filter
      (fun w => decide (w.code = "row_shape")) = [] := by
    refine List.filter_eq_nil_iff.mpr fun w member => ?_
    obtain ⟨e, inside, arose⟩ := List.mem_flatMap.mp member
    have expanded := expandFields_eq_ok.mpr ⟨given.eq_rendering.1.content, rfl⟩
    obtain ⟨text, made⟩ := of_mem_expandFields expanded inside
    rw [decide_eq_true_eq]
    exact (Expansion.ofContent_of_mem_warnings made arose).code_ne
  have rows : (rowsWarnings s.columns.values 1 (cellsOf ctx s)).filter
      (fun w => decide (w.code = "row_shape")) = rowsWarnings s.columns.values 1 (cellsOf ctx s) :=
    List.filter_eq_self.mpr fun w member => by
      obtain ⟨row, count, rfl⟩ := exists_of_mem_rowsWarnings member
      rfl
  rw [content, rows, List.nil_append]

/-- For every enabled table of a supported type with columns, and all data with which it is rendered. Headers
and entries are made from the same list, the enabled columns with the indices at which they are declared: so
each row has as many entries as there are headers, and an entry is the trimmed cell at the index of its
column, or empty. There is a row for each item of the first loop that has any, in order. Warnings about the
shape of rows are given for none of them or for all, numbered from one. A column that is switched off takes
its header and the entries under it along and changes nothing else. -/
theorem rows_line_up (given : RendersTable r ctx s x) (some : s.columns ≠ []) :
    (x.columns = s.shownColumns.map fun c => ⟨c.1.1, c.1.2.label, c.1.2.widthPercent⟩) ∧
    (∀ row ∈ x.rows, row.length = x.columns.length) ∧
    (∃ supply, SuppliedBy ctx.lookup s.content supply ∧
      (x.rows = supply.map fun cells => s.shownColumns.map fun c => trimBlank (cells[c.2]?.getD "")) ∧
      ∃ count, (∀ cells ∈ supply, cells.length = count) ∧
        x.shapeWarnings =
          if count = s.columns.length then []
          else (List.range' 1 x.rows.length).map fun number =>
            (Warning.rowShape number count s.columns.length).inSection s.type) ∧
    ∀ key, r.render (s.switchOff key) ctx = .ok (x.without key) := by
  have columns := given.columns_eq
  have rows := given.rows_eq_shown some
  have supplied := suppliedBy_rowCells given.eq_rendering.1.content
  have length : s.columns.values.length = s.columns.length := List.length_map _
  refine ⟨columns, ?_, ⟨_, supplied, rows, ?_⟩, fun key => ?_⟩
  · intro row member
    rw [rows] at member
    obtain ⟨cells, -, rfl⟩ := List.mem_map.mp member
    rw [columns, List.length_map, List.length_map]
  · obtain ⟨count, same⟩ := supplied.exists_length
    have declared : s.columns.values ≠ [] := mt List.map_eq_nil_iff.mp some
    refine ⟨count, same, ?_⟩
    rw [given.shapeWarnings_eq, cellsOf, if_pos given.table, rowsWarnings_of_length declared same, length, rows,
      List.length_map, apply_ite (List.map _), List.map_nil, List.map_map]
    rfl
  · rw [(given.switchOff key).rendered, given.rendering_switchOff some]

/-- The second of three columns is switched off, and items have a cell less than there are columns. -/
theorem short_rows_line_up :
    let ctx : Context :=
      { order := [("products", .list [.mapping [("name", .text "Rose")], .mapping [("name", .text "Ivy")]])] }
    let s : Section :=
      { variant := .table [("article", {}), ("number", { enabled := false }), ("price", { label := some "Price" })]
        content := [("rows", "{{loop:order.products}}{{name}} | {{@index}}{{/loop}}")] }
    ∃ x, RendersTable {} ctx s x ∧ s.columns ≠ [] ∧ (∀ row ∈ x.rows, row.length = x.columns.length) ∧
      Renderer.render {} (s.switchOff "article") ctx = .ok (x.without "article") ∧
      x.rows = [["Rose", ""], ["Ivy", ""]] ∧ x.shapeWarnings.map (·.path) = ["rows.1", "rows.2"] := by
  intro ctx s
  let x : RenderedSection :=
    { type := "productTable", position := 0
      fields := [("rows", "Rose | 1Ivy | 2")]
      columns := [⟨"article", none, .zero false⟩, ⟨"price", some "Price", .zero false⟩]
      rows := [["Rose", ""], ["Ivy", ""]]
      warnings := [(Warning.rowShape 1 2 3).inSection "productTable",
        (Warning.rowShape 2 2 3).inSection "productTable"] }
  have given : RendersTable {} ctx s x := ⟨rfl, by decide, rfl, by decide⟩
  have declared : s.columns ≠ [] := List.cons_ne_nil _ _
  have up := rows_line_up given declared
  exact ⟨x, given, declared, up.2.1, up.2.2.2 "article", rfl, by decide⟩

end RendersTable

end InvoiceForms
