import InvoiceForms.Proofs.Content.LoopItems
import InvoiceForms.Proofs.Render.Order

/-!
# The content string that feeds a table

The rows of a table come from the first of its content strings whose loop has items. So the first complete
loop supplies them, but only as long as it has an item or no later loop has one either
(`firstLoop_supplies_iff`): a loop over an empty list lets the next one step in.
-/

namespace InvoiceForms

open InvoiceForms.Results

/-- The loop of a content string, if it has one, has no items. -/
def NoItems (lookup : Lookup) (content : String) : Prop :=
  ∀ body items, LoopsOver lookup content body items → items = []

/-- The rows of a table that is rendered are those that the loop of a content string gives. -/
def RenderedSection.FedBy (x : RenderedSection) (lookup : Lookup) (columns : List Column)
    (content : String) : Prop :=
  ∃ e, Expansion.ofContent lookup content = .ok e ∧ x.rows = e.cells.map (Renderer.tableRow columns)

/-- An enabled table of a supported type, with what it is rendered to. -/
structure RendersTable (r : Renderer) (ctx : Context) (s : Section) (x : RenderedSection) : Prop where
  enabled : s.enabled = true
  supported : r.supports s.type = true
  table : s.isTable = true
  rendered : r.render s ctx = .ok x

section Expanded

variable {lookup : Lookup} {content : String} {e : Expansion}
  (given : Expansion.ofContent lookup content = .ok e)

include given

/-- A loop without items is one without rows. -/
theorem noItems_iff : NoItems lookup content ↔ e.cells = [] := by
  constructor
  · intro none
    by_cases complete : HasCompleteLoop (Token.scan content)
    · obtain ⟨body, items, loops⟩ := exists_loopsOver given complete
      have length := loops.length_cells given
      rw [none body items loops] at length
      exact List.length_eq_zero_iff.mp length
    · exact (cells_of_not_complete given complete).2
  · intro none body items loops
    have length := loops.length_cells given
    rw [none] at length
    exact List.length_eq_zero_iff.mp length.symm

theorem hasLoop_of_cells (some : e.cells ≠ []) : e.hasLoop = true := by
  by_cases complete : HasCompleteLoop (Token.scan content)
  · obtain ⟨body, items, loops⟩ := exists_loopsOver given complete
    exact (loops.cells given).1
  · exact absurd (cells_of_not_complete given complete).2 some

end Expanded

namespace Renderer

variable {lookup : Lookup}

theorem expansionOf_of_ofContent {content : String} {e : Expansion}
    (given : Expansion.ofContent lookup content = .ok e) : expansionOf lookup content = e := by
  rw [expansionOf, given]
  rfl

/-- Fields whose loops have no items add nothing to those behind them. -/
theorem rowCells_behind (before after : Entries String)
    (expands : ∀ f ∈ before, ∃ e, Expansion.ofContent lookup f.2 = .ok e)
    (empty : ∀ f ∈ before, NoItems lookup f.2) :
    rowCells (Entries.mapValues (expansionOf lookup) (before ++ after)) =
      rowCells (Entries.mapValues (expansionOf lookup) after) := by
  induction before with
  | nil => rfl
  | cons f before ih =>
    obtain ⟨e, given⟩ := expands f List.mem_cons_self
    have none := (noItems_iff given).mp (empty f List.mem_cons_self)
    rw [List.cons_append, Entries.mapValues, List.map_cons, rowCells, expansionOf_of_ofContent given,
      if_neg fun loop => loop.2 none]
    exact ih (fun g member => expands g (List.mem_cons_of_mem f member))
      fun g member => empty g (List.mem_cons_of_mem f member)

/-- A loop that has items is the first to supply rows when it stands in front. -/
theorem rowCells_cons_of_items {f : String × String} {after : Entries String} {e : Expansion}
    (given : Expansion.ofContent lookup f.2 = .ok e) (some : ¬ NoItems lookup f.2) :
    rowCells (Entries.mapValues (expansionOf lookup) (f :: after)) = e.cells := by
  rw [noItems_iff given] at some
  rw [Entries.mapValues, List.map_cons, rowCells, expansionOf_of_ofContent given,
    if_pos ⟨hasLoop_of_cells given some, some⟩]

end Renderer

namespace RendersTable

open Renderer

variable {r : Renderer} {ctx : Context} {s : Section} {x : RenderedSection}

/-- A table carries no unknown fields. -/
theorem extras_of_table (table : s.isTable = true) : s.extras = [] := by
  obtain ⟨variant, _, _, _⟩ := s
  cases variant with
  | table columns => rfl
  | plain | unsupported => cases table

theorem eq_rendering (given : RendersTable r ctx s x) : s.Renders ctx ∧ x = rendering ctx s := by
  have data : ∀ e ∈ s.extras, ∃ j, e.2 = Value.ofJson j := by
    rw [extras_of_table given.table]
    exact List.forall_mem_nil _
  obtain ⟨renders, made⟩ := (render_eq_ok given.enabled data).mp given.rendered
  rw [outcomeOf, if_pos given.supported] at made
  exact ⟨renders given.supported, made⟩

theorem rows_eq (given : RendersTable r ctx s x) : x.rows =
    (rowCells (Entries.mapValues (expansionOf ctx.lookup) s.content)).map
      (tableRow s.columns.values) := by
  rw [given.eq_rendering.2, rendering, cellsOf, if_pos given.table]

/-- The first field whose loop has items feeds the table. -/
theorem fedBy_of_first (given : RendersTable r ctx s x) {before after : Entries String}
    {f : String × String} (content : s.content = before ++ f :: after)
    (empty : ∀ g ∈ before, NoItems ctx.lookup g.2) (some : ¬ NoItems ctx.lookup f.2) :
    x.FedBy ctx.lookup s.columns.values f.2 := by
  have expands := given.eq_rendering.1.content
  rw [content, List.forall_mem_append, List.forall_mem_cons] at expands
  obtain ⟨inFront, ⟨e, made⟩, -⟩ := expands
  refine ⟨e, made, ?_⟩
  rw [given.rows_eq, content, rowCells_behind _ _ inFront empty, rowCells_cons_of_items made some]

/-- Without any items there are no rows. -/
theorem rows_of_none (given : RendersTable r ctx s x)
    (empty : ∀ f ∈ s.content, NoItems ctx.lookup f.2) : x.rows = [] := by
  have none := rowCells_behind s.content [] given.eq_rendering.1.content empty
  rw [List.append_nil] at none
  rw [given.rows_eq, none]
  rfl

/-- There are no rows exactly when no loop has items. -/
theorem rows_eq_nil_iff (given : RendersTable r ctx s x) :
    x.rows = [] ↔ ∀ f ∈ s.content, NoItems ctx.lookup f.2 := by
  classical
  constructor
  · intro noRows
    cases found : s.content.find? fun f => ¬ NoItems ctx.lookup f.2 with
    | none => simpa using found
    | some f =>
      obtain ⟨some, before, after, content, empty⟩ := List.find?_eq_some_iff_append.mp found
      simp only [decide_eq_true_eq, Bool.not_eq_true', decide_eq_false_iff_not, not_not] at some empty
      obtain ⟨e, made, rows⟩ := given.fedBy_of_first content empty some
      rw [noRows, eq_comm, List.map_eq_nil_iff] at rows
      exact absurd ((noItems_iff made).mpr rows) some
  · exact given.rows_of_none

/-- A loop without items feeds the table exactly when there are no rows. -/
theorem fedBy_iff_of_noItems {content : String}
    (expands : ∃ e, Expansion.ofContent ctx.lookup content = .ok e)
    (none : NoItems ctx.lookup content) :
    x.FedBy ctx.lookup s.columns.values content ↔ x.rows = [] := by
  constructor
  · rintro ⟨e, made, rows⟩
    rw [rows, (noItems_iff made).mp none, List.map_nil]
  · intro noRows
    obtain ⟨e, made⟩ := expands
    exact ⟨e, made, by rw [noRows, (noItems_iff made).mp none, List.map_nil]⟩

/-- For every enabled table of a supported type and all data with which it is rendered. The rows come from the
first field whose loop has items. So the first field with a complete loop feeds the table, with a row for
each of its items, exactly when it has an item or no later field has one; and without a complete loop there
are no rows. -/
theorem firstLoop_supplies_iff (given : RendersTable r ctx s x) :
    (∀ before f after, s.content = before ++ f :: after →
      (∀ g ∈ before, NoItems ctx.lookup g.2) → ¬ NoItems ctx.lookup f.2 →
      x.FedBy ctx.lookup s.columns.values f.2) ∧
    (∀ before f after, s.content = before ++ f :: after →
      (∀ g ∈ before, ¬ HasCompleteLoop (Token.scan g.2)) → HasCompleteLoop (Token.scan f.2) →
      (∃ body items, LoopsOver ctx.lookup f.2 body items) ∧
        ∀ body items, LoopsOver ctx.lookup f.2 body items →
          (x.FedBy ctx.lookup s.columns.values f.2 ↔
            items ≠ [] ∨ ∀ g ∈ after, NoItems ctx.lookup g.2) ∧
          (x.rows.length = items.length ↔ items ≠ [] ∨ ∀ g ∈ after, NoItems ctx.lookup g.2)) ∧
    ((∀ f ∈ s.content, ¬ HasCompleteLoop (Token.scan f.2)) → x.rows = []) := by
  have noItems {content : String} (incomplete : ¬ HasCompleteLoop (Token.scan content)) :
      NoItems ctx.lookup content := by
    rintro body items ⟨before, opener, closer, after, value, loop, -, -⟩
    exact absurd (hasFirstLoop_iff.mp ⟨before, opener, body, closer, after, loop⟩) incomplete
  refine ⟨fun before f after => given.fedBy_of_first, ?_,
    fun incomplete => given.rows_eq_nil_iff.mpr fun f member => noItems (incomplete f member)⟩
  intro before f after content incomplete complete
  have inFront : ∀ g ∈ before, NoItems ctx.lookup g.2 := fun g member => noItems (incomplete g member)
  obtain ⟨e, made⟩ := given.eq_rendering.1.content f (by rw [content]; simp)
  refine ⟨exists_loopsOver made complete, fun body items loops => ?_⟩
  have length := loops.length_cells made
  by_cases some : items = []
  · -- Without items the field feeds the table as long as there are no rows at all.
    subst some
    have none : NoItems ctx.lookup f.2 := (noItems_iff made).mpr (List.length_eq_zero_iff.mp length)
    have others : x.rows = [] ↔ ∀ g ∈ after, NoItems ctx.lookup g.2 := by
      rw [given.rows_eq_nil_iff, content, List.forall_mem_append, List.forall_mem_cons]
      exact ⟨fun all => all.2.2, fun later => ⟨inFront, none, later⟩⟩
    simp only [ne_eq, not_true_eq_false, false_or, List.length_nil, List.length_eq_zero_iff]
    exact ⟨(fedBy_iff_of_noItems ⟨e, made⟩ none).trans others, others⟩
  · have fed := given.fedBy_of_first content inFront fun none => some (none body items loops)
    refine ⟨iff_of_true fed (.inl some), iff_of_true ?_ (.inl some)⟩
    obtain ⟨e', made', rows⟩ := fed
    rw [rows, List.length_map, loops.length_cells made']

/-- A loop over the names of products, as long as those are a list. -/
theorem loopsOver_names {lookup : Lookup} {items : List Value}
    (found : lookup "order.products" = .ok (.list items)) :
    LoopsOver lookup "{{loop:order.products}}{{name}}{{/loop}}" [⟨.variable, "{{name}}", "name"⟩] items := by
  refine ⟨[], ⟨.opener, "{{loop:order.products}}", "order.products"⟩, ⟨.closer, "{{/loop}}", "/loop"⟩, [],
    .list items, ?_, found, rfl⟩
  exact ⟨by decide, List.forall_mem_nil _, rfl, .plain _ _ (by decide) (by decide) .nil, rfl⟩

/-- A table whose first loop has an item, and whose second loop has two. -/
theorem stocked_firstLoop_supplies :
    let ctx : Context :=
      { order := [("products", .list [.mapping [("name", .text "Rose")]])]
        legal := [("notices", .list [.mapping [("text", .text "a")], .mapping [("text", .text "b")]])] }
    let loop := "{{loop:order.products}}{{name}}{{/loop}}"
    let s : Section :=
      { variant := .table [("article", {})]
        content := [("title", "Goods"), ("rows", loop),
          ("notes", "{{loop:legal.notices}}{{text}}{{/loop}}")] }
    ∃ x, RendersTable {} ctx s x ∧ HasCompleteLoop (Token.scan loop) ∧
      LoopsOver ctx.lookup loop [⟨.variable, "{{name}}", "name"⟩] [.mapping [("name", .text "Rose")]] ∧
      x.FedBy ctx.lookup s.columns.values loop ∧ x.rows.length = 1 ∧ x.rows = [["Rose"]] := by
  intro ctx loop s
  let x : RenderedSection :=
    { type := "productTable", position := 0
      fields := [("title", "Goods"), ("rows", "Rose"), ("notes", "ab")]
      columns := [⟨"article", none, .zero false⟩], rows := [["Rose"]] }
  have given : RendersTable {} ctx s x := ⟨rfl, by decide, rfl, by decide⟩
  have complete : HasCompleteLoop (Token.scan loop) :=
    ⟨0, 2, by decide, fun k inFront => absurd inFront (Nat.not_lt_zero k)⟩
  have before : ∀ g ∈ [("title", "Goods")], ¬ HasCompleteLoop (Token.scan g.2) := by
    rintro g member ⟨i, j, encloses, -⟩
    obtain rfl := List.mem_singleton.mp member
    obtain ⟨t, there, opens⟩ := encloses.opener
    have text : Token.scan "Goods" = [⟨.text, "Goods", "Goods"⟩] := by decide
    rw [text] at there
    obtain rfl := List.mem_singleton.mp (List.mem_of_getElem? there)
    cases opens
  have loops : LoopsOver ctx.lookup loop [⟨.variable, "{{name}}", "name"⟩]
      [.mapping [("name", .text "Rose")]] := loopsOver_names (by decide)
  have supplies := ((firstLoop_supplies_iff given).2.1 [("title", "Goods")] ("rows", loop) _ rfl before
    complete).2 _ _ loops
  have some : [Value.mapping [("name", .text "Rose")]] ≠ [] := List.cons_ne_nil _ _
  exact ⟨x, given, complete, loops, supplies.1.mpr (.inl some), supplies.2.mpr (.inl some), rfl⟩

/-- The first loop is over an empty list, and a later one supplies the row. -/
theorem empty_firstLoop_replaced :
    let ctx : Context :=
      { order := [("products", .list [])]
        legal := [("notices", .list [.mapping [("text", .text "Thanks")]])] }
    let loop := "{{loop:order.products}}{{name}}{{/loop}}"
    let s : Section :=
      { variant := .table []
        content := [("rows", loop), ("notes", "{{loop:legal.notices}}{{text}}{{/loop}}")] }
    ∃ x, RendersTable {} ctx s x ∧ HasCompleteLoop (Token.scan loop) ∧
      LoopsOver ctx.lookup loop [⟨.variable, "{{name}}", "name"⟩] [] ∧ x.rows = [["Thanks"]] ∧
      ¬ x.FedBy ctx.lookup s.columns.values loop := by
  intro ctx loop s
  let x : RenderedSection :=
    { type := "productTable", position := 0, fields := [("rows", ""), ("notes", "Thanks")]
      rows := [["Thanks"]] }
  refine ⟨x, ⟨rfl, by decide, rfl, by decide⟩,
    ⟨0, 2, by decide, fun k inFront => absurd inFront (Nat.not_lt_zero k)⟩,
    loopsOver_names (by decide), rfl, ?_⟩
  rintro ⟨e, made, rows⟩
  have none : Expansion.ofContent ctx.lookup loop = .ok ⟨"", [], [], [], true⟩ := by decide
  rw [none, Except.ok.injEq] at made
  subst made
  cases rows

end RendersTable

end InvoiceForms
