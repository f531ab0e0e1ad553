import InvoiceForms.Proofs.Content.FirstLoop
import InvoiceForms.Proofs.Content.Structure

/-!
# Cells of rows

Where a row is cut into cells is decided by the template alone: at the bars of the text in the loop's
body, outside the loops inside it. What is filled in, and loops that stay text, may hold bars as well, and
none of them cuts. Put together with bars between them, the cells of a row are its text.
-/

namespace InvoiceForms

open InvoiceForms.Results InvoiceForms.Text

namespace RowPiece

/-- The text of a template has a cut for each bar. -/
theorem count_marks_literal (s : String) : (literal s).marks.count none = s.toList.count bar := by
  rw [marks]
  induction s.toList with
  | nil => rfl
  | cons c cs ih =>
    by_cases same : c = bar
    · simp [same, ih]
    · simp [same, ih]

/-- What is filled in has none. -/
theorem count_marks_filled (s : String) : (filled s).marks.count none = 0 := by
  simp [marks, List.count_eq_zero]

/-- The text of a piece is its characters with bars at the cuts. -/
theorem toList_text (piece : RowPiece) : piece.text.toList = piece.marks.map (·.getD bar) := by
  cases piece with
  | literal s =>
    rw [text, marks, List.map_map]
    conv_lhs => rw [← List.map_id s.toList]
    apply List.map_congr_left
    intro c _
    by_cases same : c = bar
    · simp [same]
    · simp [same]
  | filled s => simp [text, marks, Function.comp_def]

end RowPiece

/-- Pieces between cuts, with a character in the place of each cut. -/
theorem intercalate_split_none (c : Char) (marks : List (Option Char)) :
    [c].intercalate ((split none marks).map (·.filterMap id)) = marks.map (·.getD c) := by
  induction marks with
  | nil => rfl
  | cons mark marks ih =>
    rw [split] at ih ⊢
    cases mark with
    | none => simpa [pieces, List.intercalate] using ih
    | some d =>
      cases others : (pieces none marks).2 with
      | nil => simpa [pieces, others, List.intercalate] using ih
      | cons piece more => simpa [pieces, others, List.intercalate] using ih

namespace Row

/-- The cells of a row with bars between them are its text. -/
theorem joinWith_cells (row : Row) : joinWith "|" row.cells = row.text := by
  have whole : row.text.toList = row.marks.map (·.getD RowPiece.bar) := by
    rw [text, String.toList_join, marks, List.flatMap_map, List.map_flatMap]
    congr 1
    funext piece
    exact piece.toList_text
  apply String.toList_inj.mp
  rw [whole, joinWith, String.toList_intercalate, cells, List.map_map, ← intercalate_split_none]
  congr 2
  funext cell
  exact String.toList_ofList

end Row

namespace Placed

/-- Text of the template that is not inside a loop. -/
def isCut (p : Placed) : Bool := p.token.kind = .text && !p.inside

/-- The number of bars in such text. -/
def bars (tokens : List Placed) : Nat :=
  ((tokens.filter isCut).flatMap (·.token.raw.toList)).count RowPiece.bar

theorem bars_append (a b : List Placed) : bars (a ++ b) = bars a + bars b := by
  rw [bars, List.filter_append, List.flatMap_append, List.count_append, bars, bars]

theorem bars_eq_zero {tokens : List Placed} (none : ∀ p ∈ tokens, p.isCut = false) :
    bars tokens = 0 := by
  rw [bars, List.filter_eq_nil_iff.mpr (by simpa using none)]
  rfl

end Placed

namespace Row

variable {lookup : Lookup} {number : Nat} {item : Value}

/-- The cuts that a part of the body makes are the bars of its text. -/
theorem count_marks_ofPart {part : Part} {w : Warned RowPiece} (formed : part.WellFormed)
    (given : ofPart lookup number item part = .ok w) :
    w.made.marks.count none = Placed.bars part.placed := by
  cases part with
  | single t =>
    obtain ⟨notOpener, notCloser⟩ := formed
    rw [ofPart] at given
    cases kind : t.kind with
    | text =>
      rw [kind] at given
      cases given
      rw [RowPiece.count_marks_literal]
      simp [Part.placed, Placed.bars, Placed.isCut, kind]
    | «variable» =>
      rw [kind] at given
      obtain ⟨s, -, rfl⟩ := map_eq_ok.mp given
      rw [RowPiece.count_marks_filled]
      simp [Part.placed, Placed.bars, Placed.isCut, kind]
    | index =>
      rw [kind] at given
      cases given
      rw [RowPiece.count_marks_filled]
      simp [Part.placed, Placed.bars, Placed.isCut, kind]
    | opener => exact absurd kind notOpener
    | closer => exact absurd kind notCloser
  | stray t =>
    have kind : t.kind = .closer := formed
    cases given
    rw [RowPiece.count_marks_filled]
    simp [Part.placed, Placed.bars, Placed.isCut, kind]
  | unclosed t =>
    have kind : t.kind = .opener := formed
    cases given
    rw [RowPiece.count_marks_filled]
    simp [Part.placed, Placed.bars, Placed.isCut, kind]
  | block opener body closer =>
    obtain ⟨opens, -, closes⟩ := formed
    cases given
    rw [RowPiece.count_marks_filled, Placed.bars_eq_zero]
    simp only [Part.placed, List.cons_append, List.mem_cons, List.mem_append, List.mem_map,
      List.not_mem_nil, or_false]
    rintro p (rfl | ⟨t, -, rfl⟩ | rfl)
    · simp [Placed.isCut, opens]
    · simp [Placed.isCut]
    · simp [Placed.isCut, closes]

theorem count_marks_ofParts {parts : List Part} {w : Warned Row}
    (formed : ∀ part ∈ parts, part.WellFormed) (given : ofParts lookup number item parts = .ok w) :
    w.made.marks.count none = Placed.bars (parts.flatMap Part.placed) := by
  induction parts generalizing w with
  | nil =>
    cases given
    rfl
  | cons part parts ih =>
    rw [ofParts] at given
    obtain ⟨first, made, given⟩ := bind_eq_ok.mp given
    obtain ⟨rest, others, given⟩ := bind_eq_ok.mp given
    rw [return_eq_ok] at given
    subst given
    have here := count_marks_ofPart (formed part List.mem_cons_self) made
    have later := ih (fun part later => formed part (List.mem_cons_of_mem _ later)) others
    rw [marks] at later ⊢
    rw [List.flatMap_cons, List.count_append, here, later, List.flatMap_cons, Placed.bars_append]

theorem count_marks_ofItems {body : List Part} {items : List Value} {w : Warned (List Row)}
    (formed : ∀ part ∈ body, part.WellFormed) (given : ofItems lookup body number items = .ok w)
    {row : Row} (member : row ∈ w.made) :
    row.marks.count none = Placed.bars (body.flatMap Part.placed) := by
  induction items generalizing number w with
  | nil =>
    cases given
    cases member
  | cons item items ih =>
    rw [ofItems] at given
    obtain ⟨first, made, given⟩ := bind_eq_ok.mp given
    obtain ⟨rest, others, given⟩ := bind_eq_ok.mp given
    rw [return_eq_ok] at given
    subst given
    rcases List.mem_cons.mp member with rfl | later
    · exact count_marks_ofParts formed made
    · exact ih others later

/-- A row has one cell more than cuts. -/
theorem length_cells (row : Row) : row.cells.length = 1 + row.marks.count none := by
  rw [cells, List.length_map, length_split, Nat.add_comm]

/-- Every row of a loop has one cell more than the text of its body has bars. -/
theorem length_cells_of_loopRows {path : String} {body : List Token} {w : Warned (List Row)}
    (given : loopRows lookup path body = .ok w) {row : Row} (member : row ∈ w.made) :
    row.cells.length = 1 + Placed.bars (Placed.ofTokens body) := by
  have each {items : List Value} (given : ofItems lookup (Part.ofTokens body) 1 items = .ok w) :
      row.cells.length = 1 + Placed.bars (Placed.ofTokens body) := by
    rw [length_cells, count_marks_ofItems (fun part => Part.wellFormed_of_mem_ofTokens) given member,
      Part.flatMap_placed_ofTokens]
  obtain ⟨value, -, given⟩ := bind_eq_ok.mp given
  split at given
  · cases given
    cases member
  · exact each given
  · exact each given
  · cases given
    cases member

end Row

namespace Expansion

/-- Whatever separators stand in data or in loops that stay text, only bars of the template cut. Every item
is its cells with bars between them, and each row has one cell more than the text of the body of the loop
that is expanded has bars, outside the loops inside it. Without such a loop there are no rows. -/
theorem cells_cut_by_template {lookup : Lookup} {content : String} {e : Expansion}
    (given : ofContent lookup content = .ok e) :
    e.items.length = e.cells.length ∧ e.items = e.cells.map (joinWith "|") ∧
      (∀ {before opener body closer after},
        FirstLoop (Token.scan content) before opener body closer after →
        e.hasLoop = true ∧
          ∀ cells ∈ e.cells, cells.length = 1 + Placed.bars (Placed.ofTokens body)) ∧
      (¬ HasFirstLoop (Token.scan content) → e.hasLoop = false ∧ e.cells = []) := by
  obtain ⟨d, drafted, rfl⟩ := map_eq_ok.mp given
  refine ⟨by simp [Draft.finish], ?_, ?_, ?_⟩
  · rw [Draft.finish, List.map_map]
    apply List.map_congr_left
    intro row _
    exact row.joinWith_cells.symm
  · intro before opener body closer after loop
    obtain ⟨hasLoop, w, made, rows⟩ := Draft.rows_of_firstLoop loop drafted
    refine ⟨hasLoop, fun cells member => ?_⟩
    obtain ⟨row, inside, rfl⟩ := List.mem_map.mp member
    rw [rows] at inside
    exact Row.length_cells_of_loopRows made inside
  · intro none
    obtain ⟨noRows, noLoop⟩ := (Draft.hasFirstLoop_or drafted).resolve_left none
    refine ⟨noLoop, ?_⟩
    show d.rows.map Row.cells = []
    rw [noRows]
    rfl

/-- A name with a bar and a loop inside the loop, with another, stand each in a cell of their own. -/
theorem cells_cut_despite_bars :
    let ctx : Context := { order := [("products", .list [.mapping [("name", .text "Tea|Cup")]])] }
    let content := "{{loop:order.products}}{{name}}|{{loop:x}}a|b{{/loop}}|\x7b\x7b@index\x7d\x7d{{/loop}}"
    ∃ e before opener body closer after, ofContent ctx.lookup content = .ok e ∧
      FirstLoop (Token.scan content) before opener body closer after ∧
      e.items = e.cells.map (joinWith "|") ∧
      (∀ cells ∈ e.cells, cells.length = 1 + Placed.bars (Placed.ofTokens body)) ∧
      e.cells = [["Tea|Cup", "{{loop:x}}a|b{{/loop}}", "1"]] := by
  intro ctx content
  let nested : Token := ⟨.opener, "{{loop:x}}", "x"⟩
  let closer : Token := ⟨.closer, "{{/loop}}", "/loop"⟩
  let bar : Token := ⟨.text, "|", "|"⟩
  let name : Token := ⟨.variable, "{{name}}", "name"⟩
  let index : Token := ⟨.index, "\x7b\x7b@index\x7d\x7d", "@index"⟩
  let row := "Tea|Cup|{{loop:x}}a|b{{/loop}}|1"
  have given : ofContent ctx.lookup content =
      .ok ⟨row, [row], [["Tea|Cup", "{{loop:x}}a|b{{/loop}}", "1"]], [.nestedLoop "x"], true⟩ := by
    decide
  have behind : Balanced [bar, index] :=
    .plain bar _ (by decide) (by decide) (.plain index _ (by decide) (by decide) .nil)
  have block : Balanced (nested :: [⟨.text, "a|b", "a|b"⟩] ++ closer :: [bar, index]) :=
    .block nested _ closer _ rfl (.plain _ _ (by decide) (by decide) .nil) rfl behind
  have loop : FirstLoop (Token.scan content) [] ⟨.opener, "{{loop:order.products}}", "order.products"⟩
      (name :: bar :: (nested :: [⟨.text, "a|b", "a|b"⟩] ++ closer :: [bar, index])) closer [] :=
    { tokens := by decide
      first := by simp
      opens := rfl
      balanced := .plain name _ (by decide) (by decide) (.plain bar _ (by decide) (by decide) block)
      closes := rfl }
  obtain ⟨-, joined, cut, -⟩ := cells_cut_by_template given
  exact ⟨_, _, _, _, _, _, given, loop, joined, (cut loop).2, rfl⟩

end Expansion

end InvoiceForms
