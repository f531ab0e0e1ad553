import InvoiceForms.Proofs.Value.Shapes

/-!
# What data cannot change

Texts are filled in as they are and never read again, so they have no say in the structure of what
comes out. `Expansion.sameStructure_of_sameShape` runs one content string with two sets of data that
differ in the texts at their leaves only: either both runs fail, for the same reason, or both give
the same rows, cut into the same cells, and the same warnings.
-/

namespace InvoiceForms

open InvoiceForms.Results InvoiceForms.Text

/-- Every cut adds a piece. -/
theorem length_split {α : Type} [DecidableEq α] [BEq α] [LawfulBEq α] (sep : α) (cs : List α) :
    (split sep cs).length = cs.count sep + 1 := by
  induction cs with
  | nil => rfl
  | cons c cs ih =>
    rw [split, List.length_cons] at ih ⊢
    rw [pieces]
    by_cases same : c = sep
    · rw [same, List.count_cons_self]
      simpa using ih
    · rw [List.count_cons_of_ne same]
      simpa [same] using ih

/-- Things made with the same warnings. -/
def Warned.Alike {α β : Type} (related : α → β → Prop) (w : Warned α) (w' : Warned β) : Prop :=
  related w.made w'.made ∧ w.warnings = w'.warnings

/-- Pieces that differ in the text that was filled in only. -/
inductive RowPiece.Alike : RowPiece → RowPiece → Prop
  | literal (s : String) : Alike (literal s) (literal s)
  | filled (s s' : String) : Alike (filled s) (filled s')

/-- Rows that differ in the texts that were filled in only. -/
def Row.Alike : Row → Row → Prop := List.Forall₂ RowPiece.Alike

/-- What is filled in holds no bar of the template. -/
theorem RowPiece.Alike.count_bars {p q : RowPiece} (alike : p.Alike q) :
    p.marks.count none = q.marks.count none := by
  have filled (s : String) : (RowPiece.filled s).marks.count none = 0 := by
    simp [RowPiece.marks, List.count_eq_zero]
  cases alike with
  | literal s => rfl
  | filled s s' => rw [filled, filled]

theorem Row.Alike.count_bars {row row' : Row} (alike : row.Alike row') :
    row.marks.count none = row'.marks.count none := by
  induction alike with
  | nil => rfl
  | cons piece _ ih =>
    rw [Row.marks, Row.marks] at ih ⊢
    rw [List.flatMap_cons, List.flatMap_cons, List.count_append, List.count_append,
      piece.count_bars, ih]

/-- Such rows have equally many cells. -/
theorem Row.Alike.length_cells {row row' : Row} (alike : row.Alike row') :
    row.cells.length = row'.cells.length := by
  rw [Row.cells, Row.cells, List.length_map, List.length_map, length_split, length_split,
    alike.count_bars]

theorem Row.lengths_of_alike {rows rows' : List Row} (alike : List.Forall₂ Row.Alike rows rows') :
    rows.map (List.length ∘ Row.cells) = rows'.map (List.length ∘ Row.cells) := by
  induction alike with
  | nil => rfl
  | cons row _ ih => simp only [List.map_cons, Function.comp_apply, row.length_cells, ih]

namespace Value

/-- Leaves have texts. -/
theorem exists_contentText_of_isLeaf {v : Value} (leaf : v.isLeaf = true) :
    ∃ s, v.contentText? = some s := by
  cases v <;> first | exact ⟨_, rfl⟩ | cases leaf

variable {a b : Value}

/-- A leaf is not null. -/
theorem ne_null_of_isLeaf {v : Value} (leaf : v.isLeaf = true) : v ≠ null := by
  rintro rfl
  cases leaf

theorem SameShape.eq_null_iff (alike : SameShape a b) : a = .null ↔ b = .null := by
  cases alike with
  | leaf left right => exact iff_of_false (ne_null_of_isLeaf left) (ne_null_of_isLeaf right)
  | null => exact Iff.rfl
  | list | mapping => exact iff_of_false nofun nofun

/-- The items of lists of the same shape have the same shapes, one by one. -/
theorem SameShape.forall₂_items {as bs : List Value} (lengths : as.length = bs.length)
    (items : ∀ (i : Nat) (a b : Value), as[i]? = some a → bs[i]? = some b → SameShape a b) :
    List.Forall₂ SameShape as bs :=
  List.forall₂_iff_get.mpr ⟨lengths, fun i inside inside' =>
    items i _ _ (List.getElem?_eq_getElem inside) (List.getElem?_eq_getElem inside')⟩

/-- Either both values are written out, or both are too long for that, or both have no text. -/
theorem SameShape.textOrWarn (alike : SameShape a b) (path : String) :
    Agree (Warned.Alike fun _ _ => True) (textOrWarn path a) (textOrWarn path b) := by
  cases alike with
  | leaf left right written =>
    obtain ⟨s, ofLeft⟩ := exists_contentText_of_isLeaf left
    obtain ⟨s', ofRight⟩ := exists_contentText_of_isLeaf right
    rw [InvoiceForms.textOrWarn, InvoiceForms.textOrWarn, ofLeft, ofRight]
    dsimp only
    rw [written]
    split
    · exact .result ⟨trivial, rfl⟩
    · exact .fault LookupFault.unwritable
  | null | list | mapping => exact .result ⟨trivial, rfl⟩

end Value

/-- A value that an item has counts, and the data outside the loop is asked for the others. -/
theorem resolveIn_eq (lookup : Lookup) (item : Value) (path : String) :
    resolveIn lookup item path = item.lookup path >>= fun value =>
      if value = .null then resolve lookup path else textOrWarn path value := by
  rw [resolveIn]
  split
  · next e failed => rw [failed]; rfl
  · next found => rw [found]; rfl
  · next value present found =>
    rw [found]
    exact (if_neg present).symm

/-- A leaf is no list to repeat a body for. -/
theorem loopRows_of_isLeaf {lookup : Lookup} {path : String} {body : List Token} {v : Value}
    (found : lookup path = .ok v) (leaf : v.isLeaf = true) :
    loopRows lookup path body = .ok ⟨[], [.invalidLoopTarget path]⟩ := by
  rw [loopRows, found]
  cases v <;> first | rfl | cases leaf

section Runs

variable {lookup lookup' : Lookup}
  (alike : ∀ path, Agree Value.SameShape (lookup path) (lookup' path))

include alike

theorem resolve_alike (path : String) :
    Agree (Warned.Alike fun _ _ => True) (resolve lookup path) (resolve lookup' path) :=
  (alike path).bind fun _ _ found => found.textOrWarn path

theorem resolveIn_alike {item item' : Value} (items : item.SameShape item') (path : String) :
    Agree (Warned.Alike fun _ _ => True) (resolveIn lookup item path)
      (resolveIn lookup' item' path) := by
  rw [resolveIn_eq, resolveIn_eq]
  refine (items.lookup path).bind fun a b found => ?_
  by_cases null : a = .null
  · rw [if_pos null, if_pos (found.eq_null_iff.mp null)]
    exact resolve_alike alike path
  · rw [if_neg null, if_neg (mt found.eq_null_iff.mpr null)]
    exact found.textOrWarn path

namespace Row

theorem ofPart_alike (number : Nat) {item item' : Value} (items : item.SameShape item')
    (part : Part) :
    Agree (Warned.Alike RowPiece.Alike) (ofPart lookup number item part)
      (ofPart lookup' number item' part) := by
  cases part with
  | single t =>
    rw [ofPart, ofPart]
    split
    · exact (resolveIn_alike alike items t.value).map fun _ _ both => ⟨.filled _ _, both.2⟩
    · exact .result ⟨.filled _ _, rfl⟩
    · exact .result ⟨.literal _, rfl⟩
  | stray t | unclosed t | block opener body closer => exact .result ⟨.filled _ _, rfl⟩

theorem ofParts_alike (number : Nat) {item item' : Value} (items : item.SameShape item')
    (parts : List Part) :
    Agree (Warned.Alike Row.Alike) (ofParts lookup number item parts)
      (ofParts lookup' number item' parts) := by
  induction parts with
  | nil => exact .result ⟨.nil, rfl⟩
  | cons part parts ih =>
    refine (ofPart_alike alike number items part).bind fun first first' pieces => ?_
    refine ih.bind fun rest rest' rows => .result ⟨.cons pieces.1 rows.1, ?_⟩
    rw [pieces.2, rows.2]

/-- The induction is on the items of both lists; it numbers the rows in both. -/
theorem ofItems_alike (body : List Part) (number : Nat) {as bs : List Value}
    (items : List.Forall₂ Value.SameShape as bs) :
    Agree (Warned.Alike (List.Forall₂ Row.Alike)) (ofItems lookup body number as)
      (ofItems lookup' body number bs) := by
  induction items generalizing number with
  | nil => exact .result ⟨.nil, rfl⟩
  | cons item _ ih =>
    refine (ofParts_alike alike number item body).bind fun first first' row => ?_
    refine (ih (number + 1)).bind fun rest rest' rows => .result ⟨.cons row.1 rows.1, ?_⟩
    rw [row.2, rows.2]

end Row

theorem loopRows_alike (path : String) (body : List Token) :
    Agree (Warned.Alike (List.Forall₂ Row.Alike)) (loopRows lookup path body)
      (loopRows lookup' path body) := by
  have both := alike path
  generalize left : lookup path = x at both
  generalize right : lookup' path = y at both
  cases both with
  | fault e =>
    rw [loopRows, loopRows, left, right]
    exact .fault e
  | result found =>
    cases found with
    | leaf isLeaf isLeaf' =>
      rw [loopRows_of_isLeaf left isLeaf, loopRows_of_isLeaf right isLeaf']
      exact .result ⟨.nil, rfl⟩
    | null | mapping =>
      rw [loopRows, loopRows, left, right]
      exact .result ⟨.nil, rfl⟩
    | list lengths items =>
      rw [loopRows, loopRows, left, right]
      exact Row.ofItems_alike alike _ 1 (Value.SameShape.forall₂_items lengths items)

end Runs

namespace Draft

/-- Drafts with rows that differ in what was filled in only, and with the same warnings. -/
structure Alike (d d' : Draft) : Prop where
  rows : List.Forall₂ Row.Alike d.rows d'.rows
  warnings : d.warnings = d'.warnings
  hasLoop : d.hasLoop = d'.hasLoop

variable {d d' : Draft}

theorem Alike.prepend (drafts : d.Alike d') (text text' : String) (warnings : List Warning) :
    (d.prepend text warnings).Alike (d'.prepend text' warnings) where
  rows := drafts.rows
  warnings := congrArg (warnings ++ ·) drafts.warnings
  hasLoop := drafts.hasLoop

/-- The induction is on the parts. Which of them are loops, and which loop is the first one, does not
depend on the data, so both drafts take the same way. -/
theorem ofParts_alike {lookup lookup' : Lookup}
    (alike : ∀ path, Agree Value.SameShape (lookup path) (lookup' path)) (looped : Bool)
    (parts : List Part) :
    Agree Alike (ofParts lookup looped parts) (ofParts lookup' looped parts) := by
  induction parts generalizing looped with
  | nil => exact .result ⟨.nil, rfl, rfl⟩
  | cons part parts ih =>
    have behind (text text' : String) (warnings : List Warning) (looped : Bool) :
        Agree Alike (do return (← ofParts lookup looped parts).prepend text warnings)
          (do return (← ofParts lookup' looped parts).prepend text' warnings) :=
      (ih looped).bind fun _ _ rest => .result (rest.prepend text text' warnings)
    cases part with
    | single t =>
      rw [ofParts, ofParts]
      split
      · refine (resolve_alike alike t.value).bind fun w w' texts => ?_
        rw [texts.2]
        exact behind _ _ _ looped
      · exact behind _ _ _ looped
      · exact behind _ _ _ looped
    | stray t => exact behind _ _ _ looped
    | unclosed t => exact .result ⟨.nil, rfl, rfl⟩
    | block opener body closer =>
      rw [ofParts, ofParts]
      split
      · exact behind _ _ _ looped
      · refine (loopRows_alike alike opener.value body).bind fun w w' rows => ?_
        refine (ih true).bind fun rest rest' drafts => .result ⟨rows.1, ?_, rfl⟩
        rw [rows.2]
        exact congrArg (w'.warnings ++ ·) drafts.warnings

end Draft

/-- Expansions of the same structure: with or without a loop, with equally many rows and equally many
cells in each row, and with the same warnings. -/
structure Expansion.SameStructure (e e' : Expansion) : Prop where
  hasLoop : e.hasLoop = e'.hasLoop
  items : e.items.length = e'.items.length
  cells : e.cells.map List.length = e'.cells.map List.length
  warnings : e.warnings = e'.warnings

theorem Draft.Alike.finish {d d' : Draft} (drafts : d.Alike d') :
    d.finish.SameStructure d'.finish where
  hasLoop := drafts.hasLoop
  items := by simp [Draft.finish, drafts.rows.length_eq]
  cells := by
    rw [Draft.finish, Draft.finish, List.map_map, List.map_map]
    exact Row.lengths_of_alike drafts.rows
  warnings := by simp [Draft.finish, drafts.warnings]

/-- The structure of an expansion is the template's alone. Two contexts of the same shape, or two
values of the same shape that stand for a context, are both refused for the same reason or give
expansions of the same structure, whatever texts stand at their leaves: braces, loops and bars among
them are text like any other. -/
theorem Expansion.sameStructure_of_sameShape (content : String) :
    (∀ ctx ctx' : Context, ctx.SameShape ctx' →
      Agree SameStructure (ofContent ctx.lookup content) (ofContent ctx'.lookup content)) ∧
    ∀ root root' : Value, root.SameShape root' →
      Agree SameStructure (ofContent root.lookup content) (ofContent root'.lookup content) := by
  have alike {lookup lookup' : Lookup}
      (found : ∀ path, Agree Value.SameShape (lookup path) (lookup' path)) :
      Agree SameStructure (ofContent lookup content) (ofContent lookup' content) :=
    (Draft.ofParts_alike found false (Part.ofContent content)).map fun _ _ drafts => drafts.finish
  exact ⟨fun _ _ shapes => alike shapes.lookup, fun _ _ shapes => alike shapes.lookup⟩

/-- A product named like the end of a loop, with bars and braces in its other texts, fills the same
two cells as a plain one; a total is a text here and a number there. -/
theorem sameStructure_of_braces_in_data :
    let order (name total : Value) : Entries Value :=
      [("note", name), ("products", .list [.mapping [("name", name), ("total", total)], .null])]
    let plain : Context := { order := order (.text "Tea") (.int 3) }
    let marked : Context :=
      { order := order (.text "{{/loop}}|{{loop:order.products}}")
          (.text "a|b|{{order.note}}") }
    let content := "{{order.note}}|{{loop:order.products}}" ++
      "{{name}}|{{total}}{{/loop}}"
    plain.SameShape marked ∧
      Agree Expansion.SameStructure (Expansion.ofContent plain.lookup content)
        (Expansion.ofContent marked.lookup content) ∧
      (Expansion.ofContent marked.lookup content).map (fun e => e.cells.map List.length) =
        .ok [2, 2] := by
  intro order plain marked content
  have leaves (s t : String) : (Value.text s).SameShape (.text t) := .leaf rfl rfl rfl
  have empty : (Value.mapping []).SameShape (.mapping []) := .ofEntries .nil
  have alike : plain.SameShape marked := by
    refine ⟨empty, empty, empty, ?_, empty, empty⟩
    have item (name total : String) :
        (Value.mapping [("name", .text "Tea"), ("total", .int 3)]).SameShape
          (.mapping [("name", .text name), ("total", .text total)]) := by
      have written : (Value.int 3).isWritable = true := by decide
      exact .ofEntries (.cons ⟨rfl, leaves _ _⟩ (.cons ⟨rfl, .leaf rfl rfl written⟩ .nil))
    exact .ofEntries (.cons ⟨rfl, leaves _ _⟩
      (.cons ⟨rfl, .ofItems (.cons (item _ _) (.cons .null .nil))⟩ .nil))
  refine ⟨alike, (Expansion.sameStructure_of_sameShape content).1 plain marked alike, ?_⟩
  decide

end InvoiceForms
