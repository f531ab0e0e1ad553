import InvoiceForms.Proofs.Content.Cells

/-!
# Items of the loop that is expanded

A content string has a loop that is expanded exactly when it has a complete loop block with no opener in
front of it that nothing closes (`hasFirstLoop_iff`). This loop is over the items of the value at its path,
if that value is a list, and over none otherwise (`LoopsOver`). Its cells are those of the rows of these
items, one after another (`LoopsOver.cells`): how many there are is decided by the items alone.
-/

namespace InvoiceForms

open InvoiceForms.Results

/-- A complete loop block, and no opener in front of it that nothing closes. -/
def HasCompleteLoop (ts : List Token) : Prop := ∃ i j, Encloses ts i j ∧ ∀ k < i, ¬ Unclosed ts k

/-- The first opener is closed exactly when there is a complete loop block with no opener in front of it that
nothing closes. -/
theorem hasFirstLoop_iff {ts : List Token} : HasFirstLoop ts ↔ HasCompleteLoop ts := by
  constructor
  · rintro ⟨before, opener, body, closer, after, loop⟩
    refine ⟨before.length + 0, before.length + (body.length + 1), ?_, ?_⟩
    · rw [loop.tokens, Encloses.append_left_iff]
      exact .of_balanced loop.opens loop.balanced loop.closes after
    · rintro k inFront ⟨⟨t, there, opens⟩, -⟩
      rw [loop.tokens, List.getElem?_append_left inFront] at there
      exact loop.first t (List.mem_of_getElem? there) opens
  · rintro ⟨i, j, encloses, closed⟩
    obtain ⟨t, there, opens⟩ := encloses.opener
    obtain ⟨opener, found⟩ : ∃ opener, ts.find? (·.kind = .opener) = some opener := by
      rw [← Option.isSome_iff_exists, List.find?_isSome]
      exact ⟨t, List.mem_of_getElem? there, decide_eq_true opens⟩
    obtain ⟨isOpener, before, tail, rfl, first⟩ := List.find?_eq_some_iff_append.mp found
    simp only [decide_eq_true_eq, Bool.not_eq_true', decide_eq_false_iff_not] at isOpener first
    have here : (before ++ opener :: tail)[before.length]? = some opener := by simp
    have notBefore : before.length ≤ i := by
      by_contra inFront
      rw [List.getElem?_append_left (Nat.not_le.mp inFront)] at there
      exact first t (List.mem_of_getElem? there) opens
    -- The first opener is the opener of the block, or one in front of it, which is closed as well.
    obtain ⟨k, block⟩ : ∃ k, Encloses (before ++ opener :: tail) (before.length + 0) k := by
      rcases Nat.eq_or_lt_of_le notBefore with same | inFront
      · exact ⟨j, same ▸ encloses⟩
      · by_contra never
        exact closed _ inFront ⟨⟨opener, here, isOpener⟩, fun k block => never ⟨k, block⟩⟩
    have behind := block.lt
    obtain ⟨m, rfl⟩ := Nat.exists_eq_add_of_le (show before.length ≤ k by omega)
    obtain ⟨o, body, closer, after, whole, opens', balanced, closes, -⟩ :=
      (Encloses.append_left_iff before).mp block
    rw [List.drop_zero] at whole
    exact ⟨before, o, body, closer, after, congrArg (before ++ ·) whole, first, opens', balanced, closes⟩

/-- What a loop over a value goes through: the items of a list, and nothing where there is none. -/
def Value.loopItems : Value → List Value
  | list items => items
  | tuple items => items
  | _ => []

/-- The loop of a content string that is expanded has this body and is over these items. -/
def LoopsOver (lookup : Lookup) (content : String) (body : List Token) (items : List Value) : Prop :=
  ∃ before opener closer after value,
    FirstLoop (Token.scan content) before opener body closer after ∧
      lookup opener.value = .ok value ∧ items = value.loopItems

/-- The cells of an item: what its row is cut into, where the body is expanded for the item under its
number. -/
def CellsFor (lookup : Lookup) (body : List Token) (item : Value × Nat) (cells : List String) : Prop :=
  ∃ row, Row.ofParts lookup item.2 item.1 (Part.ofTokens body) = .ok row ∧ cells = row.made.cells

variable {lookup : Lookup} {content : String} {e : Expansion}

/-- The rows of a loop are those of its items, in order. -/
theorem forall₂_of_loopRows {path : String} {body : List Token} {made : Warned (List Row)}
    (given : loopRows lookup path body = .ok made) : ∃ value, lookup path = .ok value ∧
      List.Forall₂ (CellsFor lookup body) (value.loopItems.zipIdx 1) (made.made.map Row.cells) := by
  have each {items : List Value}
      (given : Row.ofItems lookup (Part.ofTokens body) 1 items = .ok made) :
      List.Forall₂ (CellsFor lookup body) (items.zipIdx 1) (made.made.map Row.cells) := by
    obtain ⟨rows, each, rfl⟩ := Row.forall₂_of_ofItems given
    rw [List.map_map, List.forall₂_map_right_iff]
    exact each.imp fun item row own => ⟨row, own, rfl⟩
  obtain ⟨value, found, given⟩ := bind_eq_ok.mp given
  refine ⟨value, found, ?_⟩
  split at given
  · cases given
    exact .nil
  · exact each given
  · exact each given
  · next notNull notList notTuple =>
    cases given
    have none : value.loopItems = [] := by
      cases value with
      | list items => exact absurd rfl (notList items)
      | tuple items => exact absurd rfl (notTuple items)
      | _ => rfl
    rw [none]
    exact .nil

/-- The cells of an expansion are those of the items of its loop, in order. -/
theorem LoopsOver.cells {body : List Token} {items : List Value}
    (loops : LoopsOver lookup content body items) (given : Expansion.ofContent lookup content = .ok e) :
    e.hasLoop = true ∧ List.Forall₂ (CellsFor lookup body) (items.zipIdx 1) e.cells := by
  obtain ⟨before, opener, closer, after, value, loop, found, rfl⟩ := loops
  obtain ⟨d, drafted, rfl⟩ := map_eq_ok.mp given
  obtain ⟨hasLoop, w, made, rows⟩ := Draft.rows_of_firstLoop loop drafted
  obtain ⟨_, same, each⟩ := forall₂_of_loopRows made
  obtain rfl := Except.ok.inj (found.symm.trans same)
  refine ⟨hasLoop, ?_⟩
  show List.Forall₂ _ _ (d.rows.map Row.cells)
  rw [rows]
  exact each

/-- There are as many rows as items. -/
theorem LoopsOver.length_cells {body : List Token} {items : List Value}
    (loops : LoopsOver lookup content body items) (given : Expansion.ofContent lookup content = .ok e) :
    e.cells.length = items.length := by
  rw [← (loops.cells given).2.length_eq, List.length_zipIdx]

/-- A complete loop is over some items. -/
theorem exists_loopsOver (given : Expansion.ofContent lookup content = .ok e)
    (complete : HasCompleteLoop (Token.scan content)) : ∃ body items, LoopsOver lookup content body items := by
  obtain ⟨before, opener, body, closer, after, loop⟩ := hasFirstLoop_iff.mpr complete
  obtain ⟨d, drafted, -⟩ := map_eq_ok.mp given
  obtain ⟨-, w, made, -⟩ := Draft.rows_of_firstLoop loop drafted
  obtain ⟨value, found, -⟩ := forall₂_of_loopRows made
  exact ⟨body, value.loopItems, before, opener, closer, after, value, loop, found, rfl⟩

/-- Without a complete loop there are no rows. -/
theorem cells_of_not_complete (given : Expansion.ofContent lookup content = .ok e)
    (incomplete : ¬ HasCompleteLoop (Token.scan content)) : e.hasLoop = false ∧ e.cells = [] := by
  obtain ⟨d, drafted, rfl⟩ := map_eq_ok.mp given
  obtain ⟨noRows, noLoop⟩ :=
    (Draft.hasFirstLoop_or drafted).resolve_left fun has => incomplete (hasFirstLoop_iff.mp has)
  refine ⟨noLoop, ?_⟩
  show d.rows.map Row.cells = []
  rw [noRows]
  rfl

end InvoiceForms
