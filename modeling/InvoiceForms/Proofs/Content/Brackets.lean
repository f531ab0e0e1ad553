import InvoiceForms.Proofs.Content.Nesting

/-!
# Shapes as bracket matching

The shape of a content string says how its openers and closers match as brackets. `Shape.ofBrackets` reads
a shape off the matching, each part of it from the tokens at their places; the shape of a content string
is that one.
-/

namespace InvoiceForms

namespace Placed

/-- An opener that nothing closes. -/
def isUnclosed (p : Placed) : Bool := p.token.kind = .opener && !p.matched

/-- An opener that is closed and stands inside no block. -/
def isOuter (p : Placed) : Bool := p.token.kind = .opener && (p.matched && !p.inside)

/-- An opener that is closed and stands inside a block. -/
def isNested (p : Placed) : Bool := p.token.kind = .opener && (p.matched && p.inside)

/-- A closer that closes nothing. -/
def isStray (p : Placed) : Bool := p.token.kind = .closer && !p.matched

/-- A variable inside no block. -/
def isFree (p : Placed) : Bool := p.token.kind = .variable && !p.inside

/-- The values of the tokens that stand in a certain way, in their order. -/
def valuesWhere (stands : Placed → Bool) (tokens : List Placed) : List String :=
  (tokens.filter stands).map (·.token.value)

theorem length_valuesWhere (stands : Placed → Bool) (tokens : List Placed) :
    (valuesWhere stands tokens).length = tokens.countP stands := by
  rw [valuesWhere, List.length_map, List.countP_eq_length_filter]

/-- Every opener stands in one of three ways, and in one only. -/
theorem countP_openers (tokens : List Placed) :
    tokens.countP isOuter + tokens.countP isNested + tokens.countP isUnclosed =
      tokens.countP fun p => p.token.kind = .opener := by
  induction tokens with
  | nil => rfl
  | cons p tokens ih =>
    rcases p with ⟨t, matched, inside⟩
    by_cases opens : t.kind = .opener
    · cases matched <;> cases inside <;> simp [isOuter, isNested, isUnclosed, opens, ← ih] <;> omega
    · simp [isOuter, isNested, isUnclosed, opens, ← ih]

end Placed

namespace Shape

open Placed

/-- The shape that matching openers and closers as brackets gives. -/
def ofBrackets (tokens : List Placed) : Shape where
  variableNames := valuesWhere isFree tokens
  loopPaths := valuesWhere isOuter tokens
  unterminatedLoops := valuesWhere isUnclosed tokens
  nestedLoops := valuesWhere isNested tokens
  strayClosers := tokens.countP isStray

/-- The tokens of a block's body add its openers to the nested ones and nothing else. -/
theorem ofBrackets_body (body : List Token) (tokens : List Placed) :
    let placed := body.map fun t => (⟨t, t.kind = .opener ∨ t.kind = .closer, true⟩ : Placed)
    ofBrackets (placed ++ tokens) =
      { ofBrackets tokens with
        nestedLoops := (body.filter (·.kind = .opener)).map (·.value) ++
          (ofBrackets tokens).nestedLoops } := by
  induction body with
  | nil => rfl
  | cons t body ih =>
    cases kind : t.kind <;>
      simpa [ofBrackets, valuesWhere, isFree, isOuter, isUnclosed, isNested, isStray, kind] using ih

/-- What a part adds to a shape is what the matching says of its tokens. -/
theorem addPart_ofBrackets {part : Part} (formed : part.WellFormed) (tokens : List Placed) :
    addPart part (ofBrackets tokens) = ofBrackets (part.placed ++ tokens) := by
  cases part with
  | single t =>
    obtain ⟨notOpener, notCloser⟩ := formed
    by_cases isVariable : t.kind = .variable
    · simp [addPart, Part.placed, ofBrackets, valuesWhere, isFree, isOuter, isUnclosed, isNested, isStray,
        isVariable]
    · simp [addPart, Part.placed, ofBrackets, valuesWhere, isFree, isOuter, isUnclosed, isNested, isStray,
        isVariable, notOpener, notCloser]
  | stray t =>
    have kind : t.kind = .closer := formed
    simp [addPart, Part.placed, ofBrackets, valuesWhere, isFree, isOuter, isUnclosed, isNested, isStray,
      kind]
  | unclosed t =>
    have kind : t.kind = .opener := formed
    simp [addPart, Part.placed, ofBrackets, valuesWhere, isFree, isOuter, isUnclosed, isNested, isStray,
      kind]
  | block opener body closer =>
    obtain ⟨opens, -, closes⟩ := formed
    have first (others : List Placed) : ofBrackets (⟨opener, true, false⟩ :: others) =
        { ofBrackets others with loopPaths := opener.value :: (ofBrackets others).loopPaths } := by
      simp [ofBrackets, valuesWhere, isFree, isOuter, isUnclosed, isNested, isStray, opens]
    have last : ofBrackets (⟨closer, true, false⟩ :: tokens) = ofBrackets tokens := by
      simp [ofBrackets, valuesWhere, isFree, isOuter, isUnclosed, isNested, isStray, closes]
    have inner := ofBrackets_body body (⟨closer, true, false⟩ :: tokens)
    rw [last] at inner
    rw [Part.placed, List.append_assoc, List.singleton_append, List.cons_append, first, inner]
    rfl

/-- The shape of well-formed parts is what the matching says of their tokens. -/
theorem ofParts_eq_ofBrackets {parts : List Part} (formed : ∀ part ∈ parts, part.WellFormed) :
    ofParts parts = ofBrackets (parts.flatMap Part.placed) := by
  induction parts with
  | nil => rfl
  | cons part parts ih =>
    have others := ih fun part later => formed part (List.mem_cons_of_mem _ later)
    rw [List.flatMap_cons, ← addPart_ofBrackets (formed part List.mem_cons_self), ← others]
    rfl

/-- For every content string, the shape is the one that matching openers and closers as brackets gives: the
openers that nothing closes, the closers that close nothing, the openers of blocks inside no other and of
those inside one, and the variables inside no block, each in the order in which they stand. Every opener is
counted once. -/
theorem ofContent_matches_brackets (content : String) :
    ofContent content = ofBrackets (Placed.ofTokens (Token.scan content)) ∧
      (ofContent content).loopPaths.length + (ofContent content).nestedLoops.length +
          (ofContent content).unterminatedLoops.length =
        (Token.scan content).countP (·.kind = .opener) := by
  have formed : ∀ part ∈ Part.ofContent content, part.WellFormed := fun part =>
    Part.wellFormed_of_mem_ofTokens
  have same : ofContent content = ofBrackets (Placed.ofTokens (Token.scan content)) := by
    rw [ofContent, ofParts_eq_ofBrackets formed, Part.ofContent, Part.flatMap_placed_ofTokens]
  refine ⟨same, ?_⟩
  rw [same]
  conv_rhs => rw [← Placed.map_token_ofTokens (Token.scan content), List.countP_map]
  simp only [ofBrackets, length_valuesWhere]
  exact countP_openers (Placed.ofTokens (Token.scan content))

example : ofContent "{{loop:a}}{{x}}{{loop:b}}{{loop:c}}{{y}}{{/loop}}{{/loop}}" =
    { variableNames := ["x"], loopPaths := ["b"], unterminatedLoops := ["a"], nestedLoops := ["c"] } := by
  decide

end Shape

end InvoiceForms
