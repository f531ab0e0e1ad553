import Mathlib.Data.List.Chain
import InvoiceForms.Proofs.Content.Expressions

/-!
# Tokens as a reading of a text

Cutting a content string into tokens loses nothing and misses nothing: every expression of the text is a
token, from its opening braces to the first closing braces behind them, and what lies between expressions is
text. `Token.Reads` says this of any list of tokens, and the tokens of a content string are the only ones of
which it is true (`Token.reads_iff`).
-/

namespace InvoiceForms

open InvoiceForms.Text

/-- Braces open an expression at a place: two opening ones, and somewhere behind them two closing ones. -/
def OpensAt (cs : List Char) (i : Nat) : Prop :=
  PairAt '\x7b' cs i ∧ ∃ j, i + 2 ≤ j ∧ PairAt '\x7d' cs j

namespace Token

/-- What an expression means: the kind of its token and the value. -/
inductive Means : List Char → TokenKind → String → Prop
  | opener (path : List Char) :
      Means ("loop:".toList ++ path) .opener (String.ofList (trim isBlank path))
  | closer : Means "/loop".toList .closer "/loop"
  | index : Means "@index".toList .index "@index"
  | variable (path : List Char) (notOpener : ¬ "loop:".toList <+: path)
      (notCloser : path ≠ "/loop".toList) (notIndex : path ≠ "@index".toList) :
      Means path .variable (String.ofList path)

/-- A token for what stands between braces: blanks, an expression without blanks at its ends, and blanks
again. The braces that close it are the first ones behind those that open it. Without an expression it is
text. -/
structure IsBraced (t : Token) (front expression back : List Char) : Prop where
  text : t.raw.toList = '\x7b' :: '\x7b' :: (front ++ expression ++ back) ++ ['\x7d', '\x7d']
  front : ∀ c ∈ front, isBlank c = true
  back : ∀ c ∈ back, isBlank c = true
  first : ∀ j, 2 ≤ j → PairAt '\x7d' t.raw.toList j → j + 2 = t.raw.toList.length
  starts : ∀ c ∈ expression.head?, isBlank c = false
  ends : ∀ c ∈ expression.getLast?, isBlank c = false
  blank : expression = [] → t.kind = .text ∧ t.value = t.raw
  means : expression ≠ [] → Means expression t.kind t.value

/-- A token from braces to braces. -/
def Braced (t : Token) : Prop := ∃ front expression back, t.IsBraced front expression back

/-- A token for a stretch of text, from a place on, in which no braces open an expression. -/
structure IsStretch (t : Token) (cs : List Char) (place : Nat) : Prop where
  kind : t.kind = .text
  value : t.value = t.raw
  nonempty : t.raw.toList ≠ []
  closed : ∀ i < t.raw.toList.length, ¬ OpensAt cs (place + i)

/-- Whether tokens read a text: put together they are the text, each of them is braced or a stretch, and no
two stretches stand side by side. -/
structure Reads (cs : List Char) (ts : List Token) : Prop where
  whole : (rawText ts).toList = cs
  each : ∀ before t after, ts = before ++ t :: after →
    t.Braced ∨ t.IsStretch cs (rawText before).toList.length
  apart : ts.IsChain fun t u => t.Braced ∨ u.Braced

end Token

section Places

variable {cs a : List Char} {i : Nat}

theorem opensAt_append_iff : OpensAt (a ++ cs) (a.length + i) ↔ OpensAt cs i := by
  rw [OpensAt, OpensAt, pairAt_append_iff]
  refine and_congr_right fun _ => ⟨?_, ?_⟩
  · rintro ⟨j, behind, pair⟩
    obtain ⟨k, rfl⟩ := Nat.exists_eq_add_of_le (show a.length ≤ j by omega)
    exact ⟨k, by omega, pairAt_append_iff.mp pair⟩
  · rintro ⟨j, behind, pair⟩
    exact ⟨a.length + j, by omega, pairAt_append_iff.mpr pair⟩

/-- The pattern of expressions fits at the places where braces open one, and at no other. -/
theorem fit?_eq_none_iff : Expression.fit? (cs.drop i) = none ↔ ¬ OpensAt cs i := by
  by_cases opened : PairAt '\x7b' cs i
  · obtain ⟨inner, shape⟩ := opened
    have braces : cs.drop i = ['\x7b', '\x7b'] ++ inner := shape.symm
    have whole : cs = cs.take i ++ ['\x7b', '\x7b'] ++ inner := by
      rw [List.append_assoc, ← braces, List.take_append_drop]
    have place : (cs.take i ++ ['\x7b', '\x7b']).length = i + 2 := by
      have := congrArg List.length braces
      simp only [List.length_drop, List.length_append, List.length_take, List.length_cons,
        List.length_nil] at this ⊢
      omega
    rw [braces, List.cons_append, List.cons_append, List.nil_append, Expression.fit?_braces,
      Option.map_eq_none_iff]
    constructor
    · rintro cut ⟨-, j, behind, closing⟩
      obtain ⟨k, rfl⟩ := Nat.exists_eq_add_of_le behind
      apply cutPair_eq_none cut k
      rwa [← pairAt_append_iff (a := cs.take i ++ ['\x7b', '\x7b']), place, ← whole]
    · intro never
      rw [Option.eq_none_iff_forall_ne_some]
      rintro ⟨before, after⟩ cut
      obtain ⟨rfl, -⟩ := cutPair_eq_some cut
      refine never ⟨⟨_, shape⟩, i + 2 + before.length, by omega, ?_⟩
      rw [whole, ← place, pairAt_append_iff]
      exact pairAt_of_append _ _ _
  · rw [Expression.fit?_of_not_pair (by rwa [PairAt, List.drop_zero])]
    simp [OpensAt, opened]

end Places

namespace Token

variable {t u : Token} {ts us : List Token} {cs rest : List Char}

theorem toList_rawText_cons (t : Token) (ts : List Token) :
    (rawText (t :: ts)).toList = t.raw.toList ++ (rawText ts).toList := by
  rw [rawText, List.map_cons, String.join_cons, String.toList_append, rawText]

theorem toList_rawText_append (ts us : List Token) :
    (rawText (ts ++ us)).toList = (rawText ts).toList ++ (rawText us).toList := by
  rw [rawText, List.map_append, String.join_append, String.toList_append, rawText, rawText]

/-- Whether a token is a stretch does not depend on what is in front of its place. -/
theorem isStretch_append_iff {a : List Char} {place : Nat} :
    t.IsStretch (a ++ cs) (a.length + place) ↔ t.IsStretch cs place := by
  constructor
  · rintro ⟨kind, value, nonempty, closed⟩
    refine ⟨kind, value, nonempty, fun i small opens => closed i small ?_⟩
    rw [Nat.add_assoc]
    exact opensAt_append_iff.mpr opens
  · rintro ⟨kind, value, nonempty, closed⟩
    refine ⟨kind, value, nonempty, fun i small opens => closed i small ?_⟩
    rw [Nat.add_assoc] at opens
    exact opensAt_append_iff.mp opens

/-- Reading a text is reading its first token and then the others. -/
theorem reads_cons_iff : Reads cs (t :: ts) ↔ ∃ rest, cs = t.raw.toList ++ rest ∧
    (t.Braced ∨ t.IsStretch cs 0) ∧ (∀ u ∈ ts.head?, t.Braced ∨ u.Braced) ∧ Reads rest ts := by
  constructor
  · rintro ⟨whole, each, apart⟩
    rw [toList_rawText_cons] at whole
    obtain ⟨here, chain⟩ := List.isChain_cons.mp apart
    refine ⟨(rawText ts).toList, whole.symm, each [] t ts rfl, here, rfl, fun before u after same => ?_,
      chain⟩
    rw [← whole, same] at each
    have later := each (t :: before) u after rfl
    rwa [toList_rawText_cons, List.length_append, isStretch_append_iff, ← same] at later
  · rintro ⟨rest, rfl, first, here, whole, each, chain⟩
    refine ⟨by rw [toList_rawText_cons, whole], fun before u after same => ?_,
      List.isChain_cons.mpr ⟨here, chain⟩⟩
    cases before with
    | nil =>
      cases same
      exact first
    | cons v before =>
      obtain ⟨rfl, rfl⟩ := List.cons.inj same
      rw [toList_rawText_cons, List.length_append, isStretch_append_iff]
      exact each before u after rfl

section Braces

variable {front expression back : List Char}

@[simp] theorem ofExpression_raw (raw : String) (expression : List Char) :
    (ofExpression raw expression).raw = raw := by
  unfold ofExpression
  dsimp only
  split_ifs <;> rfl

/-- An expression that opens no loop, closes none and is no item number is a variable. -/
theorem ofExpression_variable (raw : String) (some : expression ≠ [])
    (notOpener : ¬ "loop:".toList <+: expression) (notCloser : expression ≠ "/loop".toList)
    (notIndex : expression ≠ "@index".toList) :
    ofExpression raw expression = ⟨.variable, raw, String.ofList expression⟩ := by
  have differs {s : String} (other : expression ≠ s.toList) : String.ofList expression ≠ s := by
    rintro rfl
    exact other String.toList_ofList.symm
  rw [ofExpression, if_neg some, if_neg, loopEnd, if_neg (differs notCloser), itemNumber,
    if_neg (differs notIndex)]
  exact fun starts => notOpener (List.isPrefixOf_iff_prefix.mp starts)

theorem ofExpression_opener (raw : String) (path : List Char) :
    ofExpression raw ("loop:".toList ++ path) =
      ⟨.opener, raw, String.ofList (trim isBlank path)⟩ := by
  have starts : loopMark.isPrefixOf ("loop:".toList ++ path) = true :=
    List.isPrefixOf_iff_prefix.mpr (List.prefix_append _ _)
  rw [ofExpression, if_neg (by simp), if_pos starts, loopMark, List.drop_left]

/-- What an expression means is the kind and the value of the token made for it. -/
theorem means_iff {kind : TokenKind} {value : String} (raw : String) (some : expression ≠ []) :
    Means expression kind value ↔ ofExpression raw expression = ⟨kind, raw, value⟩ := by
  constructor
  · intro means
    cases means with
    | opener path => exact ofExpression_opener raw path
    | closer => rfl
    | index => rfl
    | «variable» path notOpener notCloser notIndex =>
      exact ofExpression_variable raw some notOpener notCloser notIndex
  · intro made
    by_cases opener : "loop:".toList <+: expression
    · obtain ⟨path, rfl⟩ := opener
      rw [ofExpression_opener] at made
      cases made
      exact .opener path
    · by_cases closer : expression = "/loop".toList
      · subst closer
        cases made
        exact .closer
      · by_cases index : expression = "@index".toList
        · subst index
          cases made
          exact .index
        · rw [ofExpression_variable raw some opener closer index] at made
          cases made
          exact .variable expression opener closer index

theorem IsBraced.eq_ofExpression (braced : t.IsBraced front expression back) :
    t = ofExpression t.raw expression := by
  by_cases empty : expression = []
  · obtain ⟨kind, value⟩ := braced.blank empty
    obtain ⟨_, raw, _⟩ := t
    cases kind
    cases value
    rw [ofExpression, if_pos empty]
  · rw [(means_iff t.raw empty).mp (braced.means empty)]

/-- The pattern of expressions fits a braced token, whatever follows it, and fits no more. -/
theorem IsBraced.fit? (braced : t.IsBraced front expression back) (rest : List Char) :
    Expression.fit? (t.raw.toList ++ rest) = some (expression, rest) := by
  have first : ∀ i < (front ++ expression ++ back).length,
      ¬ PairAt '\x7d' (front ++ expression ++ back ++ '\x7d' :: '\x7d' :: rest) i := by
    intro i small pair
    have inside : PairAt '\x7d' t.raw.toList (2 + i) := by
      rw [braced.text]
      refine (pairAt_append_iff (a := ['\x7b', '\x7b'])).mpr ?_
      rw [← pairAt_append_left_iff rest]
      · simpa using pair
      · simp at small ⊢
        omega
    have last := braced.first _ (by omega) inside
    rw [braced.text] at last
    simp only [List.length_append, List.length_cons, List.length_nil] at last small
    omega
  have shape : t.raw.toList ++ rest =
      '\x7b' :: '\x7b' :: (front ++ expression ++ back ++ '\x7d' :: '\x7d' :: rest) := by
    rw [braced.text]
    simp
  rw [shape, Expression.fit?_braces, cutPair_of_first first, Option.map_some,
    trim_append braced.front braced.back braced.starts braced.ends]

/-- Braces at one place make one token. -/
theorem Braced.eq_of_append {rest' : List Char} (braced : t.Braced) (other : u.Braced)
    (same : t.raw.toList ++ rest = u.raw.toList ++ rest') : t = u ∧ rest = rest' := by
  obtain ⟨front, expression, back, here⟩ := braced
  obtain ⟨front', expression', back', there⟩ := other
  have fits := here.fit? rest
  rw [same, there.fit? rest'] at fits
  cases fits
  refine ⟨?_, rfl⟩
  rw [here.eq_ofExpression, there.eq_ofExpression, String.toList_injective (List.append_cancel_right same)]

theorem Braced.opensAt (braced : t.Braced) (rest : List Char) : OpensAt (t.raw.toList ++ rest) 0 := by
  obtain ⟨front, expression, back, here⟩ := braced
  rw [here.text, List.append_assoc]
  refine ⟨⟨_, rfl⟩, _, ?_, pairAt_of_append _ _ _⟩
  simp

theorem Braced.nonempty (braced : t.Braced) : t.raw.toList ≠ [] := by
  obtain ⟨front, expression, back, here⟩ := braced
  rw [here.text]
  exact nofun

/-- The token made for what stands up to the first closing braces is braced. -/
theorem braced_ofExpression {inner : List Char} {raw : String}
    (text : raw.toList = '\x7b' :: '\x7b' :: inner ++ ['\x7d', '\x7d'])
    (first : ∀ i < inner.length, ¬ PairAt '\x7d' (inner ++ ['\x7d', '\x7d']) i) :
    (ofExpression raw (trim isBlank inner)).Braced := by
  obtain ⟨front, back, whole, blankFront, blankBack, starts, ends⟩ := exists_trim isBlank inner
  refine ⟨front, trim isBlank inner, back, ⟨?_, blankFront, blankBack, ?_, starts, ends, ?_, ?_⟩⟩
  · rw [ofExpression_raw, text, ← whole]
  · intro j behind pair
    rw [ofExpression_raw, text] at pair ⊢
    obtain ⟨k, rfl⟩ := Nat.exists_eq_add_of_le behind
    have inside : PairAt '\x7d' (inner ++ ['\x7d', '\x7d']) k :=
      (pairAt_append_iff (a := ['\x7b', '\x7b'])).mp pair
    have late := first k
    have small := inside.lt
    simp only [List.length_append, List.length_cons, List.length_nil] at small ⊢
    by_contra early
    exact late (by omega) inside
  · intro empty
    rw [empty, ofExpression, if_pos rfl]
    exact ⟨rfl, rfl⟩
  · intro some
    rw [means_iff raw some]
    cases made : ofExpression raw (trim isBlank inner) with
    | mk kind own value =>
      have same := ofExpression_raw raw (trim isBlank inner)
      rw [made] at same
      cases same
      rfl

end Braces

section Unique

theorem IsStretch.not_braced (stretch : t.IsStretch (u.raw.toList ++ rest) 0) : ¬ u.Braced := by
  intro braced
  exact stretch.closed 0 (List.length_pos_of_ne_nil stretch.nonempty) (braced.opensAt rest)

/-- Behind a stretch, braces open an expression where the text is not at its end. -/
theorem Reads.opensAt (reads : Reads rest ts) (stretch : t.IsStretch (t.raw.toList ++ rest) 0)
    (apart : ∀ u ∈ ts.head?, t.Braced ∨ u.Braced) (more : rest ≠ []) :
    OpensAt (t.raw.toList ++ rest) t.raw.toList.length := by
  cases ts with
  | nil => exact absurd reads.whole.symm more
  | cons u ts =>
    obtain ⟨behind, rfl, -⟩ := reads_cons_iff.mp reads
    have braced : u.Braced := (apart u rfl).resolve_left stretch.not_braced
    exact (opensAt_append_iff (i := 0)).mpr (braced.opensAt behind)

/-- A stretch ends where braces open an expression or the text ends, so no other reaches further. -/
theorem IsStretch.length_le {rest' : List Char} (stretch : t.IsStretch (t.raw.toList ++ rest) 0)
    (apart : ∀ v ∈ ts.head?, t.Braced ∨ v.Braced) (reads : Reads rest ts)
    (other : u.IsStretch (t.raw.toList ++ rest) 0) (same : t.raw.toList ++ rest = u.raw.toList ++ rest') :
    u.raw.toList.length ≤ t.raw.toList.length := by
  by_contra shorter
  have more : rest ≠ [] := by
    rintro rfl
    have sizes := congrArg List.length same
    rw [List.append_nil, List.length_append] at sizes
    omega
  apply other.closed t.raw.toList.length (by omega)
  rw [Nat.zero_add]
  exact reads.opensAt stretch apart more

theorem IsStretch.ext {cs' : List Char} (stretch : t.IsStretch cs 0) (other : u.IsStretch cs' 0)
    (same : t.raw = u.raw) : t = u := by
  obtain ⟨kind, raw, value⟩ := t
  obtain ⟨kind', raw', value'⟩ := u
  cases same
  cases stretch.kind
  cases other.kind
  cases stretch.value
  cases other.value
  rfl

/-- No token of a reading is empty. -/
theorem Reads.eq_nil (reads : Reads [] ts) : ts = [] := by
  cases ts with
  | nil => rfl
  | cons t ts =>
    obtain ⟨rest, whole, here, -⟩ := reads_cons_iff.mp reads
    have empty : t.raw.toList = [] := (List.append_eq_nil_iff.mp whole.symm).1
    rcases here with braced | stretch
    · exact absurd empty braced.nonempty
    · exact absurd empty stretch.nonempty

/-- There is one way to read a text. -/
theorem Reads.unique (reads : Reads cs ts) (other : Reads cs us) : ts = us := by
  induction ts generalizing cs us with
  | nil =>
    cases reads.whole
    exact other.eq_nil.symm
  | cons t ts ih =>
    cases us with
    | nil =>
      cases other.whole
      exact reads.eq_nil
    | cons u us =>
      obtain ⟨rest, rfl, here, apart, later⟩ := reads_cons_iff.mp reads
      obtain ⟨rest', same, there, apart', later'⟩ := reads_cons_iff.mp other
      have equal : t = u ∧ rest = rest' := by
        rcases here with braced | stretch
        · rcases there with braced' | stretch'
          · exact braced.eq_of_append braced' same
          · exact absurd braced stretch'.not_braced
        · rw [same] at stretch
          rcases there with braced' | stretch'
          · exact absurd braced' stretch.not_braced
          · -- Two stretches at one place reach equally far.
            have sizes : t.raw.toList.length = u.raw.toList.length := by
              rw [same] at stretch'
              apply le_antisymm
              · exact stretch'.length_le apart' later' stretch same.symm
              · rw [← same] at stretch stretch'
                exact stretch.length_le apart later stretch' same
            obtain ⟨raws, rests⟩ := List.append_inj same sizes
            exact ⟨stretch.ext stretch' (String.toList_injective raws), rests⟩
      obtain ⟨rfl, rfl⟩ := equal
      rw [ih later later']

end Unique

section Scan

/-- The token of a stretch stands in front of a reading that begins with braces, or of none. -/
theorem Reads.ofText_append (before : List Char) (reads : Reads cs ts)
    (closed : ∀ i < before.length, ¬ OpensAt (before ++ cs) i) (braced : ∀ t ∈ ts.head?, t.Braced) :
    Reads (before ++ cs) (ofText before ++ ts) := by
  by_cases empty : before = []
  · rw [empty, ofText, if_pos rfl]
    exact reads
  · rw [ofText, if_neg empty, List.singleton_append, reads_cons_iff]
    refine ⟨cs, by rw [String.toList_ofList], Or.inr ⟨rfl, rfl, ?_, fun i small => ?_⟩,
      fun u first => Or.inr (braced u first), reads⟩
    · rwa [String.toList_ofList]
    · rw [String.toList_ofList] at small
      rw [Nat.zero_add]
      exact closed i small

theorem reads_nil : Reads [] [] := ⟨rfl, fun _ _ _ same => by simp at same, .nil⟩

/-- A text without expressions is one stretch. -/
theorem reads_ofText (closed : ∀ i, ¬ OpensAt cs i) : Reads cs (ofText cs) := by
  have alone := reads_nil.ofText_append cs (fun i _ => by simpa using closed i) nofun
  simpa using alone

/-- Scanning reads the text, where there is fuel for it. -/
theorem reads_scanFrom (fuel : Nat) (cs : List Char) (enough : cs.length ≤ fuel) :
    Reads cs (scanFrom fuel cs) := by
  induction fuel generalizing cs with
  | zero =>
    cases List.length_eq_zero_iff.mp (Nat.le_zero.mp enough)
    exact reads_nil
  | succ fuel ih =>
    rw [scanFrom]
    split
    · next cut => exact reads_ofText fun i opens => cutPair_eq_none cut i opens.1
    · next front rest cut =>
      obtain ⟨rfl, first⟩ := cutPair_eq_some cut
      split
      · next cut =>
        refine reads_ofText fun i opens => ?_
        obtain ⟨pair, j, behind, closing⟩ := opens
        have late : front.length ≤ i := by
          by_contra early
          exact first i (by omega) pair
        obtain ⟨k, rfl⟩ := Nat.exists_eq_add_of_le (show front.length + 2 ≤ j by omega)
        apply cutPair_eq_none cut k
        rw [← pairAt_append_iff (a := front ++ ['\x7b', '\x7b'])]
        simpa using closing
      · next inner after cut =>
        obtain ⟨rfl, closes⟩ := cutPair_eq_some cut
        have later := ih after (by simp at enough; omega)
        have braced : (ofExpression (String.ofList ('\x7b' :: '\x7b' :: inner ++ ['\x7d', '\x7d']))
            (trim isBlank inner)).Braced := by
          refine braced_ofExpression String.toList_ofList fun i small pair => closes i small ?_
          rw [← pairAt_append_left_iff after] at pair
          · simpa using pair
          · rw [List.length_append, List.length_cons, List.length_singleton]
            omega
        have whole := reads_cons_iff.mpr ⟨after, rfl, Or.inl braced, fun _ _ => Or.inl braced, later⟩
        rw [ofExpression_raw, String.toList_ofList] at whole
        have reads := whole.ofText_append front
          (fun i small opens => first i small (by simpa using opens.1))
          (fun t head => by cases head; exact braced)
        simpa using reads

/-- The tokens of a content string are the only reading of it. -/
theorem reads_iff (content : String) : Reads content.toList ts ↔ ts = scan content := by
  have reads := reads_scanFrom content.length content.toList (String.length_toList).le
  refine ⟨fun other => other.unique reads, ?_⟩
  rintro rfl
  exact reads

/-- The raw texts of the tokens, put together, are the content. -/
theorem rawText_scan (content : String) : rawText (scan content) = content :=
  String.toList_injective ((reads_iff content).mpr rfl).whole

/-- For every content string, its tokens are the only reading of it. The pattern of expressions fits where
braces open an expression and nowhere else, and where a token is braced it fits this token: so the matches of
the pattern are leftmost and shortest, and none is missed. -/
theorem scan_exact (content : String) :
    (∀ ts, Reads content.toList ts ↔ ts = scan content) ∧
      (∀ i, Expression.fit? (content.toList.drop i) = none ↔ ¬ OpensAt content.toList i) ∧
      ∀ before t after front expression back, scan content = before ++ t :: after →
        t.IsBraced front expression back →
        Expression.fit? (content.toList.drop (rawText before).toList.length) =
          some (expression, (rawText after).toList) := by
  refine ⟨fun ts => reads_iff content, fun i => fit?_eq_none_iff, ?_⟩
  intro before t after front expression back same braced
  conv_lhs => rw [← rawText_scan content, same, toList_rawText_append, List.drop_left, toList_rawText_cons]
  exact braced.fit? _

example : (scan "\x7b\x7b\x7b a \x7d\x7d\x7d\x7b\x7bc").map (fun t => (t.kind, t.raw, t.value)) =
    [(.variable, "\x7b\x7b\x7b a \x7d\x7d", "\x7b a"), (.text, "\x7d\x7b\x7bc", "\x7d\x7b\x7bc")] := by
  decide

end Scan

end Token

end InvoiceForms
