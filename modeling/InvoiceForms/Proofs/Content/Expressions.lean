import InvoiceForms.Content.Token
import InvoiceForms.Proofs.Text.Trim

/-!
# What the pattern of expressions fits

An expression stands where a pattern fits: two opening braces, blanks, anything, blanks, two closing
braces. The blanks take as much as they can and what is between them as little as it can, and each gives way
only where the rest does not fit. `Expression.fit?` tries all ways in this order. The first way that fits ends
at the first closing braces, and its expression is what stands between the braces, trimmed
(`Expression.fit?_braces`).
-/

namespace InvoiceForms

open InvoiceForms.Text

/-- A character stands twice at a place of a text. -/
def PairAt (c : Char) (cs : List Char) (i : Nat) : Prop := [c, c] <+: cs.drop i

instance (c : Char) (cs : List Char) (i : Nat) : Decidable (PairAt c cs i) :=
  inferInstanceAs (Decidable ([c, c] <+: cs.drop i))

section Pairs

variable {c : Char} {cs a before rest : List Char} {i : Nat}

theorem pairAt_append_iff : PairAt c (a ++ cs) (a.length + i) ↔ PairAt c cs i := by
  rw [PairAt, List.drop_length_add_append, PairAt]

theorem pairAt_of_append (c : Char) (a rest : List Char) : PairAt c (a ++ c :: c :: rest) a.length := by
  rw [PairAt, List.drop_append_length]
  exact ⟨rest, rfl⟩

theorem PairAt.lt (pair : PairAt c cs i) : i + 2 ≤ cs.length := by
  have size := pair.length_le
  rw [List.length_drop, List.length_cons, List.length_singleton] at size
  omega

/-- Whether the character stands twice is seen without what is behind. -/
theorem pairAt_append_left_iff (rest : List Char) (small : i + 2 ≤ a.length) :
    PairAt c (a ++ rest) i ↔ PairAt c a i := by
  rw [PairAt, PairAt, List.drop_append_of_le_length (by omega)]
  constructor
  · intro pair
    apply List.prefix_of_prefix_length_le pair (List.prefix_append _ _)
    rw [List.length_drop, List.length_cons, List.length_singleton]
    omega
  · exact fun pair => pair.trans (List.prefix_append _ _)

/-- A text is cut at the first place where the character stands twice. -/
theorem cutPair_eq_some (cut : Token.cutPair c cs = some (before, rest)) :
    cs = before ++ c :: c :: rest ∧ ∀ i < before.length, ¬ PairAt c cs i := by
  fun_induction Token.cutPair c cs generalizing before with
  | case1 | case2 => cases cut
  | case3 x y rest' same =>
    obtain ⟨rfl, rfl⟩ := same
    cases cut
    exact ⟨rfl, fun i small => absurd small (Nat.not_lt_zero i)⟩
  | case4 x y rest' other ih =>
    obtain ⟨⟨front, behind⟩, found, same⟩ := Option.map_eq_some_iff.mp cut
    cases same
    obtain ⟨whole, none⟩ := ih found
    refine ⟨congrArg (x :: ·) whole, fun i small pair => ?_⟩
    cases i with
    | zero =>
      rw [PairAt, List.drop_zero, List.cons_prefix_cons, List.cons_prefix_cons] at pair
      exact other ⟨pair.1.symm, pair.2.1.symm⟩
    | succ i => exact none i (Nat.lt_of_succ_lt_succ small) pair

/-- A text is not cut where the character stands twice nowhere. -/
theorem cutPair_eq_none (cut : Token.cutPair c cs = none) (i : Nat) : ¬ PairAt c cs i := by
  fun_induction Token.cutPair c cs generalizing i with
  | case1 | case2 =>
    intro pair
    have := pair.lt
    simp at this
  | case3 => cases cut
  | case4 x y rest' other ih =>
    intro pair
    cases i with
    | zero =>
      rw [PairAt, List.drop_zero, List.cons_prefix_cons, List.cons_prefix_cons] at pair
      exact other ⟨pair.1.symm, pair.2.1.symm⟩
    | succ i => exact ih (Option.map_eq_none_iff.mp cut) i pair

theorem cutPair_of_first (first : ∀ i < before.length, ¬ PairAt c (before ++ c :: c :: rest) i) :
    Token.cutPair c (before ++ c :: c :: rest) = some (before, rest) := by
  cases cut : Token.cutPair c (before ++ c :: c :: rest) with
  | none => exact absurd (pairAt_of_append c before rest) (cutPair_eq_none cut _)
  | some r =>
    obtain ⟨other, behind⟩ := r
    obtain ⟨whole, none⟩ := cutPair_eq_some cut
    have sameLength : before.length = other.length := by
      apply le_antisymm <;> rw [← not_lt] <;> intro shorter
      · refine first _ shorter ?_
        rw [whole]
        exact pairAt_of_append c other behind
      · exact none _ shorter (pairAt_of_append c before rest)
    obtain ⟨rfl, tail⟩ := List.append_inj whole sameLength
    cases tail
    rfl

end Pairs

namespace Expression

/-- What is behind a character that stands twice at the front of a text. -/
def afterPair? (c : Char) : List Char → Option (List Char)
  | a :: b :: cs => if a = c ∧ b = c then some cs else none
  | _ => none

/-- The ways to take characters of a class off the front of a text, the longest first: what is taken, and
what is left. -/
def takeMost (p : Char → Bool) : List Char → List (List Char × List Char)
  | [] => [([], [])]
  | c :: cs => (if p c then (takeMost p cs).map fun r => (c :: r.1, r.2) else []) ++ [([], c :: cs)]

/-- The ways to take characters off the front of a text, the shortest first. -/
def takeLeast : List Char → List (List Char × List Char)
  | [] => [([], [])]
  | c :: cs => ([], c :: cs) :: (takeLeast cs).map fun r => (c :: r.1, r.2)

/-- The first way in which the pattern of expressions fits the front of a text: the expression, and what is
behind the closing braces. -/
def fit? (cs : List Char) : Option (List Char × List Char) := do
  let inner ← afterPair? '\x7b' cs
  (takeMost isBlank inner).findSome? fun front =>
    (takeLeast front.2).findSome? fun expression =>
      (takeMost isBlank expression.2).findSome? fun back =>
        (afterPair? '\x7d' back.2).map fun after => (expression.1, after)

variable {c : Char} {cs inner after : List Char} {p : Char → Bool}

theorem afterPair?_eq_some_iff {rest : List Char} : afterPair? c cs = some rest ↔ cs = c :: c :: rest := by
  rcases cs with _ | ⟨a, _ | ⟨b, cs⟩⟩
  · simp [afterPair?]
  · simp [afterPair?]
  · simp [afterPair?, and_assoc]

theorem afterPair?_eq_none (none : ¬ PairAt c cs 0) : afterPair? c cs = .none := by
  rw [Option.eq_none_iff_forall_ne_some]
  intro rest found
  rw [afterPair?_eq_some_iff.mp found] at none
  exact none ⟨rest, rfl⟩

theorem afterPair?_of_nowhere {a : List Char} (nowhere : ∀ i, ¬ PairAt c (a ++ cs) i) :
    afterPair? c cs = none :=
  afterPair?_eq_none fun pair => nowhere _ (pairAt_append_iff.mpr pair)

theorem mem_takeMost {r : List Char × List Char} (member : r ∈ takeMost p cs) : r.1 ++ r.2 = cs := by
  induction cs generalizing r with
  | nil =>
    rw [takeMost, List.mem_singleton] at member
    rw [member]
    rfl
  | cons c cs ih =>
    rw [takeMost, List.mem_append, List.mem_singleton] at member
    rcases member with taken | rfl
    · split at taken
      · obtain ⟨others, inside, rfl⟩ := List.mem_map.mp taken
        rw [List.cons_append, ih inside]
      · cases taken
    · rfl

theorem mem_takeLeast {r : List Char × List Char} (member : r ∈ takeLeast cs) : r.1 ++ r.2 = cs := by
  induction cs generalizing r with
  | nil =>
    rw [takeLeast, List.mem_singleton] at member
    rw [member]
    rfl
  | cons c cs ih =>
    rw [takeLeast, List.mem_cons] at member
    rcases member with rfl | taken
    · rfl
    · obtain ⟨others, inside, rfl⟩ := List.mem_map.mp taken
      rw [List.cons_append, ih inside]

/-- The longest way comes first. -/
theorem takeMost_eq_cons (p : Char → Bool) (cs : List Char) :
    ∃ others, takeMost p cs = (cs.takeWhile p, cs.dropWhile p) :: others := by
  induction cs with
  | nil => exact ⟨[], rfl⟩
  | cons c cs ih =>
    obtain ⟨others, same⟩ := ih
    by_cases taken : p c = true
    · refine ⟨others.map (fun r => (c :: r.1, r.2)) ++ [([], c :: cs)], ?_⟩
      simp [takeMost, taken, same]
    · exact ⟨[], by simp [takeMost, taken]⟩

/-- A brace is no blank. -/
theorem isBlank_brace : isBlank '\x7d' = false := by decide

/-- Of all ways to take blanks off in front of closing braces only the longest fits. -/
theorem findSome?_takeMost {α : Type} (f : List Char → α) (cs : List Char) :
    (takeMost isBlank cs).findSome? (fun back => (afterPair? '\x7d' back.2).map f) =
      (afterPair? '\x7d' (cs.dropWhile isBlank)).map f := by
  induction cs with
  | nil => rfl
  | cons c cs ih =>
    by_cases blank : isBlank c = true
    · have shorter : afterPair? '\x7d' (c :: cs) = none := by
        rw [Option.eq_none_iff_forall_ne_some]
        intro rest found
        rw [(List.cons.inj (afterPair?_eq_some_iff.mp found)).1, isBlank_brace] at blank
        cases blank
      simp [takeMost, blank, List.findSome?_append, List.findSome?_map, Function.comp_def, ih, shorter]
    · simp [takeMost, blank]

/-- Blanks are taken off the end one after another. -/
theorem dropEndWhile_cons (p : Char → Bool) (c : Char) (cs : List Char) :
    dropEndWhile p (c :: cs) = if (c :: cs).all p then [] else c :: dropEndWhile p cs := by
  rw [dropEndWhile, List.reverse_cons, List.dropWhile_append, dropEndWhile]
  by_cases blank : cs.all p = true
  · have none : cs.reverse.dropWhile p = [] :=
      List.dropWhile_eq_nil_iff.mpr fun x member => List.all_eq_true.mp blank x (List.mem_reverse.mp member)
    by_cases taken : p c = true
    · simp [none, taken, blank]
    · simp [none, taken]
  · have some : cs.reverse.dropWhile p ≠ [] := by
      intro none
      refine blank (List.all_eq_true.mpr fun x member => ?_)
      exact List.dropWhile_eq_nil_iff.mp none x (List.mem_reverse.mpr member)
    simp [some, blank]

section Closed

variable (first : ∀ i < inner.length, ¬ PairAt '\x7d' (inner ++ '\x7d' :: '\x7d' :: after) i)

include first

/-- Closing braces are reached over blanks alone where only blanks are in front of them. -/
theorem afterPair?_dropWhile :
    afterPair? '\x7d' ((inner ++ '\x7d' :: '\x7d' :: after).dropWhile isBlank) =
      if inner.all isBlank then some after else none := by
  by_cases blank : inner.all isBlank = true
  · rw [if_pos blank, List.dropWhile_append_of_pos (List.all_eq_true.mp blank),
      List.dropWhile_cons_of_neg (by simp [isBlank_brace]), afterPair?_eq_some_iff]
  · rw [if_neg blank]
    apply afterPair?_eq_none
    intro pair
    have some : inner.dropWhile isBlank ≠ [] := fun none =>
      blank (List.all_eq_true.mpr (List.dropWhile_eq_nil_iff.mp none))
    have place : (inner.takeWhile isBlank).length < inner.length := by
      have whole := congrArg List.length (List.takeWhile_append_dropWhile (p := isBlank) (l := inner))
      rw [List.length_append] at whole
      have := List.length_pos_of_ne_nil some
      omega
    refine first _ place ?_
    rw [List.dropWhile_append, if_neg (by simpa using some)] at pair
    have moved := (pairAt_append_iff (a := inner.takeWhile isBlank)).mpr pair
    rwa [← List.append_assoc, List.takeWhile_append_dropWhile] at moved

/-- The shortest expression that fits leaves the blanks at its end to those behind it. -/
theorem findSome?_takeLeast :
    (takeLeast (inner ++ '\x7d' :: '\x7d' :: after)).findSome? (fun expression =>
      (afterPair? '\x7d' (expression.2.dropWhile isBlank)).map fun after => (expression.1, after)) =
      some (dropEndWhile isBlank inner, after) := by
  induction inner with
  | nil => simp [takeLeast, isBlank_brace, afterPair?, dropEndWhile]
  | cons c inner ih =>
    have here := afterPair?_dropWhile first
    have later := ih fun i small => first (i + 1) (Nat.succ_lt_succ small)
    rw [List.cons_append] at here ⊢
    rw [takeLeast, List.findSome?_cons, here, dropEndWhile_cons]
    by_cases blank : (c :: inner).all isBlank = true
    · simp [blank]
    · -- Not only blanks are left, so the expression takes the next character.
      have longer := congrArg (Option.map fun r => (c :: r.1, r.2)) later
      rw [List.map_findSome?] at longer
      rw [if_neg blank, if_neg blank, Option.map_none, List.findSome?_map]
      simpa [Function.comp_def] using longer

end Closed

/-- Where the pattern fits at opening braces it ends at the first closing braces behind them, and what is
between the braces is the expression, trimmed. -/
theorem fit?_braces (cs : List Char) : fit? ('\x7b' :: '\x7b' :: cs) =
    (Token.cutPair '\x7d' cs).map fun r => (trim isBlank r.1, r.2) := by
  have opened : afterPair? '\x7b' ('\x7b' :: '\x7b' :: cs) = some cs := rfl
  simp only [fit?, opened, Option.bind_eq_bind, Option.bind_some, findSome?_takeMost]
  cases cut : Token.cutPair '\x7d' cs with
  | none =>
    have nowhere := cutPair_eq_none cut
    rw [Option.map_none, List.findSome?_eq_none_iff]
    intro front inFront
    rw [List.findSome?_eq_none_iff]
    intro expression inside
    rw [Option.map_eq_none_iff]
    refine afterPair?_of_nowhere
      (a := front.1 ++ expression.1 ++ expression.2.takeWhile isBlank) ?_
    rw [List.append_assoc, List.takeWhile_append_dropWhile, List.append_assoc, mem_takeLeast inside,
      mem_takeMost inFront]
    exact nowhere
  | some r =>
    obtain ⟨inner, after⟩ := r
    obtain ⟨rfl, first⟩ := cutPair_eq_some cut
    obtain ⟨others, longest⟩ := takeMost_eq_cons isBlank (inner ++ '\x7d' :: '\x7d' :: after)
    have left : (inner ++ '\x7d' :: '\x7d' :: after).dropWhile isBlank =
        inner.dropWhile isBlank ++ '\x7d' :: '\x7d' :: after := by
      rw [List.dropWhile_append]
      split
      · next none => simp [List.isEmpty_iff.mp none, isBlank_brace]
      · rfl
    have behind : ∀ i < (inner.dropWhile isBlank).length,
        ¬ PairAt '\x7d' (inner.dropWhile isBlank ++ '\x7d' :: '\x7d' :: after) i := by
      intro i small pair
      have whole := List.takeWhile_append_dropWhile (p := isBlank) (l := inner)
      have moved := (pairAt_append_iff (a := inner.takeWhile isBlank)).mpr pair
      rw [← List.append_assoc, whole] at moved
      refine first _ ?_ moved
      have size := congrArg List.length whole
      rw [List.length_append] at size
      omega
    have found := findSome?_takeLeast behind
    rw [longest, List.findSome?_cons, left, found]
    rfl

/-- Without opening braces at the front the pattern does not fit. -/
theorem fit?_of_not_pair (none : ¬ PairAt '\x7b' cs 0) : fit? cs = .none := by
  rw [fit?, afterPair?_eq_none none]
  rfl

end Expression

end InvoiceForms
