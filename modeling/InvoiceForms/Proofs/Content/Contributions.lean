import InvoiceForms.Proofs.Content.Blocks

/-!
# What parts contribute

An expansion is put together from what its parts give, one after another, and the row of an item from
what the parts of the loop's body give. So what one part gives stands between what the parts in front of
it and behind it give. Only a loop that is not closed takes along all that is behind it.
-/

namespace InvoiceForms

open InvoiceForms.Results

variable {lookup : Lookup}

namespace Part

/-- No token is lost when tokens are grouped. -/
theorem flatMap_tokens_group {fuel : Nat} {ts : List Token} (enough : ts.length ≤ fuel) :
    (group fuel ts).flatMap tokens = ts := by
  fun_induction group fuel ts with
  | case1 ts =>
    obtain rfl : ts = [] := List.length_eq_zero_iff.mp (Nat.le_zero.mp enough)
    rfl
  | case2 => rfl
  | case3 fuel t ts kind body closer rest taken ih =>
    obtain rfl := eq_append_of_takeBlock taken
    simp only [List.length_cons, List.length_append] at enough
    rw [List.flatMap_cons, ih (by omega), tokens]
    simp
  | case4 fuel t ts kind taken ih | case5 fuel t ts kind ih | case6 fuel t ts notOpener notCloser ih =>
    rw [List.flatMap_cons, ih (Nat.le_of_succ_le_succ enough)]
    rfl

theorem flatMap_tokens_ofTokens (ts : List Token) : (ofTokens ts).flatMap tokens = ts :=
  flatMap_tokens_group (Nat.le_refl ts.length)

/-- The tokens of a part are among those that were grouped. -/
theorem mem_of_mem_tokens {ts : List Token} {part : Part} (inside : part ∈ ofTokens ts) {t : Token}
    (member : t ∈ part.tokens) : t ∈ ts := by
  rw [← flatMap_tokens_ofTokens ts]
  exact List.mem_flatMap.mpr ⟨part, inside, member⟩

end Part

namespace Row

/-- The row of the parts in front, and behind it that of the others. -/
theorem ofParts_append {number : Nat} {item : Value} {before after : List Part} {row : Warned Row}
    (given : ofParts lookup number item (before ++ after) = .ok row) :
    ∃ front back, ofParts lookup number item before = .ok front ∧
      ofParts lookup number item after = .ok back ∧
      row = ⟨front.made ++ back.made, front.warnings ++ back.warnings⟩ := by
  induction before generalizing row with
  | nil => exact ⟨⟨[], []⟩, row, rfl, given, rfl⟩
  | cons part before ih =>
    rw [List.cons_append, ofParts] at given
    obtain ⟨first, made, given⟩ := bind_eq_ok.mp given
    obtain ⟨rest, others, given⟩ := bind_eq_ok.mp given
    rw [return_eq_ok] at given
    subst given
    obtain ⟨front, back, inFront, behind, rfl⟩ := ih others
    refine ⟨⟨first.made :: front.made, first.warnings ++ front.warnings⟩, back, ?_, behind, ?_⟩
    · rw [ofParts, made, inFront]
      rfl
    · rw [List.cons_append, List.append_assoc]

/-- The row with the piece of one part between those of the others. -/
theorem ofParts_between {number : Nat} {item : Value} {before after : List Part} {part : Part}
    {row : Warned Row} (given : ofParts lookup number item (before ++ part :: after) = .ok row) :
    ∃ front own back, ofParts lookup number item before = .ok front ∧
      ofPart lookup number item part = .ok own ∧ ofParts lookup number item after = .ok back ∧
      row = ⟨front.made ++ own.made :: back.made, front.warnings ++ (own.warnings ++ back.warnings)⟩ := by
  obtain ⟨front, rest, inFront, others, rfl⟩ := ofParts_append given
  rw [ofParts] at others
  obtain ⟨own, made, others⟩ := bind_eq_ok.mp others
  obtain ⟨back, behind, others⟩ := bind_eq_ok.mp others
  rw [return_eq_ok] at others
  subst others
  exact ⟨front, own, back, inFront, made, behind, rfl⟩

/-- Each item has its own row, under its number. -/
theorem forall₂_of_ofItems {body : List Part} {number : Nat} {items : List Value}
    {made : Warned (List Row)} (given : ofItems lookup body number items = .ok made) :
    ∃ rows, List.Forall₂ (fun p row => ofParts lookup p.2 p.1 body = .ok row) (items.zipIdx number)
      rows ∧ made = ⟨rows.map (·.made), rows.flatMap (·.warnings)⟩ := by
  induction items generalizing number made with
  | nil =>
    cases given
    exact ⟨[], .nil, rfl⟩
  | cons item items ih =>
    rw [ofItems] at given
    obtain ⟨first, row, given⟩ := bind_eq_ok.mp given
    obtain ⟨rest, others, given⟩ := bind_eq_ok.mp given
    rw [return_eq_ok] at given
    subst given
    obtain ⟨rows, each, rfl⟩ := ih others
    exact ⟨first :: rows, .cons row each, rfl⟩

end Row

namespace Draft

/-- One draft behind another. -/
def append (front back : Draft) : Draft where
  text := front.text ++ back.text
  rows := front.rows ++ back.rows
  warnings := front.warnings ++ back.warnings
  hasLoop := front.hasLoop || back.hasLoop

theorem prepend_append (front back : Draft) (text : String) (warnings : List Warning) :
    (front.append back).prepend text warnings = (front.prepend text warnings).append back := by
  rw [prepend, append, prepend, append, Draft.mk.injEq]
  exact ⟨(String.append_assoc ..).symm, rfl, (List.append_assoc ..).symm, rfl⟩

/-- What is put in front of a draft does not keep it from being made. -/
theorem exists_prepend_iff {draft : Except LookupFault Draft} {text : String}
    {warnings : List Warning} :
    (∃ d, (do return (← draft).prepend text warnings) = .ok d) ↔ ∃ d, draft = .ok d := by
  constructor
  · rintro ⟨d, given⟩
    obtain ⟨rest, tail, -⟩ := exists_of_prepend given
    exact ⟨rest, tail⟩
  · rintro ⟨rest, tail⟩
    rw [tail]
    exact ⟨_, rfl⟩

/-- What a loop gives that is expanded. -/
theorem exists_of_block {opener closer : Token} {body : List Token} {own : Draft}
    (given : ofParts lookup false [.block opener body closer] = .ok own) :
    ∃ w, loopRows lookup opener.value body = .ok w ∧
      own = { text := String.join (w.made.map Row.text), rows := w.made, warnings := w.warnings,
              hasLoop := true } := by
  rw [ofParts, if_neg Bool.false_ne_true] at given
  obtain ⟨w, rows, given⟩ := bind_eq_ok.mp given
  cases given
  refine ⟨w, rows, ?_⟩
  simp only [prepend, String.append_empty, List.append_nil]

/-- Behind a loop no other one is expanded. -/
theorem bare_of_looped {parts : List Part} {d : Draft} (given : ofParts lookup true parts = .ok d) :
    d.rows = [] ∧ d.hasLoop = false := by
  induction parts generalizing d with
  | nil =>
    cases given
    exact ⟨rfl, rfl⟩
  | cons part parts ih =>
    have behind {text : String} {warnings : List Warning}
        (given : (do return (← ofParts lookup true parts).prepend text warnings) = .ok d) :
        d.rows = [] ∧ d.hasLoop = false := by
      obtain ⟨rest, tail, rfl⟩ := exists_of_prepend given
      exact ih (d := rest) tail
    cases part with
    | single t =>
      rw [ofParts] at given
      split at given
      · obtain ⟨w, -, given⟩ := bind_eq_ok.mp given
        exact behind given
      · exact behind given
      · exact behind given
    | stray t => exact behind given
    | unclosed t =>
      cases given
      exact ⟨rfl, rfl⟩
    | block opener body closer => exact behind given

/-- The draft of the parts in front, and behind it that of the others. The induction is on the parts in
front; what is carried along is whether a loop has been expanded. -/
theorem ofParts_append {looped : Bool} {before after : List Part} {d : Draft}
    (given : ofParts lookup looped (before ++ after) = .ok d)
    (closed : ∀ t, Part.unclosed t ∉ before) :
    ∃ front back, ofParts lookup looped before = .ok front ∧
      ofParts lookup (looped || before.any Part.isBlock) after = .ok back ∧ d = front.append back := by
  induction before generalizing looped d with
  | nil =>
    refine ⟨{}, d, rfl, ?_, ?_⟩
    · rw [List.any_nil, Bool.or_false]
      exact given
    · rw [append, String.empty_append, List.nil_append, List.nil_append, Bool.false_or]
  | cons part before ih =>
    have closed' (t : Token) : Part.unclosed t ∉ before := fun inside =>
      closed t (List.mem_cons_of_mem part inside)
    have behind {text : String} {warnings : List Warning} (same : (looped || part.isBlock) = looped)
        (given : (do return (← ofParts lookup looped (before ++ after)).prepend text warnings) = .ok d) :
        ∃ front back,
          (do return (← ofParts lookup looped before).prepend text warnings) = .ok front ∧
          ofParts lookup (looped || (part :: before).any Part.isBlock) after = .ok back ∧
          d = front.append back := by
      obtain ⟨rest, tail, rfl⟩ := exists_of_prepend given
      obtain ⟨front, back, inFront, later, rfl⟩ := ih tail closed'
      refine ⟨front.prepend text warnings, back, ?_, ?_, prepend_append front back text warnings⟩
      · rw [inFront]
        rfl
      · rw [List.any_cons, ← Bool.or_assoc, same]
        exact later
    rw [List.cons_append] at given
    cases part with
    | single t =>
      rw [ofParts] at given ⊢
      split at given
      · obtain ⟨w, resolved, given⟩ := bind_eq_ok.mp given
        rw [resolved]
        exact behind (Bool.or_false _) given
      · exact behind (Bool.or_false _) given
      · exact behind (Bool.or_false _) given
    | stray t => exact behind (Bool.or_false _) given
    | unclosed t => exact absurd List.mem_cons_self (closed t)
    | block opener body closer =>
      rw [ofParts] at given ⊢
      cases looped with
      | true => exact behind rfl given
      | false =>
        obtain ⟨w, rows, given⟩ := bind_eq_ok.mp given
        obtain ⟨rest, tail, given⟩ := bind_eq_ok.mp given
        rw [return_eq_ok] at given
        subst given
        obtain ⟨front, back, inFront, later, rfl⟩ := ih tail closed'
        refine ⟨{ front.prepend (String.join (w.made.map Row.text)) w.warnings with
          rows := w.made, hasLoop := true }, back, ?_, later, ?_⟩
        · rw [rows, inFront]
          rfl
        · rw [prepend_append]
          simp only [append, bare_of_looped later, List.append_nil, Bool.or_false]

/-- An expansion in which what one part gives stands between what the parts in front of it and behind it
give. -/
def Between (lookup : Lookup) (before : List Part) (part : Part) (after : List Part) (own : Draft)
    (e : Expansion) : Prop :=
  ∃ front back, ofParts lookup false before = .ok front ∧
    ofParts lookup ((before ++ [part]).any Part.isBlock) after = .ok back ∧
    e = (front.append (own.append back)).finish

theorem Between.mem_warnings {before after : List Part} {part : Part} {own : Draft} {e : Expansion}
    (between : Between lookup before part after own e) {w : Warning} (member : w ∈ own.warnings) :
    w ∈ e.warnings := by
  obtain ⟨front, back, -, -, rfl⟩ := between
  rw [finish, mem_distinct]
  exact ⟨List.mem_append_right _ (List.mem_append_left _ member), List.not_mem_nil⟩

section Expansions

variable {content : String} {before after : List Part} {e : Expansion}
  (given : Expansion.ofContent lookup content = .ok e) (closed : ∀ t, Part.unclosed t ∉ before)

include given closed

theorem exists_between {part : Part} (parts : Part.ofContent content = before ++ part :: after)
    (itself : part.isUnclosed = false) :
    ∃ own, ofParts lookup (before.any Part.isBlock) [part] = .ok own ∧
      Between lookup before part after own e := by
  obtain ⟨d, drafted, rfl⟩ := map_eq_ok.mp given
  rw [parts] at drafted
  obtain ⟨front, rest, inFront, others, rfl⟩ := ofParts_append drafted closed
  rw [Bool.false_or] at others
  have closed' (t : Token) : Part.unclosed t ∉ [part] := by
    rw [List.mem_singleton]
    rintro rfl
    cases itself
  obtain ⟨own, back, made, behind, rfl⟩ := ofParts_append others closed'
  refine ⟨own, made, front, back, inFront, ?_, rfl⟩
  rw [List.any_append]
  exact behind

/-- Behind a loop that is not closed there is only text. -/
theorem text_of_unclosed {opener : Token}
    (parts : Part.ofContent content = before ++ .unclosed opener :: after) :
    ∃ front, ofParts lookup false before = .ok front ∧
      e = (front.append { text := opener.raw ++ Part.rawText after,
                          warnings := [.unclosedLoop opener.value] }).finish := by
  obtain ⟨d, drafted, rfl⟩ := map_eq_ok.mp given
  rw [parts] at drafted
  obtain ⟨front, rest, inFront, others, rfl⟩ := ofParts_append drafted closed
  cases others
  exact ⟨front, inFront, rfl⟩

end Expansions

end Draft

end InvoiceForms
