import InvoiceForms.Proofs.Content.Contributions
import InvoiceForms.Proofs.Content.Nesting

/-!
# The loop that is expanded

Only one loop of a content string is expanded: its first opener, when that one is closed. The rows of an
expansion are those of this loop, and there are none without it (`Draft.rows_of_firstLoop`,
`Draft.hasFirstLoop_or`).
-/

namespace InvoiceForms

open InvoiceForms.Results

/-- Tokens with a first opener that is closed: what is in front of it, its block, and what is behind. -/
structure FirstLoop (ts before : List Token) (opener : Token) (body : List Token) (closer : Token)
    (after : List Token) : Prop where
  tokens : ts = before ++ (opener :: body ++ closer :: after)
  first : ∀ t ∈ before, t.kind ≠ .opener
  opens : opener.kind = .opener
  balanced : Balanced body
  closes : closer.kind = .closer

/-- Tokens with one loop: neither in front of it nor behind it there is an opener or a closer. -/
structure OneLoop (ts before : List Token) (opener : Token) (body : List Token) (closer : Token)
    (after : List Token) : Prop extends FirstLoop ts before opener body closer after where
  alone : ∀ t ∈ before ++ after, t.kind ≠ .opener ∧ t.kind ≠ .closer

/-- Tokens whose first opener is closed. -/
def HasFirstLoop (ts : List Token) : Prop :=
  ∃ before opener body closer after, FirstLoop ts before opener body closer after

namespace Part

variable {t : Token} {ts : List Token}

/-- More fuel than tokens changes nothing. -/
theorem group_eq_ofTokens {fuel : Nat} (enough : ts.length ≤ fuel) : group fuel ts = ofTokens ts := by
  have same {fuel fuel' : Nat} {ts : List Token} (enough : ts.length ≤ fuel)
      (enough' : ts.length ≤ fuel') : group fuel ts = group fuel' ts := by
    induction fuel generalizing fuel' ts with
    | zero =>
      obtain rfl : ts = [] := List.length_eq_zero_iff.mp (Nat.le_zero.mp enough)
      cases fuel' <;> rfl
    | succ fuel ih =>
      cases ts with
      | nil => cases fuel' <;> rfl
      | cons t ts =>
        obtain ⟨fuel', rfl⟩ := Nat.exists_eq_succ_of_ne_zero (Nat.ne_of_gt (Nat.lt_of_lt_of_le
          (Nat.succ_pos ts.length) enough'))
        have rest : group fuel ts = group fuel' ts :=
          ih (Nat.le_of_succ_le_succ enough) (Nat.le_of_succ_le_succ enough')
        rw [group, group, rest]
        split
        · split
          · next body closer after taken =>
            have size := congrArg List.length (eq_append_of_takeBlock taken)
            simp only [List.length_append, List.length_cons] at size enough enough'
            rw [ih (by omega) (show after.length ≤ fuel' by omega)]
          · rfl
        · rfl
        · rfl
  exact same enough (Nat.le_refl _)

theorem ofTokens_plain (notOpener : t.kind ≠ .opener) (notCloser : t.kind ≠ .closer) :
    ofTokens (t :: ts) = single t :: ofTokens ts := by
  rw [ofTokens, List.length_cons, group]
  cases kind : t.kind <;> simp_all [ofTokens]

theorem ofTokens_closer (closes : t.kind = .closer) : ofTokens (t :: ts) = stray t :: ofTokens ts := by
  rw [ofTokens, List.length_cons, group]
  simp [closes, ofTokens]

theorem ofTokens_block {opener closer : Token} {body : List Token} (opens : opener.kind = .opener)
    (inside : Balanced body) (closes : closer.kind = .closer) :
    ofTokens (opener :: body ++ closer :: ts) = block opener body closer :: ofTokens ts := by
  have rest : group (body ++ closer :: ts).length ts = ofTokens ts :=
    group_eq_ofTokens (by simp only [List.length_append, List.length_cons]; omega)
  rw [ofTokens, List.cons_append, List.length_cons, group, opens, inside.takeBlock_closer closes, ← rest]

/-- The part that a token without block makes. -/
def ofToken (t : Token) : Part := if t.kind = .closer then stray t else single t

/-- Tokens without openers make no blocks. -/
theorem ofTokens_append {before : List Token} (noOpener : ∀ t ∈ before, t.kind ≠ .opener) :
    ofTokens (before ++ ts) = before.map ofToken ++ ofTokens ts := by
  induction before with
  | nil => rfl
  | cons t before ih =>
    have others := ih fun u later => noOpener u (List.mem_cons_of_mem t later)
    rw [List.cons_append, List.map_cons, List.cons_append, ofToken, ← others]
    by_cases closes : t.kind = .closer
    · rw [if_pos closes, ofTokens_closer closes]
    · rw [if_neg closes, ofTokens_plain (noOpener t List.mem_cons_self) closes]

/-- Tokens that neither open nor close a loop stand alone. -/
theorem map_ofToken (plain : ∀ t ∈ ts, t.kind ≠ .opener ∧ t.kind ≠ .closer) :
    ts.map ofToken = ts.map .single := by
  apply List.map_congr_left
  intro t member
  rw [ofToken, if_neg (plain t member).2]

theorem ofTokens_of_plain (plain : ∀ t ∈ ts, t.kind ≠ .opener ∧ t.kind ≠ .closer) :
    ofTokens ts = ts.map .single := by
  have whole : ofTokens (ts ++ []) = ts.map ofToken ++ ofTokens [] :=
    ofTokens_append fun t member => (plain t member).1
  rw [List.append_nil, map_ofToken plain] at whole
  rw [whole]
  exact List.append_nil _

theorem not_unclosed_mem_map_ofToken {before : List Token} (u : Token) :
    unclosed u ∉ before.map ofToken := by
  intro member
  obtain ⟨t, -, same⟩ := List.mem_map.mp member
  rw [ofToken] at same
  split at same <;> cases same

theorem any_isBlock_map_ofToken (before : List Token) : (before.map ofToken).any isBlock = false := by
  rw [List.any_eq_false]
  intro part member
  obtain ⟨t, -, rfl⟩ := List.mem_map.mp member
  rw [ofToken]
  split <;> exact Bool.false_ne_true

end Part

namespace FirstLoop

variable {ts before body after : List Token} {opener closer : Token}

/-- Where the first loop stands among the parts. -/
theorem ofTokens_eq (loop : FirstLoop ts before opener body closer after) :
    Part.ofTokens ts =
      before.map Part.ofToken ++ .block opener body closer :: Part.ofTokens after := by
  rw [loop.tokens, Part.ofTokens_append loop.first,
    Part.ofTokens_block loop.opens loop.balanced loop.closes]

/-- A token in front of the first loop. -/
theorem cons {t : Token} (loop : FirstLoop ts before opener body closer after)
    (notOpener : t.kind ≠ .opener) : FirstLoop (t :: ts) (t :: before) opener body closer after where
  tokens := congrArg (t :: ·) loop.tokens
  first := List.forall_mem_cons.mpr ⟨notOpener, loop.first⟩
  opens := loop.opens
  balanced := loop.balanced
  closes := loop.closes

end FirstLoop

namespace Draft

variable {lookup : Lookup} {looped : Bool} {parts : List Part} {d : Draft}

/-- Without blocks there are no rows. -/
theorem bare_of_no_block (given : ofParts lookup looped parts = .ok d)
    (noBlock : parts.any Part.isBlock = false) : d.rows = [] ∧ d.hasLoop = false := by
  induction parts generalizing d with
  | nil =>
    cases given
    exact ⟨rfl, rfl⟩
  | cons part parts ih =>
    rw [List.any_cons, Bool.or_eq_false_iff] at noBlock
    have behind {text : String} {warnings : List Warning}
        (given : (do return (← ofParts lookup looped parts).prepend text warnings) = .ok d) :
        d.rows = [] ∧ d.hasLoop = false := by
      obtain ⟨rest, tail, rfl⟩ := exists_of_prepend given
      exact ih (d := rest) tail noBlock.2
    cases part with
    | single t =>
      rw [ofParts] at given
      split at given
      · obtain ⟨w, -, given⟩ := bind_eq_ok.mp given
        exact behind given
      · exact behind given
      · exact behind given
    | stray t => exact behind given
    | unclosed t =>
      cases given
      exact ⟨rfl, rfl⟩
    | block opener body closer => cases noBlock.1

/-- The rows of a draft are those of the first loop. -/
theorem rows_of_firstLoop {ts before body after : List Token} {opener closer : Token}
    (loop : FirstLoop ts before opener body closer after)
    (given : ofParts lookup false (Part.ofTokens ts) = .ok d) :
    d.hasLoop = true ∧ ∃ w, loopRows lookup opener.value body = .ok w ∧ d.rows = w.made := by
  have noBlock := Part.any_isBlock_map_ofToken before
  rw [loop.ofTokens_eq] at given
  obtain ⟨front, others, inFront, later, rfl⟩ :=
    ofParts_append given Part.not_unclosed_mem_map_ofToken
  rw [noBlock, Bool.or_false, ← List.singleton_append] at later
  obtain ⟨own, back, made, behind, rfl⟩ := ofParts_append later (by simp)
  obtain ⟨w, rows, rfl⟩ := exists_of_block made
  obtain ⟨noRows, -⟩ := bare_of_no_block inFront noBlock
  obtain ⟨noMore, -⟩ := bare_of_looped behind
  refine ⟨by simp [append], w, rows, ?_⟩
  simp [append, noRows, noMore]

/-- A token in front that is no opener keeps what is said of the others. -/
theorem firstLoop_or_of_prepend {t : Token} {ts : List Token} {text : String} {warnings : List Warning}
    (notOpener : t.kind ≠ .opener)
    (others : ∀ {d}, ofParts lookup looped parts = .ok d →
      HasFirstLoop ts ∨ (d.rows = [] ∧ d.hasLoop = false))
    (given : (do return (← ofParts lookup looped parts).prepend text warnings) = .ok d) :
    HasFirstLoop (t :: ts) ∨ (d.rows = [] ∧ d.hasLoop = false) := by
  obtain ⟨rest, tail, rfl⟩ := exists_of_prepend given
  rcases others tail with ⟨before, opener, body, closer, after, loop⟩ | bare
  · exact .inl ⟨t :: before, opener, body, closer, after, loop.cons notOpener⟩
  · exact .inr bare

/-- Where the first opener is not closed there are no rows. The induction is on the calls of `group`; an
opener without closer ends the draft. -/
theorem hasFirstLoop_or {fuel : Nat} {ts : List Token}
    (given : ofParts lookup false (Part.group fuel ts) = .ok d) :
    HasFirstLoop ts ∨ (d.rows = [] ∧ d.hasLoop = false) := by
  fun_induction Part.group fuel ts generalizing d with
  | case1 | case2 =>
    cases given
    exact .inr ⟨rfl, rfl⟩
  | case3 fuel t ts kind body closer rest taken ih =>
    obtain ⟨inside, closes⟩ := Part.closes_of_takeBlock taken
    obtain rfl := Part.eq_append_of_takeBlock taken
    exact .inl ⟨[], t, body, closer, rest, rfl, by simp, kind, inside, closes⟩
  | case4 fuel t ts kind taken ih =>
    cases given
    exact .inr ⟨rfl, rfl⟩
  | case5 fuel t ts kind ih =>
    exact firstLoop_or_of_prepend (by simp [kind]) ih given
  | case6 fuel t ts notOpener notCloser ih =>
    rw [ofParts] at given
    split at given
    · obtain ⟨w, -, given⟩ := bind_eq_ok.mp given
      exact firstLoop_or_of_prepend notOpener ih given
    · exact firstLoop_or_of_prepend notOpener ih given
    · exact firstLoop_or_of_prepend notOpener ih given

end Draft

end InvoiceForms
