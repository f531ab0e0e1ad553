import InvoiceForms.Json.Parser
import InvoiceForms.Json.Printer
import InvoiceForms.Proofs.Results

/-!
# Strings come back

A string that is written is read as the same string, whether it is kept to ASCII or not. Each of its
characters is read as one piece, or as the two units of a surrogate pair.
-/

namespace InvoiceForms.Json

open InvoiceForms.Results InvoiceForms.Text

section Pieces

variable {opening : Nat} {rest after : List Char} {pieces : List Piece}

theorem readPieces_plain {c : Char} (quote : c ≠ '"') (backslash : c ≠ '\\') (shown : 32 ≤ c.toNat)
    (given : readPieces opening rest = .ok (pieces, after)) :
    readPieces opening (c :: rest) = .ok (.char c :: pieces, after) := by
  have notControl : ¬ c.toNat < 32 := by omega
  rw [readPieces.eq_def]
  split
  · next same => cases same
  · next same =>
    cases same
    exact absurd rfl quote
  · next same =>
    cases same
    exact absurd rfl backslash
  · next same =>
    cases same
    exact absurd rfl backslash
  · next same =>
    cases same
    exact absurd rfl backslash
  · next same =>
    cases same
    exact absurd rfl backslash
  · next same =>
    cases same
    rw [if_neg notControl, given]
    rfl

theorem readPieces_short {c x : Char} (letter : c ≠ 'u') (escape : shortEscape? c = some x)
    (given : readPieces opening rest = .ok (pieces, after)) :
    readPieces opening ('\\' :: c :: rest) = .ok (.char x :: pieces, after) := by
  rw [readPieces, escape]
  · dsimp only
    rw [given]
    rfl
  · exact fun _ _ _ _ _ _ same => absurd same letter
  · exact letter

theorem readPieces_unit {a b c d : Char} {n : Nat} (nonempty : rest ≠ [])
    (digits : hexUnit? a b c d = some n) (given : readPieces opening rest = .ok (pieces, after)) :
    readPieces opening ('\\' :: 'u' :: a :: b :: c :: d :: rest) =
      .ok (.unit n :: pieces, after) := by
  cases rest with
  | nil => exact absurd rfl nonempty
  | cons e rest =>
    rw [readPieces, digits]
    dsimp only
    rw [given]
    rfl

end Pieces

theorem hexValue?_digitChar {n : Nat} (small : n < 16) : hexValue? n.digitChar = some n := by
  revert n
  decide

theorem hexDigits_succ {width : Nat} (wide : 0 < width) (n : Nat) :
    hexDigits (width + 1) n = hexDigits width (n / 16) ++ [(n % 16).digitChar] := by
  obtain ⟨k, rfl⟩ : ∃ k, width = k + 1 := ⟨width - 1, by omega⟩
  unfold hexDigits
  by_cases small : n < 16
  · have whole : n / 16 = 0 := by omega
    have rest : n % 16 = n := by omega
    simp [Nat.toDigits_of_lt_base small, whole, rest, List.replicate_succ']
  · have digits := Nat.toDigits_of_base_le (b := 16) (n := n) (by decide) (by omega)
    simp only [digits, List.length_append, List.length_singleton, Nat.add_sub_add_right,
      List.append_assoc]

/-- The four hexadecimal digits of a unit write it. -/
theorem exists_unitEscape {n : Nat} (small : n < 65536) : ∃ a b c d,
    unitEscape n = ['\\', 'u', a, b, c, d] ∧ hexUnit? a b c d = some n := by
  have one : hexDigits 1 (n / 16 / 16 / 16) = [(n / 16 / 16 / 16).digitChar] := by
    unfold hexDigits
    rw [Nat.toDigits_of_lt_base (by omega)]
    rfl
  refine ⟨(n / 16 / 16 / 16).digitChar, (n / 16 / 16 % 16).digitChar, (n / 16 % 16).digitChar,
    (n % 16).digitChar, ?_, ?_⟩
  · unfold unitEscape
    rw [hexDigits_succ (by decide), hexDigits_succ (by decide), hexDigits_succ (by decide), one]
    rfl
  · unfold hexUnit?
    rw [hexValue?_digitChar (by omega), hexValue?_digitChar (by omega),
      hexValue?_digitChar (by omega), hexValue?_digitChar (by omega)]
    dsimp only
    congr 1
    omega

/-- No character is a surrogate. -/
theorem no_surrogate (c : Char) : ¬ (0xD800 ≤ c.toNat ∧ c.toNat < 0xE000) := by
  have valid := c.valid
  change c.toNat.isValidChar at valid
  unfold Nat.isValidChar at valid
  omega

theorem toNat_lt (c : Char) : c.toNat < 0x110000 := by
  have valid := c.valid
  change c.toNat.isValidChar at valid
  unfold Nat.isValidChar at valid
  omega

section Pieces

variable {opening : Nat} {rest after : List Char} {pieces : List Piece}

/-- What a written character is read as: pieces that make the character again. -/
def ReadsChar (opening : Nat) (c : Char) (rest after : List Char) (pieces : List Piece)
    (written : List Char) : Prop :=
  ∃ made, readPieces opening (written ++ rest) = .ok (made ++ pieces, after) ∧
    ∀ more, joinPieces none (made ++ more) = c :: joinPieces none more

theorem readsChar_unitEscape {c : Char} (small : c.toNat < 0x10000) (nonempty : rest ≠ [])
    (given : readPieces opening rest = .ok (pieces, after)) :
    ReadsChar opening c rest after pieces (unitEscape c.toNat) := by
  obtain ⟨d₁, d₂, d₃, d₄, escape, digits⟩ := exists_unitEscape small
  refine ⟨[.unit c.toNat], ?_, ?_⟩
  · rw [escape]
    exact readPieces_unit nonempty digits given
  · intro more
    have none := no_surrogate c
    have notHigh : ¬ (0xD800 ≤ c.toNat ∧ c.toNat < 0xDC00) := by omega
    have notLow : ¬ (0xDC00 ≤ c.toNat ∧ c.toNat < 0xE000) := by omega
    rw [List.singleton_append, joinPieces, takeUnit, if_neg notHigh, if_neg notLow,
      Char.ofNat_toNat]
    rfl

theorem readsChar_charEscape {c : Char} (nonempty : rest ≠ [])
    (given : readPieces opening rest = .ok (pieces, after)) :
    ReadsChar opening c rest after pieces (charEscape c) := by
  unfold charEscape
  dsimp only
  by_cases small : c.toNat < 0x10000
  · rw [if_pos small]
    exact readsChar_unitEscape small nonempty given
  · have bound := toNat_lt c
    rw [if_neg small]
    generalize highUnit : 0xD800 + (c.toNat - 0x10000) / 0x400 = high
    generalize lowUnit : 0xDC00 + (c.toNat - 0x10000) % 0x400 = low
    obtain ⟨a, b, d, e, escape, digits⟩ := exists_unitEscape (show high < 65536 by omega)
    obtain ⟨a', b', d', e', escape', digits'⟩ := exists_unitEscape (show low < 65536 by omega)
    refine ⟨[.unit high, .unit low], ?_, ?_⟩
    · rw [escape, escape']
      exact readPieces_unit (by simp) digits (readPieces_unit nonempty digits' given)
    · intro more
      have isHigh : 0xD800 ≤ high ∧ high < 0xDC00 := by omega
      have isLow : 0xDC00 ≤ low ∧ low < 0xE000 := by omega
      have whole : 0x10000 + (high - 0xD800) * 0x400 + (low - 0xDC00) = c.toNat := by omega
      rw [List.cons_append, joinPieces, takeUnit, if_pos isHigh]
      dsimp only
      rw [List.nil_append, List.singleton_append, joinPieces, if_pos isLow, whole, Char.ofNat_toNat]

theorem readsChar_short {c letter : Char} (notUnit : letter ≠ 'u')
    (escape : shortEscape? letter = some c)
    (given : readPieces opening rest = .ok (pieces, after)) :
    ReadsChar opening c rest after pieces ['\\', letter] :=
  ⟨[.char c], readPieces_short notUnit escape given, fun _ => rfl⟩

/-- Every character is read as it was written. -/
theorem readsChar_printChar (ascii : Bool) (c : Char) (nonempty : rest ≠ [])
    (given : readPieces opening rest = .ok (pieces, after)) :
    ReadsChar opening c rest after pieces (printChar ascii c) := by
  have number (n : Nat) (same : c.toNat = n) : c = Char.ofNat n := by
    rw [← same, Char.ofNat_toNat]
  unfold printChar
  split
  · next special =>
    rcases special with rfl | rfl
    · exact readsChar_short (by decide) rfl given
    · exact readsChar_short (by decide) rfl given
  split
  · next same =>
    rw [same]
    exact readsChar_short (by decide) rfl given
  split
  · next same =>
    rw [same]
    exact readsChar_short (by decide) rfl given
  split
  · next same =>
    rw [same]
    exact readsChar_short (by decide) rfl given
  split
  · next same =>
    rw [number 8 same]
    exact readsChar_short (by decide) rfl given
  split
  · next same =>
    rw [number 12 same]
    exact readsChar_short (by decide) rfl given
  split
  · exact readsChar_charEscape nonempty given
  · next special _ _ _ _ _ plain =>
    rw [not_or] at special plain
    refine ⟨[.char c], ?_, fun _ => rfl⟩
    exact readPieces_plain special.1 special.2 (by omega) given

end Pieces

/-- A string comes back. -/
theorem readText_printText (ascii : Bool) (s : String) (rest : List Char) :
    readText (s.toList.flatMap (printChar ascii) ++ '"' :: rest) = .ok (s, rest) := by
  have pieces (opening : Nat) (cs : List Char) : ∃ pieces,
      readPieces opening (cs.flatMap (printChar ascii) ++ '"' :: rest) = .ok (pieces, rest) ∧
        joinPieces none pieces = cs := by
    induction cs with
    | nil => exact ⟨[], rfl, rfl⟩
    | cons c cs ih =>
      obtain ⟨pieces, given, joined⟩ := ih
      obtain ⟨made, read, join⟩ := readsChar_printChar ascii c (by simp) given
      refine ⟨made ++ pieces, ?_, ?_⟩
      · rw [List.flatMap_cons, List.append_assoc]
        exact read
      · rw [join, joined]
  obtain ⟨made, given, joined⟩ := pieces
    ((s.toList.flatMap (printChar ascii) ++ '"' :: rest).length + 1) s.toList
  unfold readText
  rw [given]
  show Except.ok (String.ofList (joinPieces none made), rest) = _
  rw [joined, String.ofList_toList]

end InvoiceForms.Json
