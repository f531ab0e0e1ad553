import InvoiceForms.Proofs.Json.RoundTrip
import InvoiceForms.Text.Encoding

/-!
# Files of JSON documents

A written value holds no carriage return, so reading the lines of the file that it is put into
changes nothing: the value comes back from the bytes of its text.
-/

namespace InvoiceForms

open InvoiceForms.Number InvoiceForms.Text

namespace Text

/-- Texts without carriage returns keep their line ends. -/
theorem unifyLineEnds_of_not_mem {cs : List Char} (none : '\r' ∉ cs) : unifyLineEnds cs = cs := by
  induction cs with
  | nil => rfl
  | cons c cs ih =>
    rw [List.mem_cons, not_or] at none
    obtain ⟨other, rest⟩ := none
    rw [unifyLineEnds, ih rest]
    · exact fun _ same _ => other same.symm
    · exact fun same => other same.symm

theorem decode_encode (s : String) : decode (encode s) = .ok s := by
  have valid : s.toUTF8.IsValidUTF8 := s.isValidUTF8
  have read : String.fromUTF8? s.toUTF8 = some s := dif_pos valid
  rw [decode, encode, read]

/-- A text without carriage returns is what the file holds that it is put into. -/
theorem decodeLines_encode {s : String} (none : '\r' ∉ s.toList) :
    decodeLines (encode s) = .ok s := by
  rw [decodeLines, decode_encode]
  show Except.ok (String.ofList (unifyLineEnds s.toList)) = _
  rw [unifyLineEnds_of_not_mem none, String.ofList_toList]

theorem not_mem_of_digits {ds : List Char} (digits : ∀ c ∈ ds, isAsciiDigit c = true) :
    '\r' ∉ ds := fun member => absurd (digits '\r' member) (by decide)

theorem not_mem_toDigits (n : Nat) : '\r' ∉ Nat.toDigits 10 n :=
  not_mem_of_digits fun _ => isAsciiDigit_of_mem_toDigits

theorem not_mem_replicate (k : Nat) {c : Char} (other : c ≠ '\r') : '\r' ∉ List.replicate k c :=
  fun member => other (List.eq_of_mem_replicate member).symm

end Text

namespace Json

theorem not_mem_positional {tail : List Char} (none : '\r' ∉ tail) (x : Scaled) :
    '\r' ∉ x.positional tail := by
  have digits : '\r' ∉ x.chars := not_mem_toDigits x.digits
  have zeros (k : Nat) : '\r' ∉ List.replicate k '0' := not_mem_replicate k (by decide)
  unfold Scaled.positional
  dsimp only
  split
  · simp only [List.mem_cons, List.mem_append, not_or]
    exact ⟨by decide, by decide, zeros _, digits⟩
  · split
    · simp only [List.mem_append, not_or]
      exact ⟨⟨digits, zeros _⟩, none⟩
    · simp only [List.mem_append, List.mem_cons, not_or]
      exact ⟨fun member => digits (List.mem_of_mem_take member), by decide,
        fun member => digits (List.mem_of_mem_drop member)⟩

theorem not_mem_scientific (x : Scaled) : '\r' ∉ x.scientific := by
  have digits : '\r' ∉ x.chars := not_mem_toDigits x.digits
  have power : '\r' ∉ 'e' :: Scaled.exponentChars (x.point - 1) := by
    unfold Scaled.exponentChars
    simp only [List.mem_cons, List.mem_append, not_or]
    refine ⟨by decide, ?_, not_mem_replicate _ (by decide), not_mem_toDigits _⟩
    split <;> decide
  unfold Scaled.scientific
  dsimp only
  split
  · exact power
  · next d chars =>
    rw [chars, List.mem_cons, not_or] at digits
    rw [List.mem_cons, not_or]
    exact ⟨digits.1, power⟩
  · next d ds _ chars =>
    rw [chars, List.mem_cons, not_or] at digits
    obtain ⟨first, others⟩ := digits
    simp only [List.cons_append, List.mem_cons, List.mem_append, not_or] at power ⊢
    exact ⟨first, by decide, others, power⟩

theorem not_mem_signChars (negative : Bool) : '\r' ∉ Double.signChars negative := by
  cases negative <;> decide

theorem not_mem_printDouble (x : Double) : '\r' ∉ printDouble x := by
  cases x with
  | nan =>
    rw [printDouble_nan]
    decide
  | infinity negative =>
    rw [printDouble_infinity]
    cases negative <;> decide
  | finite negative e f =>
    rw [printDouble_finite, Double.textChars]
    dsimp only
    split
    · exact List.not_mem_append (not_mem_signChars negative) (by decide)
    · refine List.not_mem_append (not_mem_signChars negative) ?_
      split
      · exact not_mem_positional (by decide) _
      · exact not_mem_scientific _

theorem not_mem_printInt (n : Int) : '\r' ∉ printInt n := by
  unfold printInt
  refine List.not_mem_append ?_ (not_mem_toDigits _)
  split <;> decide

theorem le_toNat_of_hexValue? {c : Char} {n : Nat} (value : hexValue? c = some n) :
    32 ≤ c.toNat := by
  have late {first : Char} (from32 : 32 ≤ first.toNat) (le : first ≤ c) : 32 ≤ c.toNat :=
    from32.trans (UInt32.le_iff_toNat_le.mp le)
  unfold hexValue? at value
  split at value
  · next digit => exact late (by decide) digit.1
  · split at value
    · next small => exact late (by decide) small.1
    · split at value
      · next capital => exact late (by decide) capital.1
      · cases value

theorem le_toNat_of_hexUnit? {a b c d k : Char} {n : Nat} (unit : hexUnit? a b c d = some n)
    (member : k ∈ [a, b, c, d]) : 32 ≤ k.toNat := by
  unfold hexUnit? at unit
  split at unit
  · next first second third fourth =>
    simp only [List.mem_cons, List.not_mem_nil, or_false] at member
    rcases member with rfl | rfl | rfl | rfl
    · exact le_toNat_of_hexValue? first
    · exact le_toNat_of_hexValue? second
    · exact le_toNat_of_hexValue? third
    · exact le_toNat_of_hexValue? fourth
  · cases unit

theorem le_toNat_of_mem_unitEscape {n : Nat} {k : Char} (small : n < 65536)
    (member : k ∈ unitEscape n) : 32 ≤ k.toNat := by
  obtain ⟨a, b, c, d, written, unit⟩ := exists_unitEscape small
  rw [written, List.mem_cons, List.mem_cons] at member
  rcases member with rfl | rfl | member
  · decide
  · decide
  · exact le_toNat_of_hexUnit? unit member

theorem le_toNat_of_mem_printChar {ascii : Bool} {c k : Char} (member : k ∈ printChar ascii c) :
    32 ≤ k.toNat := by
  have bound := toNat_lt c
  have short {d : Char} (late : 32 ≤ d.toNat) (member : k ∈ ['\\', d]) : 32 ≤ k.toNat := by
    rcases List.mem_cons.mp member with rfl | member
    · decide
    · rwa [List.mem_singleton.mp member]
  unfold printChar at member
  split at member
  · next special => exact short (by rcases special with rfl | rfl <;> decide) member
  split at member
  · exact short (by decide) member
  split at member
  · exact short (by decide) member
  split at member
  · exact short (by decide) member
  split at member
  · exact short (by decide) member
  split at member
  · exact short (by decide) member
  split at member
  · unfold charEscape at member
    dsimp only at member
    split at member
    · next small => exact le_toNat_of_mem_unitEscape small member
    · rcases List.mem_append.mp member with member | member
      · exact le_toNat_of_mem_unitEscape (by omega) member
      · exact le_toNat_of_mem_unitEscape (by omega) member
  · next plain =>
    obtain rfl := List.mem_singleton.mp member
    exact Nat.not_lt.mp fun control => plain (.inl control)

/-- A written text holds no control character. -/
theorem le_toNat_of_mem_printText {ascii : Bool} {s : String} {k : Char}
    (member : k ∈ printText ascii s) : 32 ≤ k.toNat := by
  rw [printText, List.cons_append, List.mem_cons, List.mem_append, List.mem_singleton] at member
  rcases member with rfl | member | rfl
  · decide
  · obtain ⟨c, -, inside⟩ := List.mem_flatMap.mp member
    exact le_toNat_of_mem_printChar inside
  · decide

theorem not_mem_printText (ascii : Bool) (s : String) : '\r' ∉ printText ascii s :=
  fun member => absurd (le_toNat_of_mem_printText member) (by decide)

theorem not_mem_gap (style : Style) (depth : Nat) : '\r' ∉ gap style depth := by
  obtain ⟨indent, ascii⟩ := style
  cases indent with
  | none => exact List.not_mem_nil
  | some n =>
    simp only [gap, Option.elim, List.mem_cons, not_or]
    exact ⟨by decide, not_mem_replicate _ (by decide)⟩

theorem not_mem_afterComma (style : Style) (depth : Nat) : '\r' ∉ afterComma style depth := by
  obtain ⟨indent, ascii⟩ := style
  cases indent with
  | none => exact fun member => absurd (List.mem_singleton.mp member) (by decide)
  | some n => exact not_mem_gap ⟨some n, ascii⟩ depth

mutual

/-- A written value holds no carriage return. -/
theorem not_mem_printValue (style : Style) : ∀ (depth : Nat) (j : Json),
    '\r' ∉ printValue style depth j
  | _, null => show '\r' ∉ "null".toList by decide
  | _, bool true => show '\r' ∉ "true".toList by decide
  | _, bool false => show '\r' ∉ "false".toList by decide
  | _, int n => not_mem_printInt n
  | _, float x => not_mem_printDouble x
  | _, text s => not_mem_printText style.ascii s
  | _, list [] => show '\r' ∉ ['[', ']'] by decide
  | depth, list (x :: xs) => by
    simp only [printValue, List.mem_cons, List.mem_append, List.not_mem_nil, or_false, not_or,
      List.cons_append, and_assoc]
    exact ⟨by decide, not_mem_gap style _, not_mem_printValue style _ x,
      not_mem_printItems style _ xs, not_mem_gap style _, by decide⟩
  | _, object [] => show '\r' ∉ ['\x7b', '\x7d'] by decide
  | depth, object ((key, x) :: members) => by
    simp only [printValue, List.mem_cons, List.mem_append, List.not_mem_nil, or_false, not_or,
      List.cons_append, and_assoc]
    exact ⟨by decide, not_mem_gap style _, not_mem_printText style.ascii key, by decide, by decide,
      not_mem_printValue style _ x, not_mem_printMembers style _ members, not_mem_gap style _,
      by decide⟩

theorem not_mem_printItems (style : Style) : ∀ (depth : Nat) (items : List Json),
    '\r' ∉ printItems style depth items
  | _, [] => List.not_mem_nil
  | depth, x :: xs => by
    simp only [printItems, List.mem_cons, List.mem_append, not_or, List.cons_append, and_assoc]
    exact ⟨by decide, not_mem_afterComma style depth, not_mem_printValue style depth x,
      not_mem_printItems style depth xs⟩

theorem not_mem_printMembers (style : Style) : ∀ (depth : Nat) (members : List (String × Json)),
    '\r' ∉ printMembers style depth members
  | _, [] => List.not_mem_nil
  | depth, (key, x) :: members => by
    simp only [printMembers, List.mem_cons, List.mem_append, not_or, List.cons_append, and_assoc]
    exact ⟨by decide, not_mem_afterComma style depth, not_mem_printText style.ascii key, by decide,
      by decide, not_mem_printValue style depth x, not_mem_printMembers style depth members⟩

end

/-- A written value with a line feed behind it is what its file holds. -/
theorem decodeLines_print (style : Style) (j : Json) :
    decodeLines (encode (print style j ++ "\n")) = .ok (print style j ++ "\n") := by
  apply decodeLines_encode
  rw [String.toList_append, print, String.toList_ofList]
  exact List.not_mem_append (not_mem_printValue style 0 j) (by decide)

end Json

end InvoiceForms
