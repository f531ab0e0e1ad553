import Mathlib.Tactic.IntervalCases
import InvoiceForms.Json.Parser
import InvoiceForms.Json.Printer
import InvoiceForms.Proofs.Number.Decimals
import InvoiceForms.Proofs.Text.Digits

/-!
# Numbers come back

A number that is written is read as the same number, as long as nothing follows that would continue
it. Integers with too many digits are the exception: they are written, but not read.
-/

namespace InvoiceForms.Json

open InvoiceForms.Number InvoiceForms.Text

/-- What may follow a number without continuing it. -/
def EndsNumber (rest : List Char) : Prop :=
  ∀ c ∈ rest.head?, isAsciiDigit c = false ∧ c ≠ '.' ∧ c ≠ 'e' ∧ c ≠ 'E'

/-- The whole part of a number: a zero, or digits that start with none. -/
def IsWhole (ds : List Char) : Prop :=
  (∀ c ∈ ds, isAsciiDigit c = true) ∧ (ds = ['0'] ∨ ∃ d ds', ds = d :: ds' ∧ d ≠ '0')

theorem isWhole_zero : IsWhole ['0'] := ⟨List.forall_mem_singleton.mpr rfl, .inl rfl⟩

theorem IsWhole.ne_nil {ds : List Char} (whole : IsWhole ds) : ds ≠ [] := by
  obtain ⟨-, rfl | ⟨d, ds', rfl, -⟩⟩ := whole
  · exact List.cons_ne_nil _ _
  · exact List.cons_ne_nil _ _

theorem takeWhole_append {ds rest : List Char} (whole : IsWhole ds)
    (ends : ∀ c ∈ rest.head?, isAsciiDigit c = false) : takeWhole (ds ++ rest) = (ds, rest) := by
  obtain ⟨digits, rfl | ⟨d, ds', rfl, nonzero⟩⟩ := whole
  · rfl
  · rw [List.cons_append]
    unfold takeWhole
    split
    · next same =>
      cases same
      exact absurd rfl nonzero
    · exact span_digits digits ends

theorem takePlaces_append {ds rest : List Char} (nonempty : ds ≠ [])
    (digits : ∀ c ∈ ds, isAsciiDigit c = true)
    (ends : ∀ c ∈ rest.head?, isAsciiDigit c = false) :
    takePlaces ('.' :: (ds ++ rest)) = (ds, rest) := by
  cases ds with
  | nil => exact absurd rfl nonempty
  | cons d ds =>
    have first := digits d List.mem_cons_self
    rw [List.cons_append, takePlaces, if_pos first]
    exact span_digits digits ends

theorem takePlaces_of_ends {rest : List Char} (ends : ∀ c ∈ rest.head?, c ≠ '.') :
    takePlaces rest = ([], rest) := by
  unfold takePlaces
  split
  · exact absurd rfl (ends '.' rfl)
  · rfl

theorem takePower_of_ends {rest : List Char} (ends : ∀ c ∈ rest.head?, c ≠ 'e' ∧ c ≠ 'E') :
    takePower rest = (none, rest) := by
  cases rest with
  | nil => rfl
  | cons c rest =>
    obtain ⟨lower, upper⟩ := ends c rfl
    rw [takePower, if_neg (by simp [lower, upper])]

theorem ofDigitChars_toDigits (n : Nat) : ofDigitChars (Nat.toDigits 10 n) = n :=
  Nat.ofDigitChars_ten_toDigits

theorem ofDigitChars_zeros_append (k : Nat) (ds : List Char) :
    ofDigitChars (List.replicate k '0' ++ ds) = ofDigitChars ds := by
  rw [ofDigitChars, Nat.ofDigitChars_append, Nat.ofDigitChars_replicate_zero, Nat.mul_zero,
    ofDigitChars]

theorem ofDigitChars_append_zeros (ds : List Char) (k : Nat) :
    ofDigitChars (ds ++ List.replicate k '0') = ofDigitChars ds * 10 ^ k := by
  rw [ofDigitChars, Nat.ofDigitChars_append, Nat.ofDigitChars_replicate_zero, Nat.mul_comm,
    ofDigitChars]

/-- The power that is written is the power that is read. -/
theorem takePower_append (k : Int) {rest : List Char}
    (ends : ∀ c ∈ rest.head?, isAsciiDigit c = false) :
    takePower ('e' :: (Scaled.exponentChars k ++ rest)) = (some k, rest) := by
  have digits : ∀ c ∈ List.replicate (2 - (Nat.toDigits 10 k.natAbs).length) '0' ++
      Nat.toDigits 10 k.natAbs, isAsciiDigit c = true := by
    intro c member
    rcases List.mem_append.mp member with zero | digit
    · rw [List.eq_of_mem_replicate zero]
      rfl
    · exact isAsciiDigit_of_mem_toDigits digit
  have nonempty : (List.replicate (2 - (Nat.toDigits 10 k.natAbs).length) '0' ++
      Nat.toDigits 10 k.natAbs).isEmpty = false := by
    simp [Nat.toDigits_ne_nil]
  have value : ofDigitChars (List.replicate (2 - (Nat.toDigits 10 k.natAbs).length) '0' ++
      Nat.toDigits 10 k.natAbs) = k.natAbs := by
    rw [ofDigitChars_zeros_append, ofDigitChars_toDigits]
  unfold Scaled.exponentChars
  dsimp only
  generalize List.replicate (2 - (Nat.toDigits 10 k.natAbs).length) '0' ++
    Nat.toDigits 10 k.natAbs = ds at digits nonempty value ⊢
  rw [takePower, if_pos (.inl rfl)]
  by_cases negative : k < 0
  · have sign : signed true k.natAbs = k := by
      rw [signed, if_pos rfl]
      omega
    simp only [if_pos negative, List.cons_append, takeSign, span_digits digits ends, nonempty, value,
      sign, Bool.false_eq_true, if_false]
  · have sign : signed false k.natAbs = k := by
      rw [signed, if_neg Bool.false_ne_true]
      omega
    simp only [if_neg negative, List.cons_append, takeSign, span_digits digits ends, nonempty, value,
      sign, Bool.false_eq_true, if_false]

/-- Digits without a fraction and a power are read as an integer. -/
theorem readUnsigned_int (negative : Bool) (start : List Char) {ds rest : List Char}
    (whole : IsWhole ds) (few : ds.length ≤ maxIntegerDigits)
    (ends : EndsNumber rest) :
    readUnsigned negative start (ds ++ rest) =
      .ok (int (signed negative (ofDigitChars ds)), rest) := by
  have notEmpty : ds.isEmpty = false := by simpa using whole.ne_nil
  have notMany : ¬ maxIntegerDigits < ds.length := by omega
  simp only [readUnsigned, takeWhole_append whole fun c member => (ends c member).1,
    takePlaces_of_ends fun c member => (ends c member).2.1,
    takePower_of_ends fun c member => (ends c member).2.2, notEmpty, Bool.false_eq_true, if_false,
    List.isEmpty_nil, and_self, if_true, if_neg notMany]

/-- Digits with a fraction are read as a double. -/
theorem readUnsigned_places (negative : Bool) (start : List Char) {ds places rest : List Char}
    (whole : IsWhole ds) (some : places ≠ [])
    (digits : ∀ c ∈ places, isAsciiDigit c = true) (ends : EndsNumber rest) :
    readUnsigned negative start (ds ++ '.' :: (places ++ rest)) =
      .ok (float (.ofDecimal negative (ofDigitChars (ds ++ places)) (-places.length)), rest) := by
  have notEmpty : ds.isEmpty = false := by simpa using whole.ne_nil
  have notNone : places.isEmpty = false := by simpa using some
  have point : ∀ c ∈ ('.' :: (places ++ rest)).head?, isAsciiDigit c = false := by
    rintro c ⟨⟩
    rfl
  simp only [readUnsigned, takeWhole_append whole point,
    takePlaces_append some digits fun c member => (ends c member).1,
    takePower_of_ends fun c member => (ends c member).2.2, notEmpty, notNone, Bool.false_eq_true,
    if_false, false_and, Option.getD_none, Int.zero_sub]

/-- Digits with a power, and perhaps with a fraction, are read as a double. -/
theorem readUnsigned_power (negative : Bool) (start : List Char) {ds places rest : List Char}
    (whole : IsWhole ds) (digits : ∀ c ∈ places, isAsciiDigit c = true)
    (k : Int) (ends : EndsNumber rest) :
    readUnsigned negative start (ds ++ (if places = [] then [] else '.' :: places) ++
      'e' :: (Scaled.exponentChars k ++ rest)) =
      .ok (float (.ofDecimal negative (ofDigitChars (ds ++ places)) (k - places.length)), rest) := by
  have notEmpty : ds.isEmpty = false := by simpa using whole.ne_nil
  have letter : ∀ c ∈ ('e' :: (Scaled.exponentChars k ++ rest)).head?,
      isAsciiDigit c = false ∧ c ≠ '.' := by
    rintro c ⟨⟩
    exact ⟨rfl, by decide⟩
  have power := takePower_append k fun c member => (ends c member).1
  by_cases none : places = []
  · subst none
    rw [if_pos rfl, List.append_nil]
    simp only [readUnsigned, takeWhole_append whole fun c member => (letter c member).1,
      takePlaces_of_ends fun c member => (letter c member).2, power, notEmpty, Bool.false_eq_true,
      if_false, List.isEmpty_nil, true_and, reduceCtorEq, Option.getD_some, List.append_nil]
  · have notNone : places.isEmpty = false := by simpa using none
    have point : ∀ c ∈ ('.' :: (places ++ 'e' :: (Scaled.exponentChars k ++ rest))).head?,
        isAsciiDigit c = false := by
      rintro c ⟨⟩
      rfl
    rw [if_neg none, List.append_assoc, List.cons_append]
    simp only [readUnsigned, takeWhole_append whole point,
      takePlaces_append none digits fun c member => (letter c member).1, power, notEmpty, notNone,
      Bool.false_eq_true, if_false, false_and, Option.getD_some]

theorem IsWhole.append {ds more : List Char} (whole : IsWhole ds) (positive : ds ≠ ['0'])
    (digits : ∀ c ∈ more, isAsciiDigit c = true) : IsWhole (ds ++ more) := by
  obtain ⟨inside, zero | ⟨d, ds', rfl, nonzero⟩⟩ := whole
  · exact absurd zero positive
  · refine ⟨fun c member => ?_, .inr ⟨d, ds' ++ more, rfl, nonzero⟩⟩
    rcases List.mem_append.mp member with here | there
    · exact inside c here
    · exact digits c there

theorem isAsciiDigit_of_mem_zeros {k : Nat} {c : Char} (member : c ∈ List.replicate k '0') :
    isAsciiDigit c = true := by
  rw [List.eq_of_mem_replicate member]
  rfl

theorem isWhole_toDigits (n : Nat) : IsWhole (Nat.toDigits 10 n) := by
  refine ⟨fun c => isAsciiDigit_of_mem_toDigits, ?_⟩
  rcases Nat.eq_zero_or_pos n with rfl | positive
  · exact .inl (Nat.toDigits_zero 10)
  · exact .inr (exists_toDigits positive)

section Scaled

variable {x : Scaled} {rest : List Char}

theorem isAsciiDigit_of_mem_chars {c : Char} : c ∈ x.chars → isAsciiDigit c = true :=
  isAsciiDigit_of_mem_toDigits

theorem ofDigitChars_chars (x : Scaled) : ofDigitChars x.chars = x.digits :=
  ofDigitChars_toDigits x.digits

section Positional

variable (negative : Bool) (start : List Char) (positive : 0 < x.digits) (ends : EndsNumber rest)

include positive ends

/-- A number below one: zeros stand between the point and the digits. -/
theorem readUnsigned_below_one (small : x.point ≤ 0) :
    readUnsigned negative start
        ('0' :: '.' :: (List.replicate (-x.point).toNat '0' ++ x.chars) ++ rest) =
      .ok (float (.ofDecimal negative x.digits x.exponent), rest) := by
  have point : x.point = x.chars.length + x.exponent := rfl
  have places : ∀ c ∈ List.replicate (-x.point).toNat '0' ++ x.chars, isAsciiDigit c = true := by
    intro c member
    rcases List.mem_append.mp member with zero | digit
    · exact isAsciiDigit_of_mem_zeros zero
    · exact isAsciiDigit_of_mem_chars digit
  have length : ((List.replicate (-x.point).toNat '0' ++ x.chars).length : Int) = -x.exponent := by
    rw [List.length_append, List.length_replicate]
    omega
  have zero : ['0'] ++ (List.replicate (-x.point).toNat '0' ++ x.chars) =
      List.replicate ((-x.point).toNat + 1) '0' ++ x.chars := by
    rw [List.replicate_succ]
    rfl
  have some : List.replicate (-x.point).toNat '0' ++ x.chars ≠ [] := by
    obtain ⟨d, ds, chars, -⟩ := exists_toDigits positive
    change x.chars = d :: ds at chars
    rw [chars]
    exact List.append_ne_nil_of_right_ne_nil _ (List.cons_ne_nil _ _)
  have read := readUnsigned_places negative start isWhole_zero some places ends
  rw [length, zero, ofDigitChars_zeros_append, ofDigitChars_chars, Int.neg_neg] at read
  exact read

/-- A whole number: zeros stand between the digits and the point. -/
theorem readUnsigned_whole (large : 0 < x.point) (long : x.chars.length ≤ x.point.toNat) :
    readUnsigned negative start
        (x.chars ++ List.replicate (x.point.toNat - x.chars.length) '0' ++ ['.', '0'] ++ rest) =
      .ok (float (.ofDecimal negative x.digits x.exponent), rest) := by
  have point : x.point = x.chars.length + x.exponent := rfl
  have zeros := fun c => isAsciiDigit_of_mem_zeros (k := x.point.toNat - x.chars.length) (c := c)
  have whole : IsWhole (x.chars ++ List.replicate (x.point.toNat - x.chars.length) '0') := by
    refine (isWhole_toDigits x.digits).append ?_ zeros
    obtain ⟨d, ds, chars, nonzero⟩ := exists_toDigits positive
    rw [chars]
    rintro ⟨⟩
    exact nonzero rfl
  have read := readUnsigned_places negative start whole (List.cons_ne_nil _ _) isWhole_zero.1 ends
  have value : ofDigitChars (x.chars ++ List.replicate (x.point.toNat - x.chars.length) '0' ++
      ['0']) = x.digits * 10 ^ (x.point.toNat - x.chars.length + 1) := by
    rw [List.append_assoc, ← List.replicate_succ', ofDigitChars_append_zeros, ofDigitChars_chars]
  have exponent : (-(['0'].length : Int)) =
      x.exponent - ((x.point.toNat - x.chars.length + 1 : Nat) : Int) := by
    rw [List.length_singleton]
    omega
  rw [exponent, value, Double.ofDecimal_mul_pow] at read
  rw [List.append_assoc]
  exact read

/-- A number with the point among its digits. -/
theorem readUnsigned_split (large : 0 < x.point) (short : x.point.toNat < x.chars.length) :
    readUnsigned negative start
        (x.chars.take x.point.toNat ++ '.' :: x.chars.drop x.point.toNat ++ rest) =
      .ok (float (.ofDecimal negative x.digits x.exponent), rest) := by
  have point : x.point = x.chars.length + x.exponent := rfl
  have whole : IsWhole (x.chars.take x.point.toNat) := by
    refine ⟨fun c member => isAsciiDigit_of_mem_chars (List.mem_of_mem_take member), .inr ?_⟩
    obtain ⟨d, ds, chars, nonzero⟩ := exists_toDigits positive
    change x.chars = d :: ds at chars
    obtain ⟨n, count⟩ : ∃ n, x.point.toNat = n + 1 := ⟨x.point.toNat - 1, by omega⟩
    rw [chars, count, List.take_succ_cons]
    exact ⟨d, ds.take n, rfl, nonzero⟩
  have places : ∀ c ∈ x.chars.drop x.point.toNat, isAsciiDigit c = true := fun c member =>
    isAsciiDigit_of_mem_chars (List.mem_of_mem_drop member)
  have read := readUnsigned_places negative start whole (by simp; omega) places ends
  have exponent : -((x.chars.drop x.point.toNat).length : Int) = x.exponent := by
    rw [List.length_drop]
    omega
  rw [exponent, List.take_append_drop, ofDigitChars_chars] at read
  rw [List.append_assoc, List.cons_append]
  exact read

/-- Positional notation is read as the decimal it writes. -/
theorem readUnsigned_positional : readUnsigned negative start (x.positional ['.', '0'] ++ rest) =
    .ok (float (.ofDecimal negative x.digits x.exponent), rest) := by
  unfold Scaled.positional
  dsimp only
  by_cases small : x.point ≤ 0
  · rw [if_pos small]
    exact readUnsigned_below_one negative start positive ends small
  · rw [if_neg small]
    by_cases long : x.chars.length ≤ x.point.toNat
    · rw [if_pos long]
      exact readUnsigned_whole negative start positive ends (by omega) long
    · rw [if_neg long]
      exact readUnsigned_split negative start positive ends (by omega) (by omega)

end Positional

/-- Scientific notation is read as the decimal it writes. -/
theorem readUnsigned_scientific (negative : Bool) (start : List Char) (positive : 0 < x.digits)
    (ends : EndsNumber rest) :
    readUnsigned negative start (x.scientific ++ rest) =
      .ok (float (.ofDecimal negative x.digits x.exponent), rest) := by
  have digits : ∀ c ∈ x.chars, isAsciiDigit c = true := fun c => isAsciiDigit_of_mem_toDigits
  have value : ofDigitChars x.chars = x.digits := ofDigitChars_toDigits x.digits
  obtain ⟨d, ds, chars, nonzero⟩ := exists_toDigits positive
  change x.chars = d :: ds at chars
  have point : x.point = x.chars.length + x.exponent := rfl
  rw [chars] at digits value point
  have whole : IsWhole [d] :=
    ⟨by simpa using digits d List.mem_cons_self, .inr ⟨d, [], rfl, nonzero⟩⟩
  have places : ∀ c ∈ ds, isAsciiDigit c = true := fun c member =>
    digits c (List.mem_cons_of_mem _ member)
  have read := readUnsigned_power negative start whole places (x.point - 1) ends
  have exponent : x.point - 1 - (ds.length : Int) = x.exponent := by
    rw [List.length_cons] at point
    omega
  rw [exponent, show ofDigitChars ([d] ++ ds) = x.digits from value] at read
  unfold Scaled.scientific
  rw [chars]
  cases ds with
  | nil => simpa using read
  | cons c cs => simpa using read

end Scaled

/-- The text of a double without a sign is read as the double with the sign that stood before it. -/
theorem readUnsigned_textChars (negative : Bool) (start : List Char) (e : Fin 2047)
    (f : Fin 4503599627370496) {rest : List Char} (ends : EndsNumber rest) :
    readUnsigned negative start ((Double.finite false e f).textChars ++ rest) =
      .ok (float (.finite negative e f), rest) := by
  simp only [Double.textChars, Double.signChars, Bool.false_eq_true, if_false, List.nil_append]
  by_cases none : Double.magnitudeOf e f = 0
  · obtain ⟨rfl, rfl⟩ := Double.eq_zero_of_magnitudeOf none
    rw [if_pos none]
    exact readUnsigned_places negative start isWhole_zero (List.cons_ne_nil _ _) isWhole_zero.1 ends
  · have reads := Double.ofDecimal_shortest negative none
    have positive : 0 < (Double.shortest (Double.magnitudeOf e f)).digits := by
      rcases Nat.eq_zero_or_pos (Double.shortest (Double.magnitudeOf e f)).digits with zero | positive
      · rw [zero, Double.ofDecimal, if_pos rfl] at reads
        cases reads
        exact absurd rfl none
      · exact positive
    rw [if_neg none]
    split
    · rw [readUnsigned_positional negative start positive ends, reads]
    · rw [readUnsigned_scientific negative start positive ends, reads]

/-- The sign and the rest of a double's text. -/
theorem textChars_finite (negative : Bool) (e : Fin 2047) (f : Fin 4503599627370496) :
    (Double.finite negative e f).textChars =
      Double.signChars negative ++ (Double.finite false e f).textChars := by
  simp only [Double.textChars]
  by_cases none : Double.magnitudeOf e f = 0
  · simp only [if_pos none, Double.signChars, Bool.false_eq_true, if_false, List.nil_append]
  · simp only [if_neg none, Double.signChars, Bool.false_eq_true, if_false, List.nil_append]

/-- The digits 0 to 9, one by one. -/
theorem mem_of_isAsciiDigit {c : Char} (digit : isAsciiDigit c = true) :
    c ∈ ['0', '1', '2', '3', '4', '5', '6', '7', '8', '9'] := by
  obtain ⟨least, greatest⟩ := (isAsciiDigit_iff c).mp digit
  have same : Char.ofNat c.toNat = c := Char.ofNat_toNat c
  generalize c.toNat = n at least greatest same
  subst same
  interval_cases n <;> decide

theorem readAtom_digit {d : Char} (digit : isAsciiDigit d = true) (cs : List Char) :
    readAtom (d :: cs) = readUnsigned false (d :: cs) (d :: cs) := by
  have listed := mem_of_isAsciiDigit digit
  simp only [List.mem_cons, List.not_mem_nil, or_false] at listed
  rcases listed with rfl | rfl | rfl | rfl | rfl | rfl | rfl | rfl | rfl | rfl <;> rfl

theorem readAtom_minus {d : Char} (digit : isAsciiDigit d = true) (cs : List Char) :
    readAtom ('-' :: d :: cs) = readUnsigned true ('-' :: d :: cs) (d :: cs) := by
  have listed := mem_of_isAsciiDigit digit
  simp only [List.mem_cons, List.not_mem_nil, or_false] at listed
  rcases listed with rfl | rfl | rfl | rfl | rfl | rfl | rfl | rfl | rfl | rfl <;> rfl

/-- Characters that start with a digit. -/
def StartsDigit (cs : List Char) : Prop := ∃ d rest, cs = d :: rest ∧ isAsciiDigit d = true

theorem startsDigit_toDigits (n : Nat) : StartsDigit (Nat.toDigits 10 n) := by
  cases digits : Nat.toDigits 10 n with
  | nil => exact absurd digits Nat.toDigits_ne_nil
  | cons d rest =>
    refine ⟨d, rest, rfl, isAsciiDigit_of_mem_toDigits (n := n) ?_⟩
    rw [digits]
    exact List.mem_cons_self

theorem startsDigit_positional (tail : List Char) (x : Scaled) :
    StartsDigit (x.positional tail) := by
  obtain ⟨d, rest, chars, digit⟩ := startsDigit_toDigits x.digits
  change x.chars = d :: rest at chars
  unfold Scaled.positional
  dsimp only
  split
  · exact ⟨'0', _, rfl, rfl⟩
  · next large =>
    split
    · rw [chars]
      exact ⟨d, _, rfl, digit⟩
    · obtain ⟨n, count⟩ : ∃ n, x.point.toNat = n + 1 := ⟨x.point.toNat - 1, by omega⟩
      rw [chars, count, List.take_succ_cons]
      exact ⟨d, _, rfl, digit⟩

theorem startsDigit_scientific (x : Scaled) : StartsDigit x.scientific := by
  obtain ⟨d, rest, chars, digit⟩ := startsDigit_toDigits x.digits
  change x.chars = d :: rest at chars
  unfold Scaled.scientific
  rw [chars]
  cases rest with
  | nil => exact ⟨d, _, rfl, digit⟩
  | cons c cs => exact ⟨d, _, rfl, digit⟩

theorem startsDigit_textChars (e : Fin 2047) (f : Fin 4503599627370496) :
    StartsDigit (Double.finite false e f).textChars := by
  simp only [Double.textChars, Double.signChars, Bool.false_eq_true, if_false, List.nil_append]
  by_cases none : Double.magnitudeOf e f = 0
  · rw [if_pos none]
    exact ⟨'0', _, rfl, rfl⟩
  · rw [if_neg none]
    split
    · exact startsDigit_positional _ _
    · exact startsDigit_scientific _

/-- An integer comes back, unless it has too many digits. -/
theorem readAtom_printInt {n : Int} (few : (Nat.toDigits 10 n.natAbs).length ≤ maxIntegerDigits)
    {rest : List Char} (ends : EndsNumber rest) :
    readAtom (printInt n ++ rest) = .ok (int n, rest) := by
  obtain ⟨d, ds, digits, digit⟩ := startsDigit_toDigits n.natAbs
  have read (negative : Bool) (start : List Char) := readUnsigned_int negative start
    (isWhole_toDigits n.natAbs) few ends
  rw [ofDigitChars_toDigits] at read
  simp only [digits, List.cons_append] at read
  unfold printInt
  rw [digits]
  by_cases negative : n < 0
  · have sign : signed true n.natAbs = n := by
      rw [signed, if_pos rfl]
      omega
    rw [if_pos negative, List.singleton_append, List.cons_append, List.cons_append,
      readAtom_minus digit, read, sign]
  · have sign : signed false n.natAbs = n := by
      rw [signed, if_neg Bool.false_ne_true]
      omega
    rw [if_neg negative, List.nil_append, List.cons_append, readAtom_digit digit, read, sign]

-- The equations that Lean derives for `printDouble` go through all fields of a double.
theorem printDouble_finite (negative : Bool) (e : Fin 2047) (f : Fin 4503599627370496) :
    printDouble (.finite negative e f) = (Double.finite negative e f).textChars := by
  delta printDouble
  rfl

theorem printDouble_nan : printDouble .nan = ['N', 'a', 'N'] := by
  delta printDouble
  rfl

theorem printDouble_infinity (negative : Bool) : printDouble (.infinity negative) =
    if negative then "-Infinity".toList else "Infinity".toList := by
  delta printDouble
  cases negative <;> rfl

/-- Every double comes back. -/
theorem readAtom_printDouble (x : Double) {rest : List Char} (ends : EndsNumber rest) :
    readAtom (printDouble x ++ rest) = .ok (float x, rest) := by
  cases x with
  | nan =>
    rw [printDouble_nan]
    rfl
  | infinity negative =>
    rw [printDouble_infinity]
    cases negative <;> rfl
  | finite negative e f =>
    obtain ⟨d, ds, digits, digit⟩ := startsDigit_textChars e f
    have read (start : List Char) := readUnsigned_textChars negative start e f ends
    rw [digits, List.cons_append] at read
    rw [printDouble_finite, textChars_finite, digits]
    cases negative with
    | false => exact (readAtom_digit digit _).trans (read _)
    | true => exact (readAtom_minus digit _).trans (read _)

end InvoiceForms.Json
