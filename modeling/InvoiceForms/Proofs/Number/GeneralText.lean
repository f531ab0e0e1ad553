import InvoiceForms.Proofs.Number.Decimals
import InvoiceForms.Proofs.Number.Whole
import InvoiceForms.Proofs.Text.Digits

/-!
# General texts of whole numbers

`Double.toGeneral` keeps six digits. A natural number of up to six digits is written as its numeral; one
of more digits is written with a power of ten, whatever its digits are.
-/

namespace InvoiceForms.Number

open InvoiceForms.Text

variable {n den : Nat}

theorem mul_ten_pow_pos (positive : 0 < n) (k : Nat) : 0 < n * 10 ^ k :=
  Nat.mul_pos positive (Nat.pow_pos (by decide))

/-- Zeros at the end of a number stand at the end of its digits. -/
theorem toDigits_mul_pow (positive : 0 < n) (k : Nat) :
    Nat.toDigits 10 (n * 10 ^ k) = Nat.toDigits 10 n ++ List.replicate k '0' := by
  induction k with
  | zero => simp
  | succ k ih =>
    have more := mul_ten_pow_pos positive k
    rw [Nat.pow_succ, ← Nat.mul_assoc, Nat.toDigits_of_base_le (by decide) (by omega),
      Nat.mul_div_cancel _ (by decide), Nat.mul_mod_left, ih, List.append_assoc]
    congr 1
    exact List.replicate_succ'.symm

namespace Scaled

/-- Removing zeros may start with those that are known. -/
theorem stripZeros_mul_pow (positive : 0 < n) (fuel k : Nat) (e : Int) :
    stripZeros (fuel + k) ⟨n * 10 ^ k, e⟩ = stripZeros fuel ⟨n, e + k⟩ := by
  induction k generalizing e with
  | zero => simp
  | succ k ih =>
    have more := mul_ten_pow_pos positive k
    have ends : n * 10 ^ k * 10 ≠ 0 ∧ n * 10 ^ k * 10 % 10 = 0 := by omega
    rw [← Nat.add_assoc, stripZeros, Nat.pow_succ, ← Nat.mul_assoc, if_pos ends]
    dsimp only
    rw [Nat.mul_div_cancel _ (by decide), ih, Int.add_assoc, Nat.cast_succ, Int.add_comm 1]

/-- What is removed is moved to the exponent. -/
theorem exists_stripZeros (positive : 0 < n) (fuel : Nat) (e : Int) : ∃ m j : Nat,
    0 < m ∧ m * 10 ^ j = n ∧ stripZeros fuel ⟨n, e⟩ = ⟨m, e + j⟩ := by
  induction fuel generalizing n e with
  | zero => exact ⟨n, 0, positive, by simp, by simp [stripZeros]⟩
  | succ fuel ih =>
    by_cases last : n % 10 = 0
    · obtain ⟨m, j, some, digits, stripped⟩ := ih (n := n / 10) (by omega) (e + 1)
      refine ⟨m, j + 1, some, ?_, ?_⟩
      · rw [Nat.pow_succ, ← Nat.mul_assoc, digits]
        omega
      · rw [stripZeros, if_pos ⟨positive.ne', last⟩, stripped, Int.add_assoc, Nat.cast_succ, Int.add_comm 1]
    · refine ⟨n, 0, positive, by simp, ?_⟩
      rw [stripZeros, if_neg fun ends => last ends.2]
      simp

/-- A number whose last zeros are left out is written with them. -/
theorem positional_of_whole {m : Nat} (positive : 0 < m) (j : Nat) :
    positional [] ⟨m, (j : Int)⟩ = Nat.toDigits 10 (m * 10 ^ j) := by
  have digits : chars ⟨m, (j : Int)⟩ = Nat.toDigits 10 m := rfl
  have length : 0 < (Nat.toDigits 10 m).length := Nat.length_toDigits_pos
  have point : point ⟨m, (j : Int)⟩ = ((Nat.toDigits 10 m).length + j : Nat) := by
    rw [Scaled.point, digits, Nat.cast_add]
  unfold positional
  simp only [digits, point, Int.toNat_natCast]
  rw [if_neg (by omega), if_pos (Nat.le_add_right ..), Nat.add_sub_cancel_left, List.append_nil,
    toDigits_mul_pow positive]

/-- A power of ten is marked. -/
theorem mem_scientific (x : Scaled) : 'e' ∈ x.scientific := by
  unfold scientific
  split <;> simp

end Scaled

theorem decimalExponent_mul_right (positive : 0 < n) (some : 0 < den) :
    decimalExponent (n * den) den = (digitCount n : Int) - 1 := by
  rw [decimalExponent, if_pos (Nat.le_mul_of_pos_left den positive), Nat.mul_div_cancel n some]

/-- A number of few digits is written with all of them. -/
theorem leadingDigits_of_few {k : Nat} (positive : 0 < n) (some : 0 < den) (few : digitCount n ≤ k) :
    leadingDigits k (n * den) den = (n * 10 ^ (k - digitCount n), (digitCount n : Int) - 1) := by
  have shift : ((k : Int) - 1 - ((digitCount n : Int) - 1)).toNat = k - digitCount n ∧
      (-((k : Int) - 1 - ((digitCount n : Int) - 1))).toNat = 0 := by omega
  have below : n * 10 ^ (k - digitCount n) < 10 ^ k := by
    calc n * 10 ^ (k - digitCount n) < 10 ^ digitCount n * 10 ^ (k - digitCount n) :=
          Nat.mul_lt_mul_of_pos_right (lt_pow_digitCount n) (Nat.pow_pos (by decide))
      _ = 10 ^ k := by rw [← Nat.pow_add, Nat.add_sub_cancel' few]
  have rounded : roundDiv (n * den * 10 ^ (k - digitCount n)) den = n * 10 ^ (k - digitCount n) := by
    rw [Nat.mul_right_comm, roundDiv_mul_right _ some]
  simp only [leadingDigits, shiftDecimal, decimalExponent_mul_right positive some, shift, Nat.pow_eq,
    Nat.pow_zero, Nat.mul_one, rounded]
  rw [if_neg below.ne]

/-- The first digit of a number with many has a great exponent, also when it is carried over. -/
theorem le_exponent_leadingDigits (positive : 0 < n) (some : 0 < den) (k : Nat) :
    (digitCount n : Int) - 1 ≤ (leadingDigits k (n * den) den).2 := by
  rw [leadingDigits, decimalExponent_mul_right positive some]
  dsimp only
  split
  · exact Int.le_add_one (le_refl _)
  · exact le_refl _

theorem digitCount_le_iff {k : Nat} (some : 0 < k) : digitCount n ≤ k ↔ n < 10 ^ k :=
  Nat.length_toDigits_le_iff (by decide) some

namespace Double

variable {x : Double}

/-- A natural number is not negative, and its magnitude is that many units. -/
theorem exists_finite_of_units (positive : 0 < n)
    (units : x.units? = some ((n : Int) * unitDenominator)) :
    ∃ e f, x = finite false e f ∧ magnitudeOf e f = n * unitDenominator := by
  have above : 0 < (n : Int) * unitDenominator :=
    Int.mul_pos (by omega) (by exact_mod_cast unitDenominator_pos)
  cases x with
  | nan | infinity => cases units
  | finite s e f =>
    have magnitude := Option.some.inj units
    cases s with
    | true =>
      rw [if_pos rfl] at magnitude
      omega
    | false =>
      rw [if_neg Bool.false_ne_true, ← Nat.cast_mul] at magnitude
      exact ⟨e, f, rfl, Int.ofNat_inj.mp magnitude⟩

/-- A natural number of up to six digits is written as its numeral. -/
theorem toGeneral_of_few (positive : 0 < n) (units : x.units? = some ((n : Int) * unitDenominator))
    (few : n < 1000000) : x.toGeneral = toString n := by
  obtain ⟨e, f, rfl, magnitude⟩ := exists_finite_of_units positive units
  have count : digitCount n ≤ 6 := (digitCount_le_iff (by decide)).mpr few
  have some := digitCount_pos n
  have nonzero : n * unitDenominator ≠ 0 := (Nat.mul_pos positive unitDenominator_pos).ne'
  have places : (-4 : Int) ≤ (digitCount n : Int) - 1 ∧ (digitCount n : Int) - 1 < 6 := by omega
  -- The zeros that fill up six digits are removed first, then those of the number itself.
  have filled := Scaled.stripZeros_mul_pow positive (digitCount n) (6 - digitCount n)
    ((digitCount n : Int) - 1 - 5)
  rw [Nat.add_sub_cancel' count, show (digitCount n : Int) - 1 - 5 + (6 - digitCount n : Nat) = 0 by omega]
    at filled
  obtain ⟨m, j, left, digits, stripped⟩ := Scaled.exists_stripZeros positive (digitCount n) 0
  rw [Int.zero_add] at stripped
  unfold toGeneral
  simp only [magnitude, if_neg nonzero, leadingDigits_of_few positive unitDenominator_pos count, filled,
    stripped, if_pos places, Scaled.positional_of_whole left, digits]
  rfl

/-- A natural number of more digits is written with a power of ten. -/
theorem mem_toGeneral (many : 1000000 ≤ n) (units : x.units? = some ((n : Int) * unitDenominator)) :
    'e' ∈ x.toGeneral.toList := by
  have positive : 0 < n := by omega
  obtain ⟨e, f, rfl, magnitude⟩ := exists_finite_of_units positive units
  have count : ¬ digitCount n ≤ 6 := fun few => by
    have := (digitCount_le_iff (by decide)).mp few
    omega
  have nonzero : n * unitDenominator ≠ 0 := (Nat.mul_pos positive unitDenominator_pos).ne'
  have exponent := le_exponent_leadingDigits positive unitDenominator_pos 6
  unfold toGeneral
  simp only [magnitude, if_neg nonzero]
  rw [if_neg (by omega), String.toList_ofList]
  exact List.mem_append_right _ (Scaled.mem_scientific _)

end Double

end InvoiceForms.Number
