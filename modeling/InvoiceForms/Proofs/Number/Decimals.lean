import InvoiceForms.Number.DoubleText
import InvoiceForms.Proofs.Number.Ratios

/-!
# Decimals of doubles

The decimal that `Double.shortest` finds for a double is read as that double again, and so are all
decimals that write the same number with more or fewer zeros.
-/

namespace InvoiceForms.Number

theorem digitCount_pos (n : Nat) : 0 < digitCount n := Nat.length_toDigits_pos

theorem lt_pow_digitCount (n : Nat) : n < 10 ^ digitCount n :=
  (Nat.length_toDigits_le_iff (by decide) (digitCount_pos n)).mp (le_refl _)

theorem pow_digitCount_le {n : Nat} (positive : 0 < n) : 10 ^ (digitCount n - 1) ≤ n := by
  by_contra small
  by_cases one : digitCount n = 1
  · rw [one] at small
    omega
  · have := digitCount_pos n
    have few := (Nat.length_toDigits_le_iff (b := 10) (n := n) (by decide)
      (show 0 < digitCount n - 1 by omega)).mpr (by omega)
    change digitCount n ≤ _ at few
    omega

theorem digitCount_mul_ten {n : Nat} (positive : 0 < n) : digitCount (n * 10) = digitCount n + 1 := by
  unfold digitCount
  rw [Nat.toDigits_of_base_le (by decide) (by omega), Nat.mul_div_cancel n (by decide),
    List.length_append]
  rfl

theorem digitCount_mul_pow {n : Nat} (positive : 0 < n) (k : Nat) :
    digitCount (n * 10 ^ k) = digitCount n + k := by
  induction k with
  | zero => simp
  | succ k ih =>
    rw [Nat.pow_succ, ← Nat.mul_assoc, digitCount_mul_ten (Nat.mul_pos positive (Nat.pow_pos (by decide))),
      ih, Nat.add_assoc]

namespace Double

/-- The double nearest to a decimal, however great it is. -/
def nearestDecimal (negative : Bool) (digits : Nat) (exponent : Int) : Double :=
  ofRatio negative (digits * 10 ^ exponent.toNat) (10 ^ (-exponent).toNat)

theorem nearestDecimal_mul_pow (negative : Bool) (digits k : Nat) (exponent : Int) :
    nearestDecimal negative (digits * 10 ^ k) exponent =
      nearestDecimal negative digits (exponent + k) := by
  have ten (n : Nat) : 0 < 10 ^ n := Nat.pow_pos (by decide)
  refine ofRatio_congr negative (ten _) (ten _) ?_
  have exponents : k + exponent.toNat + (-(exponent + k)).toNat =
      (exponent + k).toNat + (-exponent).toNat := by omega
  rw [Nat.mul_assoc, Nat.mul_assoc, Nat.mul_assoc, ← Nat.pow_add, ← Nat.pow_add, ← Nat.pow_add,
    ← exponents, Nat.add_assoc]

/-- Zeros at the end of the digits can be moved to the exponent. -/
theorem nearestDecimal_stripZeros (negative : Bool) (fuel : Nat) (x : Scaled) :
    nearestDecimal negative (x.stripZeros fuel).digits (x.stripZeros fuel).exponent =
      nearestDecimal negative x.digits x.exponent := by
  induction fuel generalizing x with
  | zero => rfl
  | succ fuel ih =>
    rw [Scaled.stripZeros]
    split
    · next last =>
      have ten : x.digits / 10 * 10 ^ 1 = x.digits := by omega
      have moved := nearestDecimal_mul_pow negative (x.digits / 10) 1 x.exponent
      rw [ten] at moved
      rw [ih, moved]
      rfl
    · rfl

theorem readsBack_iff {m digits : Nat} {exponent : Int} :
    readsBack m digits exponent = true ↔
      nearestDecimal false digits exponent = ofRatio false m unitDenominator := by
  have den : 1 * Nat.pow 10 (-exponent).toNat = 10 ^ (-exponent).toNat := Nat.one_mul _
  simp only [readsBack, shiftDecimal, beq_iff_eq, den]
  rfl

theorem nearestDecimal_exactDecimal (m : Nat) :
    nearestDecimal false (exactDecimal m).digits (exactDecimal m).exponent =
      ofRatio false m unitDenominator := by
  unfold exactDecimal
  rw [nearestDecimal_stripZeros]
  obtain ⟨k, hk, units⟩ := unitDenominator_eq
  have shifts : (-1074 : Int).toNat = 0 ∧ (-(-1074) : Int).toNat = 1074 := ⟨rfl, rfl⟩
  rw [nearestDecimal, shifts.1, shifts.2, units, Nat.pow_eq, pow_zero, Nat.mul_one]
  generalize 1074 = n at *
  subst hk
  refine ofRatio_congr false (Nat.pow_pos (by decide)) (Nat.two_pow_pos k) ?_
  show m * 5 ^ k * 2 ^ k = m * 10 ^ k
  rw [Nat.mul_assoc, ← Nat.mul_pow]

theorem nearestDecimal_shortestAt {m n : Nat} {k : Int} {x : Scaled}
    (found : shortestAt? m n k = some x) :
    nearestDecimal false x.digits x.exponent = ofRatio false m unitDenominator := by
  simp only [shortestAt?] at found
  generalize roundDiv _ _ = near at found
  generalize (if near = _ then _ else _ : Nat) = far at found
  split at found
  · next reads =>
    cases found
    exact readsBack_iff.mp reads
  · split at found
    · next reads =>
      cases found
      exact readsBack_iff.mp reads
    · cases found

/-- The decimal with the fewest digits reads back. -/
theorem nearestDecimal_shortest (m : Nat) :
    nearestDecimal false (shortest m).digits (shortest m).exponent =
      ofRatio false m unitDenominator := by
  unfold shortest
  dsimp only
  split
  · next x found =>
    obtain ⟨i, -, taken⟩ := List.exists_of_findSome?_eq_some found
    rw [nearestDecimal_stripZeros]
    exact nearestDecimal_shortestAt taken
  · exact nearestDecimal_exactDecimal m

/-- Powers of ten are beyond those of eight. -/
theorem two_zpow_le_ten_zpow {k : Int} (nonnegative : 0 ≤ k) : (2 : ℚ) ^ (3 * k) ≤ 10 ^ k := by
  rw [zpow_mul]
  exact zpow_le_zpow_left₀ nonnegative (by norm_num) (by norm_num)

/-- The order of a decimal bounds its logarithm. -/
theorem order_bounds {digits : Nat} {exponent : Int} (positive : 0 < digits)
    (above : Int.log 2 ((digits : ℚ) * 10 ^ exponent) < 1200)
    (below : -1200 ≤ Int.log 2 ((digits : ℚ) * 10 ^ exponent)) :
    ¬ 400 < (digitCount digits : Int) + exponent ∧
      ¬ (digitCount digits : Int) + exponent < -400 := by
  have ten : (1 : ℚ) ≤ 10 := by norm_num
  have hq : (0 : ℚ) < digits * 10 ^ exponent :=
    mul_pos (by exact_mod_cast positive) (zpow_pos (by norm_num) _)
  have count := digitCount_pos digits
  constructor
  · intro great
    have bound : (2 : ℚ) ^ (1200 : Int) ≤ digits * 10 ^ exponent :=
      calc (2 : ℚ) ^ (1200 : Int) ≤ 10 ^ (400 : Int) := two_zpow_le_ten_zpow (by omega)
        _ ≤ 10 ^ (((digitCount digits - 1 : Nat) : Int) + exponent) :=
          zpow_le_zpow_right₀ ten (by omega)
        _ = 10 ^ ((digitCount digits - 1 : Nat) : Int) * 10 ^ exponent :=
          zpow_add₀ (by norm_num) _ _
        _ ≤ digits * 10 ^ exponent := by
          refine mul_le_mul_of_nonneg_right ?_ (zpow_pos (by norm_num) _).le
          exact_mod_cast pow_digitCount_le positive
    have := (Int.zpow_le_iff_le_log one_lt_two hq).mp (by rwa [Nat.cast_two])
    omega
  · intro small
    have bound : (digits : ℚ) * 10 ^ exponent < 2 ^ (-1200 : Int) :=
      calc (digits : ℚ) * 10 ^ exponent < 10 ^ (digitCount digits : Int) * 10 ^ exponent := by
            refine mul_lt_mul_of_pos_right ?_ (zpow_pos (by norm_num) _)
            exact_mod_cast lt_pow_digitCount digits
        _ = 10 ^ ((digitCount digits : Int) + exponent) := (zpow_add₀ (by norm_num) _ _).symm
        _ ≤ 10 ^ (-400 : Int) := zpow_le_zpow_right₀ ten (by omega)
        _ = (10 ^ (400 : Int))⁻¹ := zpow_neg _ _
        _ ≤ (2 ^ (3 * 400 : Int))⁻¹ :=
          inv_anti₀ (zpow_pos two_pos _) (two_zpow_le_ten_zpow (by omega))
        _ = 2 ^ (-1200 : Int) := (zpow_neg _ _).symm
    have := (Int.lt_zpow_iff_log_lt one_lt_two hq).mp (by rwa [Nat.cast_two])
    omega

/-- Rounding a decimal of a moderate order is rounding its ratio. -/
theorem ofDecimal_eq_nearestDecimal {negative sign : Bool} {digits : Nat} {exponent : Int}
    {e : Fin 2047} {f : Fin 4503599627370496}
    (given : nearestDecimal negative digits exponent = finite sign e f)
    (nonzero : magnitudeOf e f ≠ 0) :
    ofDecimal negative digits exponent = finite sign e f := by
  have positive : 0 < digits := by
    rcases Nat.eq_zero_or_pos digits with rfl | positive
    · rw [nearestDecimal, Nat.zero_mul, ofRatio, if_pos rfl] at given
      cases given
      exact absurd rfl nonzero
    · exact positive
  have hnum : 0 < digits * 10 ^ exponent.toNat := Nat.mul_pos positive (Nat.pow_pos (by decide))
  have hden : 0 < 10 ^ (-exponent).toNat := Nat.pow_pos (by decide)
  have ratio : ((digits * 10 ^ exponent.toNat : Nat) : ℚ) / (10 ^ (-exponent).toNat : Nat) =
      digits * 10 ^ exponent := by
    push_cast
    rw [pow_toNat (by norm_num) exponent, ← mul_assoc,
      mul_div_cancel_right₀ _ (pow_ne_zero _ (by norm_num))]
  have above := log_lt_of_ofRatio hnum hden given
  have below := le_log_of_ofRatio hnum hden given nonzero
  rw [ratio] at above below
  have lower : -1200 ≤ Int.log 2 ((digits : ℚ) * 10 ^ exponent) := by omega
  have upper : Int.log 2 ((digits : ℚ) * 10 ^ exponent) < 1200 := by omega
  obtain ⟨notGreat, notSmall⟩ := order_bounds positive upper lower
  have one : 1 * Nat.pow 10 (-exponent).toNat = 10 ^ (-exponent).toNat := Nat.one_mul _
  simp only [ofDecimal, if_neg positive.ne', if_neg notGreat, if_neg notSmall, shiftDecimal, one]
  exact given

/-- A decimal may be written with more zeros at its end. -/
theorem ofDecimal_mul_pow (negative : Bool) (digits k : Nat) (exponent : Int) :
    ofDecimal negative (digits * 10 ^ k) (exponent - k) = ofDecimal negative digits exponent := by
  rcases Nat.eq_zero_or_pos digits with rfl | positive
  · simp [ofDecimal]
  · have order : (digitCount (digits * 10 ^ k) : Int) + (exponent - k) =
        digitCount digits + exponent := by
      rw [digitCount_mul_pow positive]
      push_cast
      ring
    have nonzero : digits * 10 ^ k ≠ 0 := (Nat.mul_pos positive (Nat.pow_pos (by decide))).ne'
    have one (n : Nat) : 1 * Nat.pow 10 n = 10 ^ n := Nat.one_mul _
    have ratio := nearestDecimal_mul_pow negative digits k (exponent - k)
    rw [Int.sub_add_cancel] at ratio
    simp only [ofDecimal, if_neg nonzero, if_neg positive.ne', order, shiftDecimal, one]
    split
    · rfl
    · split
      · rfl
      · exact ratio

/-- The shortest decimal of a double is read as that double. -/
theorem ofDecimal_shortest (negative : Bool) {e : Fin 2047} {f : Fin 4503599627370496}
    (nonzero : magnitudeOf e f ≠ 0) :
    ofDecimal negative (shortest (magnitudeOf e f)).digits (shortest (magnitudeOf e f)).exponent =
      finite negative e f := by
  refine ofDecimal_eq_nearestDecimal ?_ nonzero
  have reads := nearestDecimal_shortest (magnitudeOf e f)
  rw [ofRatio_magnitudeOf false e f nonzero] at reads
  cases negative with
  | false => exact reads
  | true =>
    have negated := ofRatio_neg false
      ((shortest (magnitudeOf e f)).digits * 10 ^ (shortest (magnitudeOf e f)).exponent.toNat)
      (10 ^ (-(shortest (magnitudeOf e f)).exponent).toNat)
    exact negated.trans (congrArg neg reads)

end Double

end InvoiceForms.Number
