import Mathlib.Data.Int.Log
import Mathlib.Data.Rat.Floor
import InvoiceForms.Number.Double

/-!
# Doubles of ratios

`Double.ofRatio` depends on the ratio alone and not on the numbers that write it, gives every finite
double back from its own units, and is infinite or zero outside of a range.
-/

namespace InvoiceForms.Number

theorem roundDiv_mul_mul (num den : Nat) {k : Nat} (positive : 0 < k) :
    roundDiv (num * k) (den * k) = roundDiv num den := by
  have quotient : num * k / (den * k) = num / den := Nat.mul_div_mul_right num den positive
  have rest : num * k % (den * k) = num % den * k := Nat.mul_mod_mul_right k num den
  have below : 2 * (num % den * k) < den * k ↔ 2 * (num % den) < den := by
    rw [← Nat.mul_assoc]
    exact Nat.mul_lt_mul_right positive
  have above : den * k < 2 * (num % den * k) ↔ den < 2 * (num % den) := by
    rw [← Nat.mul_assoc]
    exact Nat.mul_lt_mul_right positive
  simp only [roundDiv, quotient, rest, below, above]

theorem le_roundDiv (num den : Nat) : num / den ≤ roundDiv num den := by
  rcases roundDiv_eq_or num den with same | next <;> omega

theorem roundDiv_eq_zero {num den : Nat} (small : 2 * num < den) : roundDiv num den = 0 := by
  have quotient : num / den = 0 := Nat.div_eq_of_lt (by omega)
  have rest : num % den = num := Nat.mod_eq_of_lt (by omega)
  simp only [roundDiv, quotient, rest, if_pos small]

theorem pow_toNat {b : ℚ} (hb : b ≠ 0) (e : Int) : b ^ e.toNat = b ^ e * b ^ (-e).toNat := by
  have split : e = (e.toNat : Int) - ((-e).toNat : Int) := by omega
  have power : b ^ e = b ^ e.toNat / b ^ (-e).toNat := by
    conv_lhs => rw [split, zpow_sub₀ hb, zpow_natCast, zpow_natCast]
  rw [power, div_mul_cancel₀ _ (pow_ne_zero _ hb)]

namespace Double

/-- The logarithm of a ratio, up to one. -/
theorem log_ratio_bounds {num den : Nat} (hnum : 0 < num) (hden : 0 < den) :
    (num.log2 : Int) - den.log2 - 1 ≤ Int.log 2 ((num : ℚ) / den) ∧
      Int.log 2 ((num : ℚ) / den) < (num.log2 : Int) - den.log2 + 1 := by
  have hd : (0 : ℚ) < den := by exact_mod_cast hden
  have hq : (0 : ℚ) < num / den := div_pos (by exact_mod_cast hnum) hd
  have two : (2 : ℚ) ≠ 0 := two_ne_zero
  constructor
  · rw [← Int.zpow_le_iff_le_log one_lt_two hq, le_div_iff₀ hd, Nat.cast_two]
    calc (2 : ℚ) ^ ((num.log2 : Int) - den.log2 - 1) * den
        ≤ 2 ^ ((num.log2 : Int) - den.log2 - 1) * 2 ^ ((den.log2 : Int) + 1) := by
          refine mul_le_mul_of_nonneg_left ?_ (zpow_pos two_pos _).le
          exact_mod_cast Nat.lt_log2_self.le
      _ = 2 ^ (num.log2 : Int) := by
          rw [← zpow_add₀ two]
          congr 1
          omega
      _ ≤ num := by exact_mod_cast Nat.log2_self_le (by omega)
  · rw [← Int.lt_zpow_iff_log_lt one_lt_two hq, div_lt_iff₀ hd, Nat.cast_two]
    calc (num : ℚ) < 2 ^ ((num.log2 : Int) + 1) := by exact_mod_cast Nat.lt_log2_self
      _ = 2 ^ ((num.log2 : Int) - den.log2 + 1) * 2 ^ (den.log2 : Int) := by
          rw [← zpow_add₀ two]
          congr 1
          omega
      _ ≤ 2 ^ ((num.log2 : Int) - den.log2 + 1) * den := by
          refine mul_le_mul_of_nonneg_left ?_ (zpow_pos two_pos _).le
          exact_mod_cast Nat.log2_self_le (by omega)

/-- The scale of a ratio comes from its logarithm. -/
theorem binaryScale_eq {num den : Nat} (hnum : 0 < num) (hden : 0 < den) :
    binaryScale num den = max (-1074) (Int.log 2 ((num : ℚ) / den) - 52) := by
  have hd : (0 : ℚ) < den := by exact_mod_cast hden
  have hq : (0 : ℚ) < num / den := div_pos (by exact_mod_cast hnum) hd
  obtain ⟨least, greatest⟩ := log_ratio_bounds hnum hden
  have below (e : Int) : num * Nat.pow 2 (-e).toNat < den * Nat.pow 2 e.toNat * 4503599627370496 ↔
      Int.log 2 ((num : ℚ) / den) < e + 52 := by
    rw [← Int.lt_zpow_iff_log_lt one_lt_two hq, div_lt_iff₀ hd, ← Nat.cast_lt (α := ℚ)]
    have power : (0 : ℚ) < 2 ^ (-e).toNat := by positivity
    have split := pow_toNat (two_ne_zero (α := ℚ)) e
    have shifted : (2 : ℚ) ^ (e + 52) = 2 ^ e * 4503599627370496 := by
      rw [zpow_add₀ two_ne_zero]
      norm_num
    simp only [Nat.pow_eq, Nat.cast_mul, Nat.cast_pow, Nat.cast_ofNat, split, shifted]
    have factored : (den : ℚ) * (2 ^ e * 2 ^ (-e).toNat) * 4503599627370496 =
        2 ^ e * 4503599627370496 * den * 2 ^ (-e).toNat := by ring
    rw [factored, mul_lt_mul_iff_left₀ power]
  simp only [binaryScale, below]
  split <;> omega

/-- Numbers with the same ratio have the same nearest double. -/
theorem ofRatio_mul_mul (negative : Bool) (num : Nat) {den k : Nat} (hden : 0 < den) (hk : 0 < k) :
    ofRatio negative (num * k) (den * k) = ofRatio negative num den := by
  by_cases zero : num = 0
  · simp [ofRatio, zero]
  · have hnum : 0 < num := Nat.pos_of_ne_zero zero
    have scale : binaryScale (num * k) (den * k) = binaryScale num den := by
      have hk' : (k : ℚ) ≠ 0 := by exact_mod_cast hk.ne'
      rw [binaryScale_eq (Nat.mul_pos hnum hk) (Nat.mul_pos hden hk), binaryScale_eq hnum hden]
      push_cast
      rw [mul_div_mul_right _ _ hk']
    have swap (a b : Nat) : a * k * b = a * b * k := Nat.mul_right_comm a k b
    have nonzero : num * k ≠ 0 := (Nat.mul_pos hnum hk).ne'
    simp only [ofRatio, zero, nonzero, if_false, scale, swap, roundDiv_mul_mul _ _ hk]

theorem ofRatio_congr (negative : Bool) {num den num' den' : Nat} (hden : 0 < den)
    (hden' : 0 < den') (same : num * den' = num' * den) :
    ofRatio negative num den = ofRatio negative num' den' := by
  rw [← ofRatio_mul_mul negative num hden hden', same, Nat.mul_comm den den',
    ofRatio_mul_mul negative num' hden' hden]

theorem pack_neg (negative : Bool) (m : Nat) (e : Int) :
    pack (!negative) m e = neg (pack negative m e) := by
  unfold pack
  generalize (if m = 9007199254740992 then (4503599627370496, e + 1) else (m, e)) = carried
  obtain ⟨m, e⟩ := carried
  by_cases small : m < 4503599627370496
  · simp only [dif_pos small, neg]
  · by_cases inside : (e + 1075).toNat < 2047 ∧ m - 4503599627370496 < 4503599627370496
    · simp only [dif_neg small, dif_pos inside, neg]
    · simp only [dif_neg small, dif_neg inside, neg]

/-- The sign of a ratio is the sign of its double. -/
theorem ofRatio_neg (negative : Bool) (num den : Nat) :
    ofRatio (!negative) num den = neg (ofRatio negative num den) := by
  unfold ofRatio
  split
  · rfl
  · exact pack_neg ..

/-- A double of units is packed from its own fields. -/
theorem pack_fields (negative : Bool) (e : Fin 2047) (f : Fin 4503599627370496) :
    pack negative (significandOf e f) (max (-1074) ((e.val : Int) - 1075)) =
      finite negative e f := by
  obtain ⟨e, he⟩ := e
  obtain ⟨f, hf⟩ := f
  by_cases zero : e = 0
  · subst zero
    have carried : f ≠ 9007199254740992 := by omega
    simp [pack, significandOf, carried, hf]
  · have carried : 4503599627370496 + f ≠ 9007199254740992 := by omega
    have field : (max (-1074) ((e : Int) - 1075) + 1075).toNat = e := by omega
    simp [pack, significandOf, zero, carried, field, he, hf]

-- The exponent is kept under a name, so that the power is not computed on the way.
theorem unitDenominator_eq : ∃ k, k = 1074 ∧ unitDenominator = 2 ^ k := ⟨1074, rfl, rfl⟩

theorem unitDenominator_pos : 0 < unitDenominator := by
  obtain ⟨k, -, units⟩ := unitDenominator_eq
  rw [units]
  exact Nat.two_pow_pos k

theorem significandOf_lt (e : Fin 2047) (f : Fin 4503599627370496) :
    significandOf e f < 9007199254740992 := by
  unfold significandOf
  split <;> omega

/-- A double without units is a zero. -/
theorem eq_zero_of_magnitudeOf {e : Fin 2047} {f : Fin 4503599627370496}
    (none : magnitudeOf e f = 0) : e = 0 ∧ f = 0 := by
  rcases Nat.mul_eq_zero.mp none with significand | power
  · unfold significandOf at significand
    split at significand
    · next subnormal => exact ⟨Fin.ext subnormal, Fin.ext significand⟩
    · omega
  · exact absurd power (Nat.two_pow_pos _).ne'

/-- The ratio of a double's units, with its significand. -/
theorem ratio_magnitudeOf (e : Fin 2047) (f : Fin 4503599627370496) :
    (magnitudeOf e f : ℚ) / unitDenominator =
      significandOf e f * 2 ^ (((e.val - 1 : Nat) : Int) - 1074) := by
  obtain ⟨k, hk, units⟩ := unitDenominator_eq
  have exponent : (1074 : Int) = (k : Nat) := by omega
  rw [units, exponent, zpow_sub₀ two_ne_zero, zpow_natCast, zpow_natCast, magnitudeOf, Nat.pow_eq]
  push_cast
  ring

/-- The scale of a double in its own units. -/
theorem binaryScale_magnitudeOf {e : Fin 2047} {f : Fin 4503599627370496}
    (nonzero : magnitudeOf e f ≠ 0) :
    binaryScale (magnitudeOf e f) unitDenominator = max (-1074) ((e.val : Int) - 1075) := by
  have hq : (0 : ℚ) < magnitudeOf e f / unitDenominator :=
    div_pos (by exact_mod_cast Nat.pos_of_ne_zero nonzero) (by exact_mod_cast unitDenominator_pos)
  rw [binaryScale_eq (Nat.pos_of_ne_zero nonzero) unitDenominator_pos]
  have above : Int.log 2 ((magnitudeOf e f : ℚ) / unitDenominator) <
      53 + (((e.val - 1 : Nat) : Int) - 1074) := by
    rw [← Int.lt_zpow_iff_log_lt one_lt_two hq, ratio_magnitudeOf, Nat.cast_two,
      zpow_add₀ two_ne_zero]
    refine mul_lt_mul_of_pos_right ?_ (zpow_pos two_pos _)
    exact_mod_cast significandOf_lt e f
  have below (normal : e.val ≠ 0) : 52 + (((e.val - 1 : Nat) : Int) - 1074) ≤
      Int.log 2 ((magnitudeOf e f : ℚ) / unitDenominator) := by
    rw [← Int.zpow_le_iff_le_log one_lt_two hq, ratio_magnitudeOf, Nat.cast_two,
      zpow_add₀ two_ne_zero]
    refine mul_le_mul_of_nonneg_right ?_ (zpow_pos two_pos _).le
    have leading : 4503599627370496 ≤ significandOf e f := by
      rw [significandOf, if_neg normal]
      omega
    exact_mod_cast leading
  by_cases subnormal : e.val = 0
  · omega
  · have := below subnormal
    omega

/-- A finite double is the one nearest to its own units. -/
theorem ofRatio_magnitudeOf (negative : Bool) (e : Fin 2047) (f : Fin 4503599627370496)
    (nonzero : magnitudeOf e f ≠ 0) :
    ofRatio negative (magnitudeOf e f) unitDenominator = finite negative e f := by
  have rounded (E : Int) (hE : E = max (-1074) ((e.val : Int) - 1075)) :
      roundDiv (magnitudeOf e f * Nat.pow 2 (-E).toNat) (unitDenominator * Nat.pow 2 E.toNat) =
        significandOf e f := by
    have units : magnitudeOf e f * Nat.pow 2 (-E).toNat =
        significandOf e f * (unitDenominator * Nat.pow 2 E.toNat) := by
      obtain ⟨k, hk, unit⟩ := unitDenominator_eq
      have exponents : e.val - 1 + (-E).toNat = k + E.toNat := by omega
      rw [magnitudeOf, unit, Nat.pow_eq, Nat.pow_eq, Nat.pow_eq, Nat.mul_assoc,
        ← Nat.pow_add, exponents, Nat.pow_add]
    rw [units]
    exact roundDiv_mul_right _ (Nat.mul_pos unitDenominator_pos (Nat.two_pow_pos _))
  rw [ofRatio, if_neg nonzero, binaryScale_magnitudeOf nonzero]
  dsimp only
  rw [rounded _ rfl, pack_fields]

/-- Only small scales leave a normal significand finite. -/
theorem lt_of_pack_eq_finite {negative sign : Bool} {m : Nat} {E : Int} {e : Fin 2047}
    {f : Fin 4503599627370496} (normal : 4503599627370496 ≤ m)
    (given : pack negative m E = finite sign e f) : E < 972 := by
  unfold pack at given
  generalize carry : (if m = 9007199254740992 then (4503599627370496, E + 1) else (m, E)) = carried
    at given
  have bounds : 4503599627370496 ≤ carried.1 ∧ E ≤ carried.2 := by
    rw [← carry]
    split
    · exact ⟨le_refl _, by simp⟩
    · exact ⟨normal, le_refl _⟩
  obtain ⟨m', E'⟩ := carried
  dsimp only at bounds
  have leading : ¬ m' < 4503599627370496 := by omega
  by_contra great
  have outside : ¬ ((E' + 1075).toNat < 2047 ∧ m' - 4503599627370496 < 4503599627370496) := by
    omega
  simp only [dif_neg leading, dif_neg outside] at given
  cases given

/-- Scaled by its logarithm, a ratio has a significand of 53 bits. -/
theorem normal_roundDiv {num den : Nat} {E : Int} (hnum : 0 < num) (hden : 0 < den)
    (scale : Int.log 2 ((num : ℚ) / den) = 52 + E) :
    4503599627370496 ≤ roundDiv (num * Nat.pow 2 (-E).toNat) (den * Nat.pow 2 E.toNat) := by
  have hd : (0 : ℚ) < den := by exact_mod_cast hden
  have hq : (0 : ℚ) < num / den := div_pos (by exact_mod_cast hnum) hd
  have power := Int.zpow_log_le_self one_lt_two hq
  rw [scale, Nat.cast_two, zpow_add₀ two_ne_zero, le_div_iff₀ hd] at power
  refine le_trans ?_ (le_roundDiv _ _)
  refine (Nat.le_div_iff_mul_le (Nat.mul_pos hden (Nat.two_pow_pos _))).mpr ?_
  rw [← Nat.cast_le (α := ℚ)]
  simp only [Nat.pow_eq, Nat.cast_mul, Nat.cast_pow, Nat.cast_ofNat, pow_toNat (two_ne_zero (α := ℚ)) E]
  calc (4503599627370496 : ℚ) * (den * (2 ^ E * 2 ^ (-E).toNat))
      = 2 ^ (52 : Int) * 2 ^ E * den * 2 ^ (-E).toNat := by
        norm_num
        ring
    _ ≤ num * 2 ^ (-E).toNat := mul_le_mul_of_nonneg_right power (by positivity)

/-- A ratio with a great logarithm has no finite double. -/
theorem log_lt_of_ofRatio {negative sign : Bool} {num den : Nat} {e : Fin 2047}
    {f : Fin 4503599627370496} (hnum : 0 < num) (hden : 0 < den)
    (given : ofRatio negative num den = finite sign e f) :
    Int.log 2 ((num : ℚ) / den) < 1025 := by
  by_contra great
  rw [ofRatio, if_neg hnum.ne', binaryScale_eq hnum hden] at given
  dsimp only at given
  generalize scale : max (-1074) (Int.log 2 ((num : ℚ) / den) - 52) = E at given
  have := lt_of_pack_eq_finite (normal_roundDiv hnum hden (by omega)) given
  omega

/-- A ratio with a small logarithm has the double zero. -/
theorem le_log_of_ofRatio {negative sign : Bool} {num den : Nat} {e : Fin 2047}
    {f : Fin 4503599627370496} (hnum : 0 < num) (hden : 0 < den)
    (given : ofRatio negative num den = finite sign e f) (nonzero : magnitudeOf e f ≠ 0) :
    -1076 ≤ Int.log 2 ((num : ℚ) / den) := by
  by_contra small
  have hd : (0 : ℚ) < den := by exact_mod_cast hden
  have hq : (0 : ℚ) < num / den := div_pos (by exact_mod_cast hnum) hd
  rw [ofRatio, if_neg hnum.ne', binaryScale_eq hnum hden, max_eq_left (by omega)] at given
  dsimp only at given
  have shifts : (-(-1074 : Int)).toNat = 1074 ∧ (-1074 : Int).toNat = 0 := ⟨rfl, rfl⟩
  rw [shifts.1, shifts.2] at given
  generalize exponent : 1074 = k at given
  have below : 2 * (num * Nat.pow 2 k) < den := by
    have power : (num : ℚ) / den < 2 ^ (-(k + 1 : Nat) : Int) := by
      have strict : Int.log 2 ((num : ℚ) / den) < -(k + 1 : Nat) := by omega
      have bound := (Int.lt_zpow_iff_log_lt one_lt_two hq).mpr strict
      rwa [Nat.cast_two] at bound
    rw [zpow_neg, zpow_natCast, div_lt_iff₀ hd, inv_mul_eq_div, lt_div_iff₀ (by positivity)] at power
    rw [← Nat.cast_lt (α := ℚ), Nat.pow_eq]
    push_cast
    calc (2 : ℚ) * (num * 2 ^ k) = num * 2 ^ (k + 1) := by ring
      _ < den := power
  have least : pack negative 0 (-1074) = zero negative := rfl
  have vanished : roundDiv (num * Nat.pow 2 k) (den * Nat.pow 2 0) = 0 := by
    refine roundDiv_eq_zero ?_
    have one : Nat.pow 2 0 = 1 := rfl
    rwa [one, Nat.mul_one]
  rw [vanished, least] at given
  cases given
  exact nonzero rfl

end Double

end InvoiceForms.Number
