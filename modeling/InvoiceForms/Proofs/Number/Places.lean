import InvoiceForms.Proofs.Number.Whole

/-!
# Rounding to places

Rounding a double to decimal places leaves its sign and leaves it finite, so that the only thing about it
that can change is whether it is zero. A sum is never the negative zero, and what is below zero is what has
a sign and is not that.
-/

namespace InvoiceForms.Number

namespace Double

variable {x y : Double} {s t : Bool} {m num den places : Nat} {E : Int}

theorem isNegative_pack (s : Bool) (m : Nat) (E : Int) : (pack s m E).isNegative = s := by
  unfold pack
  generalize (if m = 9007199254740992 then (4503599627370496, E + 1) else (m, E)) = carried
  obtain ⟨m', E'⟩ := carried
  dsimp only
  split
  · rfl
  · split <;> rfl

theorem isNegative_ofRatio (s : Bool) (num den : Nat) : (ofRatio s num den).isNegative = s := by
  unfold ofRatio
  split
  · rfl
  · exact isNegative_pack ..

/-- Below the greatest scale there are only finite doubles. -/
theorem isFinite_pack (s : Bool) (few : m ≤ 9007199254740992) (small : E ≤ 970) :
    (pack s m E).isFinite = true := by
  unfold pack
  generalize carry : (if m = 9007199254740992 then (4503599627370496, E + 1) else (m, E)) = carried
  obtain ⟨m', E'⟩ := carried
  have bounds : m' < 9007199254740992 ∧ E' ≤ 971 := by
    split at carry <;> cases carry <;> omega
  dsimp only
  split
  · rfl
  · next large =>
    rw [dif_pos (by omega)]
    rfl

/-- Scaled for its double, a ratio has a significand of at most 53 bits, or the next power of two. -/
theorem roundDiv_binaryScale_le (hnum : 0 < num) (hden : 0 < den) :
    roundDiv (num * Nat.pow 2 (-(binaryScale num den)).toNat) (den * Nat.pow 2 (binaryScale num den).toNat) ≤
      9007199254740992 := by
  have hd : (0 : ℚ) < den := by exact_mod_cast hden
  have hq : (0 : ℚ) < num / den := div_pos (by exact_mod_cast hnum) hd
  have scale : Int.log 2 ((num : ℚ) / den) < 53 + binaryScale num den := by
    rw [binaryScale_eq hnum hden]
    omega
  generalize binaryScale num den = E at scale ⊢
  have power := (Int.lt_zpow_iff_log_lt one_lt_two hq).mpr scale
  rw [Nat.cast_two, zpow_add₀ two_ne_zero, div_lt_iff₀ hd] at power
  have below : num * Nat.pow 2 (-E).toNat / (den * Nat.pow 2 E.toNat) < 9007199254740992 := by
    refine (Nat.div_lt_iff_lt_mul (Nat.mul_pos hden (Nat.two_pow_pos _))).mpr ?_
    rw [← Nat.cast_lt (α := ℚ)]
    simp only [Nat.pow_eq, Nat.cast_mul, Nat.cast_pow, Nat.cast_ofNat, pow_toNat (two_ne_zero (α := ℚ)) E]
    calc (num : ℚ) * 2 ^ (-E).toNat < 2 ^ (53 : Int) * 2 ^ E * den * 2 ^ (-E).toNat :=
          mul_lt_mul_of_pos_right power (by positivity)
      _ = 9007199254740992 * (den * (2 ^ E * 2 ^ (-E).toNat)) := by
          norm_num
          ring
  rcases roundDiv_eq_or (num * Nat.pow 2 (-E).toNat) (den * Nat.pow 2 E.toNat) with same | next <;> omega

/-- A ratio that is not great has a finite double. -/
theorem isFinite_ofRatio (s : Bool) (hden : 0 < den) (small : num ≤ 9007199254740992 * den) :
    (ofRatio s num den).isFinite = true := by
  unfold ofRatio
  split
  · rfl
  · next nonzero =>
    have hnum : 0 < num := Nat.pos_of_ne_zero nonzero
    have hd : (0 : ℚ) < den := by exact_mod_cast hden
    have hq : (0 : ℚ) < num / den := div_pos (by exact_mod_cast hnum) hd
    have below : Int.log 2 ((num : ℚ) / den) < 54 := by
      rw [← Int.lt_zpow_iff_log_lt one_lt_two hq, div_lt_iff₀ hd]
      calc (num : ℚ) ≤ 9007199254740992 * den := by exact_mod_cast small
        _ < 2 ^ (54 : Int) * den := mul_lt_mul_of_pos_right (by norm_num) hd
    refine isFinite_pack s (roundDiv_binaryScale_le hnum hden) ?_
    rw [binaryScale_eq hnum hden]
    omega

/-- A significand that is not zero packs no zero. -/
theorem pack_ne_zero (s t : Bool) (some : 0 < m) (least : -1074 ≤ E) : pack s m E ≠ zero t := by
  unfold pack
  generalize carry : (if m = 9007199254740992 then (4503599627370496, E + 1) else (m, E)) = carried
  obtain ⟨m', E'⟩ := carried
  have bounds : 0 < m' ∧ -1074 ≤ E' := by
    split at carry <;> cases carry <;> omega
  dsimp only
  intro same
  split at same
  · obtain ⟨-, -, fraction⟩ := finite.inj same
    have none : m' = 0 := congrArg Fin.val fraction
    omega
  · split at same
    · obtain ⟨-, exponent, -⟩ := finite.inj same
      have none : (E' + 1075).toNat = 0 := congrArg Fin.val exponent
      omega
    · cases same

/-- A ratio that is no less than a unit has no zero for its double. -/
theorem ofRatio_ne_zero (s t : Bool) (hnum : 0 < num) (hden : 0 < den)
    (unit : -1074 ≤ Int.log 2 ((num : ℚ) / den)) : ofRatio s num den ≠ zero t := by
  have hd : (0 : ℚ) < den := by exact_mod_cast hden
  have hq : (0 : ℚ) < num / den := div_pos (by exact_mod_cast hnum) hd
  rw [ofRatio, if_neg hnum.ne', binaryScale_eq hnum hden]
  generalize scale : max (-1074) (Int.log 2 ((num : ℚ) / den) - 52) = E
  refine pack_ne_zero s t ?_ (by omega)
  refine lt_of_lt_of_le ?_ (le_roundDiv _ _)
  refine (Nat.le_div_iff_mul_le (Nat.mul_pos hden (Nat.two_pow_pos _))).mpr ?_
  have power : (2 : ℚ) ^ E * den ≤ num := by
    rw [← le_div_iff₀ hd, ← Nat.cast_two, Int.zpow_le_iff_le_log one_lt_two hq]
    omega
  rw [Nat.one_mul, ← Nat.cast_le (α := ℚ)]
  simp only [Nat.pow_eq, Nat.cast_mul, Nat.cast_pow, Nat.cast_ofNat, pow_toNat (two_ne_zero (α := ℚ)) E]
  calc (den : ℚ) * (2 ^ E * 2 ^ (-E).toNat) = 2 ^ E * den * 2 ^ (-E).toNat := by ring
    _ ≤ num * 2 ^ (-E).toNat := mul_le_mul_of_nonneg_right power (by positivity)

theorem isNegative_roundPlaces (places : Nat) (x : Double) :
    (x.roundPlaces places).isNegative = x.isNegative := by
  cases x with
  | finite s e f => exact isNegative_ofRatio ..
  | nan | infinity => rfl

/-- Doubles of great exponents are whole numbers, and rounded to places they are what they were. -/
theorem roundPlaces_of_whole {s : Bool} {e : Fin 2047} {f : Fin 4503599627370496} (whole : 1074 < e.val)
    (places : Nat) : (finite s e f).roundPlaces places = finite s e f := by
  have leading : 0 < significandOf e f := by
    rw [significandOf, if_neg (by omega)]
    omega
  have nonzero : magnitudeOf e f ≠ 0 := by
    rw [magnitudeOf]
    exact (Nat.mul_pos leading (Nat.two_pow_pos _)).ne'
  obtain ⟨k, hk, unit⟩ := unitDenominator_eq
  have ten : 0 < Nat.pow 10 places := Nat.pow_pos (by decide)
  have units : magnitudeOf e f = significandOf e f * Nat.pow 2 (e.val - 1 - k) * unitDenominator := by
    have exponents : e.val - 1 - k + k = e.val - 1 := by omega
    rw [magnitudeOf, unit, Nat.mul_assoc, Nat.pow_eq, Nat.pow_eq, ← Nat.pow_add, exponents]
  have scaled : magnitudeOf e f * Nat.pow 10 places =
      significandOf e f * Nat.pow 2 (e.val - 1 - k) * Nat.pow 10 places * unitDenominator := by
    rw [units, Nat.mul_right_comm]
  rw [roundPlaces, scaled, roundDiv_mul_right _ unitDenominator_pos]
  refine (ofRatio_congr s ten unitDenominator_pos ?_).trans (ofRatio_magnitudeOf s e f nonzero)
  rw [← scaled]

/-- Rounded to places, what is finite stays so. -/
theorem isFinite_roundPlaces (places : Nat) (x : Double) :
    (x.roundPlaces places).isFinite = x.isFinite := by
  cases x with
  | nan | infinity => rfl
  | finite s e f =>
    by_cases whole : 1074 < e.val
    · rw [roundPlaces_of_whole whole]
    · obtain ⟨k, hk, unit⟩ := unitDenominator_eq
      have ten : 0 < Nat.pow 10 places := Nat.pow_pos (by decide)
      have small : magnitudeOf e f < 9007199254740992 * unitDenominator := by
        rw [magnitudeOf, unit]
        exact Nat.mul_lt_mul_of_lt_of_le (significandOf_lt e f)
          (Nat.pow_le_pow_right Nat.zero_lt_two (by omega)) (Nat.two_pow_pos _)
      have below : magnitudeOf e f * Nat.pow 10 places / unitDenominator <
          9007199254740992 * Nat.pow 10 places := by
        refine (Nat.div_lt_iff_lt_mul unitDenominator_pos).mpr ?_
        rw [Nat.mul_right_comm]
        exact Nat.mul_lt_mul_of_pos_right small ten
      refine isFinite_ofRatio s ten ?_
      rcases roundDiv_eq_or (magnitudeOf e f * Nat.pow 10 places) unitDenominator with same | next <;> omega

/-- What is below zero has a sign and is not the negative zero. -/
theorem lt_zero_iff (x : Double) : x.lt (zero false) = true ↔ x.isNegative = true ∧ x ≠ zero true := by
  cases x with
  | nan => exact iff_of_false nofun nofun
  | infinity s => cases s <;> simp [lt, isNegative, zero]
  | finite s e f =>
    rw [lt_of_units rfl (units_zero false), decide_eq_true_iff]
    cases s with
    | false => exact iff_of_false (Int.not_lt.mpr (Int.natCast_nonneg _)) nofun
    | true =>
      have negative : -(magnitudeOf e f : Int) < 0 ↔ magnitudeOf e f ≠ 0 := by omega
      refine negative.trans ⟨fun some => ⟨rfl, ?_⟩, fun given none => ?_⟩
      · rintro ⟨⟩
        exact some rfl
      · obtain ⟨rfl, rfl⟩ := eq_zero_of_magnitudeOf none
        exact given.2 rfl

/-- Units that are not none have no zero for their double. -/
theorem ofUnits_ne_zero {n : Int} (some : n ≠ 0) (zeroSign t : Bool) : ofUnits zeroSign n ≠ zero t := by
  have hnum : 0 < n.natAbs := Int.natAbs_pos.mpr some
  have hd : (0 : ℚ) < unitDenominator := by exact_mod_cast unitDenominator_pos
  have hq : (0 : ℚ) < n.natAbs / unitDenominator := div_pos (by exact_mod_cast hnum) hd
  rw [ofUnits, if_neg some]
  refine ofRatio_ne_zero _ _ hnum unitDenominator_pos ?_
  obtain ⟨k, hk, unit⟩ := unitDenominator_eq
  have exponent : (-1074 : Int) = -(k : Int) := by omega
  rw [exponent, ← Int.zpow_le_iff_le_log one_lt_two hq, le_div_iff₀ hd, unit]
  push_cast
  rw [zpow_neg, zpow_natCast, inv_mul_cancel₀ (by positivity)]
  exact_mod_cast hnum

/-- A sum with something that is not the negative zero is not the negative zero. -/
theorem add_ne_zero (other : x ≠ zero true) (y : Double) : add x y ≠ zero true := by
  cases x with
  | nan => exact nofun
  | infinity s =>
    cases y with
    | nan | finite => exact nofun
    | infinity t =>
      rw [add]
      split <;> exact nofun
  | finite s e f =>
    cases y with
    | nan | infinity => exact nofun
    | finite t e' f' =>
      rw [add_of_units rfl rfl]
      by_cases none : (if s then -(magnitudeOf e f : Int) else magnitudeOf e f) +
          (if t then -(magnitudeOf e' f' : Int) else magnitudeOf e' f') = 0
      · rw [none, ofUnits, if_pos rfl]
        intro same
        obtain ⟨signs, -, -⟩ := finite.inj same
        obtain ⟨rfl, rfl⟩ : s = true ∧ t = true := Bool.and_eq_true_iff.mp signs
        have first : magnitudeOf e f = 0 := by
          rw [if_pos rfl, if_pos rfl] at none
          omega
        obtain ⟨rfl, rfl⟩ := eq_zero_of_magnitudeOf first
        exact other rfl
      · exact ofUnits_ne_zero none _ _

/-- A sum is never the negative zero. -/
theorem sum_ne_zero (xs : List Double) : sum xs ≠ zero true := by
  have running (xs : List Double) (x : Double) (other : x ≠ zero true) : xs.foldl add x ≠ zero true := by
    induction xs generalizing x with
    | nil => exact other
    | cons y ys ih => exact ih _ (add_ne_zero other y)
  exact running xs _ nofun

end Double

end InvoiceForms.Number
