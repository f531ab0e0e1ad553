import InvoiceForms.Proofs.Number.Ratios

/-!
# Sums of whole numbers

Doubles that are natural numbers are added without rounding as long as their sum is small, and a sum
that is not small stays so, however it is rounded. So whether a sum of natural numbers is above a
hundred does not depend on their order.
-/

namespace InvoiceForms.Number

namespace Double

/-- Whether a double is a natural number. -/
def IsWhole (x : Double) : Prop := ∃ n : Nat, x.toInt? = some (n : Int)

/-- The natural number that a double is. -/
def wholePart (x : Double) : Nat := (x.toInt?.getD 0).toNat

/-- Whether a double is at least a natural number. -/
def AtLeast (n : Nat) (x : Double) : Prop :=
  x = infinity false ∨ ∃ u : Int, x.units? = some u ∧ (n : Int) * unitDenominator ≤ u

variable {x y : Double} {u v : Int} {n k : Nat}

/-- A double without a fractional part is that many wholes. -/
theorem units_of_toInt? {n : Int} (integer : x.toInt? = some n) :
    x.units? = some (n * unitDenominator) := by
  obtain ⟨u, units, rest⟩ := Option.bind_eq_some_iff.mp integer
  split at rest
  · next divides =>
    have quotient : u / (unitDenominator : Int) = n := Option.some.inj rest
    rw [units, ← quotient, Int.ediv_mul_cancel (Int.dvd_of_emod_eq_zero divides)]
  · cases rest

theorem IsWhole.units (whole : x.IsWhole) : x.units? = some ((x.wholePart : Int) * unitDenominator) := by
  obtain ⟨n, integer⟩ := whole
  have part : x.wholePart = n := by rw [wholePart, integer, Option.getD_some, Int.toNat_natCast]
  rw [part]
  exact units_of_toInt? integer

theorem units_zero (negative : Bool) : (zero negative).units? = some 0 := by
  cases negative <;> rfl

theorem add_of_units (first : x.units? = some u) (second : y.units? = some v) :
    add x y = ofUnits (x.isNegative && y.isNegative) (u + v) := by
  cases x <;> cases y <;> cases first <;> cases second
  rfl

theorem lt_of_units (first : x.units? = some u) (second : y.units? = some v) :
    lt x y = decide (u < v) := by
  cases x <;> cases y <;> cases first <;> cases second
  rfl

theorem lt_infinity (finite : x.units? = some u) : lt x (infinity false) = true := by
  cases x with
  | finite => rfl
  | nan | infinity => cases finite

theorem ofUnits_of_pos {zeroSign : Bool} (positive : 0 < u) :
    ofUnits zeroSign u = ofRatio false u.natAbs unitDenominator := by
  rw [ofUnits, if_neg positive.ne', decide_eq_false (Int.not_lt.mpr positive.le)]

/-- What is packed with a normal significand has its value, unless it is infinite. -/
theorem units_pack {m : Nat} {E : Int} (normal : 4503599627370496 ≤ m) (least : -1074 ≤ E) :
    pack false m E = infinity false ∨
      (pack false m E).units? = some ((m * 2 ^ (E + 1074).toNat : Nat) : Int) := by
  unfold pack
  generalize carry : (if m = 9007199254740992 then (4503599627370496, E + 1) else (m, E)) = carried
  obtain ⟨m', E'⟩ := carried
  have kept : 4503599627370496 ≤ m' ∧ -1074 ≤ E' ∧
      m' * 2 ^ (E' + 1074).toNat = m * 2 ^ (E + 1074).toNat := by
    split at carry
    · next full =>
      cases carry
      refine ⟨le_refl _, by omega, ?_⟩
      have next : (E + 1 + 1074).toNat = (E + 1074).toNat + 1 := by omega
      rw [next, full, Nat.pow_succ]
      omega
    · cases carry
      exact ⟨normal, least, rfl⟩
  obtain ⟨normal', least', value⟩ := kept
  dsimp only
  rw [dif_neg (Nat.not_lt.mpr normal')]
  split
  · right
    have field : (E' + 1075).toNat - 1 = (E' + 1074).toNat := by omega
    have nonzero : (E' + 1075).toNat ≠ 0 := by omega
    simp only [units?, Bool.false_eq_true, if_false, magnitudeOf, significandOf, nonzero, field,
      Nat.pow_eq]
    rw [← value, Nat.add_sub_cancel' normal']
  · exact .inl rfl

/-- Rounding does not go below a natural number that is a double. -/
theorem atLeast_ofRatio {num den : Nat} (hden : 0 < den) (some : 0 < n) (few : n ≤ 4503599627370496)
    (bound : n * den ≤ num) : AtLeast n (ofRatio false num den) := by
  have hnum : 0 < num := lt_of_lt_of_le (Nat.mul_pos some hden) bound
  have hd : (0 : ℚ) < den := by exact_mod_cast hden
  have hq : (0 : ℚ) < num / den := div_pos (by exact_mod_cast hnum) hd
  have above : 0 ≤ Int.log 2 ((num : ℚ) / den) := by
    rw [← Int.zpow_le_iff_le_log one_lt_two hq, zpow_zero, le_div_iff₀ hd, one_mul]
    exact_mod_cast (Nat.le_mul_of_pos_left den some).trans bound
  rw [ofRatio, if_neg hnum.ne', binaryScale_eq hnum hden]
  generalize scale : max (-1074) (Int.log 2 ((num : ℚ) / den) - 52) = E
  have least : -1074 ≤ E := by omega
  have normal : 4503599627370496 ≤
      roundDiv (num * Nat.pow 2 (-E).toNat) (den * Nat.pow 2 E.toNat) :=
    normal_roundDiv hnum hden (by omega)
  rcases units_pack normal least with infinite | units
  · exact .inl infinite
  · refine .inr ⟨_, units, ?_⟩
    rw [← Nat.cast_mul, Int.ofNat_le]
    obtain ⟨k, hk, unit⟩ := unitDenominator_eq
    rw [unit]
    by_cases small : E ≤ 0
    · -- The shifted bound is a whole number, so that rounding the shifted ratio does not go below it.
      have quotient : n * 2 ^ (-E).toNat ≤
          roundDiv (num * Nat.pow 2 (-E).toNat) (den * Nat.pow 2 E.toNat) := by
        refine le_trans ?_ (le_roundDiv _ _)
        refine (Nat.le_div_iff_mul_le (Nat.mul_pos hden (Nat.two_pow_pos _))).mpr ?_
        have one : 2 ^ E.toNat = 1 := by rw [Int.toNat_of_nonpos small, Nat.pow_zero]
        rw [Nat.pow_eq, one, Nat.mul_one, Nat.mul_right_comm]
        exact Nat.mul_le_mul_right _ bound
      calc n * 2 ^ k = n * 2 ^ (-E).toNat * 2 ^ (E + 1074).toNat := by
            have exponents : k = (-E).toNat + (E + 1074).toNat := by omega
            rw [exponents, Nat.pow_add, Nat.mul_assoc]
        _ ≤ _ := Nat.mul_le_mul_right _ quotient
    · refine Nat.mul_le_mul (few.trans normal) (Nat.pow_le_pow_right Nat.zero_lt_two ?_)
      omega

/-- Small natural numbers are doubles. -/
theorem units_ofRatio_of_le (small : n ≤ 100) :
    (ofRatio false n 1).units? = some ((n : Int) * unitDenominator) := by
  have all : ∀ k : Fin 101, (ofRatio false k 1).units? = some ((k : Int) * unitDenominator) := by
    decide +kernel
  exact all ⟨n, by omega⟩

/-- A natural number of units is added without rounding where it is small, and else stays great. -/
theorem ofUnits_whole {zeroSign : Bool} :
    (n ≤ 100 → (ofUnits zeroSign (n * unitDenominator)).units? = some ((n : Int) * unitDenominator)) ∧
      (100 < n → AtLeast 101 (ofUnits zeroSign (n * unitDenominator))) := by
  by_cases none : n = 0
  · subst none
    refine ⟨fun _ => ?_, by omega⟩
    rw [Nat.cast_zero, zero_mul, ofUnits, if_pos rfl, units_zero]
  · have positive : 0 < (n : Int) * unitDenominator :=
      Int.mul_pos (by omega) (by exact_mod_cast unitDenominator_pos)
    have units : ((n : Int) * unitDenominator).natAbs = n * unitDenominator := by
      rw [Int.natAbs_mul, Int.natAbs_natCast, Int.natAbs_natCast]
    rw [ofUnits_of_pos positive, units]
    constructor
    · intro small
      have same : n * unitDenominator * 1 = n * unitDenominator := Nat.mul_one _
      rw [ofRatio_congr false unitDenominator_pos Nat.one_pos same, units_ofRatio_of_le small]
    · intro great
      exact atLeast_ofRatio unitDenominator_pos (by omega) (by omega)
        (Nat.mul_le_mul_right _ great)

/-- What is great stays great when a natural number is added. -/
theorem AtLeast.add_whole (great : AtLeast 101 x) (whole : y.IsWhole) : AtLeast 101 (add x y) := by
  have added := whole.units
  rcases great with rfl | ⟨u, units, bound⟩
  · cases y with
    | finite => exact .inl rfl
    | nan | infinity => cases added
  · have positive : 0 < (unitDenominator : Int) := by exact_mod_cast unitDenominator_pos
    have more : 101 * (unitDenominator : Int) ≤ u + y.wholePart * unitDenominator := by
      have := Int.mul_nonneg (Int.natCast_nonneg y.wholePart) positive.le
      omega
    rw [add_of_units units added, ofUnits_of_pos (by omega)]
    exact atLeast_ofRatio unitDenominator_pos (by omega) (by omega) (by omega)

/-- What a running sum says of the sum of the natural numbers added so far. -/
inductive Adds (n : Nat) (x : Double) : Prop
  | small (few : n ≤ 100) (units : x.units? = some ((n : Int) * unitDenominator))
  | great (many : 100 < n) (above : AtLeast 101 x)

theorem Adds.add (adds : Adds n x) (whole : y.IsWhole) : Adds (n + y.wholePart) (x.add y) := by
  cases adds with
  | small few units =>
    have sum : x.add y = ofUnits (x.isNegative && y.isNegative)
        (((n + y.wholePart : Nat) : Int) * unitDenominator) := by
      rw [add_of_units units whole.units, Nat.cast_add, Int.add_mul]
    rw [sum]
    by_cases small : n + y.wholePart ≤ 100
    · exact .small small (ofUnits_whole.1 small)
    · exact .great (by omega) (ofUnits_whole.2 (by omega))
  | great many above => exact .great (by omega) (above.add_whole whole)

/-- The induction is on the doubles that are still to be added. -/
theorem Adds.foldl {xs : List Double} (adds : Adds n x) (whole : ∀ y ∈ xs, y.IsWhole) :
    Adds (n + (xs.map wholePart).sum) (xs.foldl Double.add x) := by
  induction xs generalizing n x with
  | nil => exact adds
  | cons y ys ih =>
    rw [List.map_cons, List.sum_cons, ← Nat.add_assoc]
    exact ih (adds.add (whole y List.mem_cons_self)) fun z member =>
      whole z (List.mem_cons_of_mem _ member)

/-- A sum of doubles that are natural numbers is above a hundred when the sum of the numbers is. -/
theorem hundred_lt_sum_iff {xs : List Double} (whole : ∀ x ∈ xs, x.IsWhole) :
    (ofInt 100).lt (sum xs) = true ↔ 100 < (xs.map wholePart).sum := by
  have start : Adds 0 (zero false) :=
    .small (Nat.zero_le _) (by rw [units_zero, Nat.cast_zero, zero_mul])
  have hundred : (ofInt 100).units? = some (100 * (unitDenominator : Int)) :=
    units_ofRatio_of_le (n := 100) (le_refl _)
  have positive : 0 < (unitDenominator : Int) := by exact_mod_cast unitDenominator_pos
  have total := start.foldl whole
  rw [Nat.zero_add] at total
  change Adds _ (sum xs) at total
  cases total with
  | small few units =>
    rw [lt_of_units hundred units, decide_eq_true_iff]
    constructor
    · exact fun above => by exact_mod_cast lt_of_mul_lt_mul_right above positive.le
    · exact fun above => absurd above (Nat.not_lt.mpr few)
  | great many above =>
    refine ⟨fun _ => many, fun _ => ?_⟩
    rcases above with infinite | ⟨u, units, bound⟩
    · rw [infinite]
      exact lt_infinity hundred
    · rw [lt_of_units hundred units, decide_eq_true_iff]
      omega

/-- The order of natural numbers does not show in whether their sum is above a hundred. -/
theorem hundred_lt_sum_congr {xs ys : List Double} (same : xs.Perm ys) (whole : ∀ x ∈ xs, x.IsWhole) :
    (ofInt 100).lt (sum xs) = (ofInt 100).lt (sum ys) := by
  rw [Bool.eq_iff_iff, hundred_lt_sum_iff whole,
    hundred_lt_sum_iff fun y member => whole y (same.mem_iff.mpr member), (same.map wholePart).sum_eq]

end Double

end InvoiceForms.Number
