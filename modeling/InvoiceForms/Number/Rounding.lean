/-!
# Rounding a quotient

`roundDiv num den` is the natural number nearest to `num / den`; a half goes to the even neighbour.
All rounding of this library, binary and decimal, goes through it.
-/

namespace InvoiceForms.Number

/-- The integer nearest to `num / den`; a half goes to the even neighbour. -/
def roundDiv (num den : Nat) : Nat :=
  let q := num / den
  let r := num % den
  if 2 * r < den then q
  else if den < 2 * r then q + 1
  else if q % 2 = 0 then q
  else q + 1

/-- A quotient without remainder is its own rounding. -/
theorem roundDiv_mul_right (q : Nat) {den : Nat} (positive : 0 < den) :
    roundDiv (q * den) den = q := by
  simp [roundDiv, Nat.mul_div_cancel _ positive, positive]

/-- Rounding moves a quotient to one of its two neighbours. -/
theorem roundDiv_eq_or (num den : Nat) :
    roundDiv num den = num / den ∨ roundDiv num den = num / den + 1 := by
  simp only [roundDiv]
  split
  · exact .inl rfl
  · split
    · exact .inr rfl
    · split
      · exact .inl rfl
      · exact .inr rfl

/-- The ratio `num / den · 10 ^ shift` as a numerator and a denominator. -/
def shiftDecimal (num den : Nat) (shift : Int) : Nat × Nat :=
  (num * Nat.pow 10 shift.toNat, den * Nat.pow 10 (-shift).toNat)

/-- How many decimal digits a number has; one for zero. -/
def digitCount (n : Nat) : Nat := (Nat.toDigits 10 n).length

/-- The exponent `k` with `10 ^ k ≤ num / den < 10 ^ (k + 1)`, for positive arguments. -/
def decimalExponent (num den : Nat) : Int :=
  if den ≤ num then (digitCount (num / den) : Int) - 1
  else
    let d := digitCount (den / num)
    if den ≤ num * Nat.pow 10 (d - 1) then 1 - (d : Int) else -(d : Int)

/-- The `n` leading decimal digits of `num / den`, rounded, and the exponent of the first one. -/
def leadingDigits (n num den : Nat) : Nat × Int :=
  let k := decimalExponent num den
  let (num', den') := shiftDecimal num den (n - 1 - k)
  let m := roundDiv num' den'
  if m = Nat.pow 10 n then (Nat.pow 10 (n - 1), k + 1) else (m, k)

end InvoiceForms.Number
