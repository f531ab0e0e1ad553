import InvoiceForms.Number.Rounding

/-!
# Binary64 numbers

A `Double` is an IEEE 754 binary64 value given by its fields, so each value of the type is a real
double and equality is decided field by field. Every finite double is a whole number of *units* of
2⁻¹⁰⁷⁴; sums, products, quotients and comparisons are taken exactly on units and rounded once by
`ofRatio`, which rounds to nearest with ties to even. Nothing here uses machine floats.
-/

namespace InvoiceForms.Number

/-- A binary64 value: not a number, an infinity, or a finite one given by its bit fields. -/
inductive Double
  | nan
  | infinity (negative : Bool)
  | finite (negative : Bool) (exponent : Fin 2047) (fraction : Fin 4503599627370496)
deriving DecidableEq, Repr

namespace Double

/-- The zero of a sign. -/
def zero (negative : Bool) : Double := finite negative 0 0

instance : Inhabited Double := ⟨zero false⟩

/-- The integer significand of a finite double with these fields. -/
def significandOf (exponent : Fin 2047) (fraction : Fin 4503599627370496) : Nat :=
  if exponent.val = 0 then fraction.val else 4503599627370496 + fraction.val

/-- The magnitude of a finite double with these fields, in units of 2⁻¹⁰⁷⁴. -/
def magnitudeOf (exponent : Fin 2047) (fraction : Fin 4503599627370496) : Nat :=
  significandOf exponent fraction * Nat.pow 2 (exponent.val - 1)

/-- The denominator of the unit. -/
def unitDenominator : Nat := Nat.pow 2 1074

/-- The double with significand `m` and scale `2 ^ e`, where `m` has at most 53 bits, or is `2 ^ 53`
after a carry, and is below `2 ^ 52` only at the least scale. Too large a scale gives an infinity.
-/
def pack (negative : Bool) (m : Nat) (e : Int) : Double :=
  let (m, e) := if m = 9007199254740992 then (4503599627370496, e + 1) else (m, e)
  if small : m < 4503599627370496 then finite negative 0 ⟨m, small⟩
  else
    let field := (e + 1075).toNat
    if inside : field < 2047 ∧ m - 4503599627370496 < 4503599627370496 then
      finite negative ⟨field, inside.1⟩ ⟨m - 4503599627370496, inside.2⟩
    else infinity negative

/-- The scale that gives `num / den` a significand of 53 bits, or the least scale. -/
def binaryScale (num den : Nat) : Int :=
  let e : Int := (num.log2 : Int) - (den.log2 : Int) - 52
  let below := num * Nat.pow 2 (-e).toNat < den * Nat.pow 2 e.toNat * 4503599627370496
  max (-1074) (if below then e - 1 else e)

/-- The double nearest to `num / den`; ties go to the even significand. -/
def ofRatio (negative : Bool) (num den : Nat) : Double :=
  if num = 0 then zero negative
  else
    let e := binaryScale num den
    pack negative (roundDiv (num * Nat.pow 2 (-e).toNat) (den * Nat.pow 2 e.toNat)) e

/-- Whether the sign bit is set. -/
def isNegative : Double → Bool
  | nan => false
  | infinity s => s
  | finite s _ _ => s

/-- Whether a value is neither infinite nor a NaN. -/
def isFinite : Double → Bool
  | finite .. => true
  | _ => false

/-- The value of a finite double in units of 2⁻¹⁰⁷⁴. -/
def units? : Double → Option Int
  | finite s e f => some (if s then -(magnitudeOf e f : Int) else magnitudeOf e f)
  | _ => none

/-- The double nearest to a number of units; an exact zero gets the given sign. -/
def ofUnits (zeroSign : Bool) (n : Int) : Double :=
  if n = 0 then zero zeroSign else ofRatio (n < 0) n.natAbs unitDenominator

/-- The double nearest to an integer. -/
def ofInt (n : Int) : Double := ofRatio (n < 0) n.natAbs 1

/-- The opposite value. -/
def neg : Double → Double
  | nan => nan
  | infinity s => infinity !s
  | finite s e f => finite (!s) e f

/-- The value without its sign. -/
def abs : Double → Double
  | nan => nan
  | infinity _ => infinity false
  | finite _ e f => finite false e f

/-- The rounded sum. Opposite infinities have none; an exact zero is negative only as the sum of two
negative zeros. -/
def add : Double → Double → Double
  | nan, _ => nan
  | _, nan => nan
  | infinity s, infinity t => if s = t then infinity s else nan
  | infinity s, finite .. => infinity s
  | finite .., infinity t => infinity t
  | finite s e f, finite t e' f' =>
    let x : Int := if s then -(magnitudeOf e f : Int) else magnitudeOf e f
    let y : Int := if t then -(magnitudeOf e' f' : Int) else magnitudeOf e' f'
    ofUnits (s && t) (x + y)

/-- The rounded product. An infinity times a zero is not a number. -/
def mul : Double → Double → Double
  | nan, _ => nan
  | _, nan => nan
  | infinity s, infinity t => infinity (s != t)
  | infinity s, finite t e f => if magnitudeOf e f = 0 then nan else infinity (s != t)
  | finite s e f, infinity t => if magnitudeOf e f = 0 then nan else infinity (s != t)
  | finite s e f, finite t e' f' =>
    ofRatio (s != t) (magnitudeOf e f * magnitudeOf e' f') (unitDenominator * unitDenominator)

/-- The rounded quotient. Two zeros and two infinities have none; a zero divides anything else into
an infinity. -/
def div : Double → Double → Double
  | nan, _ => nan
  | _, nan => nan
  | infinity _, infinity _ => nan
  | infinity s, finite t _ _ => infinity (s != t)
  | finite s _ _, infinity t => zero (s != t)
  | finite s e f, finite t e' f' =>
    if magnitudeOf e' f' = 0 then if magnitudeOf e f = 0 then nan else infinity (s != t)
    else ofRatio (s != t) (magnitudeOf e f) (magnitudeOf e' f')

instance : Add Double := ⟨add⟩
instance : Mul Double := ⟨mul⟩
instance : Div Double := ⟨div⟩
instance : Neg Double := ⟨neg⟩

/-- Whether one value is less than another; never for a NaN. -/
def lt : Double → Double → Bool
  | nan, _ => false
  | _, nan => false
  | infinity s, infinity t => s && !t
  | infinity s, finite .. => s
  | finite .., infinity t => !t
  | finite s e f, finite t e' f' =>
    let x : Int := if s then -(magnitudeOf e f : Int) else magnitudeOf e f
    let y : Int := if t then -(magnitudeOf e' f' : Int) else magnitudeOf e' f'
    x < y

/-- Whether two values are equal as numbers: the zeros are, a NaN equals nothing. -/
def same : Double → Double → Bool
  | nan, _ => false
  | _, nan => false
  | x, y => !lt x y && !lt y x

/-- Whether one value is at most another; never for a NaN. -/
def le (x y : Double) : Bool := lt x y || same x y

/-- The sum from left to right, starting at the positive zero. -/
def sum (xs : List Double) : Double := xs.foldl add (zero false)

/-- The integer that a finite double is, when it has no fractional part. -/
def toInt? (x : Double) : Option Int :=
  x.units?.bind fun n =>
    if n % (unitDenominator : Int) = 0 then some (n / (unitDenominator : Int)) else none

/-- The greatest integer that is not above a finite double. -/
def floor? (x : Double) : Option Int :=
  x.units?.map (· / (unitDenominator : Int))

/-- The integer nearest to a finite double; a half goes up. -/
def nearest? (x : Double) : Option Int :=
  x.units?.map fun n => (2 * n + unitDenominator) / (2 * (unitDenominator : Int))

/-- A double rounded to a number of decimal places, a half to the even digit; infinities and NaN
stay. -/
def roundPlaces (places : Nat) : Double → Double
  | finite s e f =>
    let m := roundDiv (magnitudeOf e f * Nat.pow 10 places) unitDenominator
    ofRatio s m (Nat.pow 10 places)
  | x => x

/-- The double nearest to `digits · 10 ^ exponent`. Values beyond every double are decided by the
number of their digits. -/
def ofDecimal (negative : Bool) (digits : Nat) (exponent : Int) : Double :=
  if digits = 0 then zero negative
  else
    let order := (digitCount digits : Int) + exponent
    if 400 < order then infinity negative
    else if order < -400 then zero negative
    else
      let (num, den) := shiftDecimal digits 1 exponent
      ofRatio negative num den

end Double

end InvoiceForms.Number
