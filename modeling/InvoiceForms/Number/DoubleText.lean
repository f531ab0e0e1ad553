import InvoiceForms.Number.Double

/-!
# Decimal texts of doubles

Three ways to write a double. `Double.toText` writes the fewest digits that read back as the same
double, positionally from 10⁻⁴ up to 10¹⁶ and always with a point. `Double.toGeneral` writes at most
six significant digits without trailing zeros, positionally from 10⁻⁴ up to 10⁶. `Double.toFixed`
writes a fixed number of places. All three round the exact binary value, a half to the even digit.
-/

namespace InvoiceForms.Number

/-- A decimal number `digits · 10 ^ exponent`. -/
structure Scaled where
  digits : Nat
  exponent : Int
deriving DecidableEq, Repr

namespace Scaled

/-- Removes zeros at the end of the digits, at most `fuel` of them. -/
def stripZeros : Nat → Scaled → Scaled
  | 0, x => x
  | fuel + 1, x =>
    if x.digits ≠ 0 ∧ x.digits % 10 = 0 then stripZeros fuel ⟨x.digits / 10, x.exponent + 1⟩ else x

/-- The digits as characters. -/
def chars (x : Scaled) : List Char := Nat.toDigits 10 x.digits

/-- Where the point stands, counted from the first digit. -/
def point (x : Scaled) : Int := x.chars.length + x.exponent

/-- All digits in their places. Without a fraction, `tail` follows. -/
def positional (tail : List Char) (x : Scaled) : List Char :=
  let ds := x.chars
  let p := x.point
  if p ≤ 0 then '0' :: '.' :: (List.replicate (-p).toNat '0' ++ ds)
  else if ds.length ≤ p.toNat then ds ++ List.replicate (p.toNat - ds.length) '0' ++ tail
  else ds.take p.toNat ++ '.' :: ds.drop p.toNat

/-- The exponent with its sign and at least two digits. -/
def exponentChars (k : Int) : List Char :=
  let ds := Nat.toDigits 10 k.natAbs
  (if k < 0 then '-' else '+') :: (List.replicate (2 - ds.length) '0' ++ ds)

/-- One digit before the point, and a power of ten. -/
def scientific (x : Scaled) : List Char :=
  let power := 'e' :: exponentChars (x.point - 1)
  match x.chars with
  | [] => power
  | [d] => d :: power
  | d :: ds => d :: '.' :: ds ++ power

end Scaled

namespace Double

/-- Whether `digits · 10 ^ exponent` reads back as the positive double with magnitude `m` units. -/
def readsBack (m digits : Nat) (exponent : Int) : Bool :=
  let (num, den) := shiftDecimal digits 1 exponent
  ofRatio false num den == ofRatio false m unitDenominator

/-- A decimal with `n` digits that reads back as `m` units, the nearer one if there are two. -/
def shortestAt? (m n : Nat) (k : Int) : Option Scaled :=
  let e := k + 1 - n
  let (num, den) := shiftDecimal m unitDenominator (-e)
  let low := num / den
  let high := low + 1
  let near := roundDiv num den
  let far := if near = low then high else low
  if readsBack m near e then some ⟨near, e⟩
  else if readsBack m far e then some ⟨far, e⟩
  else none

/-- All decimal digits of `m` units. -/
def exactDecimal (m : Nat) : Scaled :=
  Scaled.stripZeros 1100 ⟨m * Nat.pow 5 1074, -1074⟩

/-- The decimal with the fewest digits that reads back as `m` units. -/
def shortest (m : Nat) : Scaled :=
  let k := decimalExponent m unitDenominator
  match (List.range 17).findSome? fun i => shortestAt? m (i + 1) k with
  | some x => Scaled.stripZeros 17 x
  | none => exactDecimal m

/-- The sign of a number text. -/
def signChars (negative : Bool) : List Char := if negative then ['-'] else []

/-- The characters of `toText`. -/
def textChars : Double → List Char
  | nan => "nan".toList
  | infinity s => signChars s ++ "inf".toList
  | finite s e f =>
    let m := magnitudeOf e f
    if m = 0 then signChars s ++ "0.0".toList
    else
      let x := shortest m
      signChars s ++
        (if -4 < x.point ∧ x.point ≤ 16 then x.positional ['.', '0'] else x.scientific)

/-- The fewest digits that read back, with a point. -/
def toText (x : Double) : String := String.ofList x.textChars

/-- At most six significant digits, without trailing zeros. -/
def toGeneral : Double → String
  | nan => "nan"
  | infinity s => String.ofList (signChars s ++ "inf".toList)
  | finite s e f =>
    let m := magnitudeOf e f
    if m = 0 then String.ofList (signChars s ++ ['0'])
    else
      let (digits, k) := leadingDigits 6 m unitDenominator
      let x := Scaled.stripZeros 6 ⟨digits, k - 5⟩
      String.ofList (signChars s ++ (if -4 ≤ k ∧ k < 6 then x.positional [] else x.scientific))

/-- A fixed number of decimal places. -/
def toFixed (places : Nat) : Double → String
  | nan => "nan"
  | infinity s => String.ofList (signChars s ++ "inf".toList)
  | finite s e f =>
    let m := roundDiv (magnitudeOf e f * Nat.pow 10 places) unitDenominator
    let fraction := Nat.toDigits 10 (m % Nat.pow 10 places)
    let padded := List.replicate (places - fraction.length) '0' ++ fraction
    String.ofList (signChars s ++ Nat.toDigits 10 (m / Nat.pow 10 places) ++
      (if places = 0 then [] else '.' :: padded))

end Double

end InvoiceForms.Number
