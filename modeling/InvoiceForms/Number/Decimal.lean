import InvoiceForms.Number.Numeral

/-!
# Decimal numbers of any precision

A decimal keeps its digits and its exponent as written, so 1.50 and 1.5 are shown differently. Its
text is positional unless the exponent is positive or the number is below 10⁻⁶.
-/

namespace InvoiceForms.Number

open InvoiceForms.Text

/-- A decimal number with its exponent as written, an infinity, or a NaN with its payload. -/
inductive Decimal
  | finite (negative : Bool) (coefficient : Nat) (exponent : Int)
  | infinity (negative : Bool)
  | nan (negative : Bool) (signaling : Bool) (payload : Nat)
deriving DecidableEq, Repr

namespace Decimal

/-- The text of a power of ten, with its sign. -/
def powerChars (k : Int) : List Char :=
  'E' :: (if k < 0 then '-' else '+') :: Nat.toDigits 10 k.natAbs

/-- The characters of a finite decimal without its sign. -/
def finiteChars (coefficient : Nat) (exponent : Int) : List Char :=
  let ds := Nat.toDigits 10 coefficient
  let left : Int := exponent + ds.length
  let point : Int := if exponent ≤ 0 ∧ -6 < left then left else 1
  let body :=
    if point ≤ 0 then '0' :: '.' :: (List.replicate (-point).toNat '0' ++ ds)
    else if ds.length ≤ point.toNat then ds ++ List.replicate (point.toNat - ds.length) '0'
    else ds.take point.toNat ++ '.' :: ds.drop point.toNat
  if left = point then body else body ++ powerChars (left - point)

/-- The text of a decimal. -/
def toText : Decimal → String
  | finite s c e => String.ofList ((if s then ['-'] else []) ++ finiteChars c e)
  | infinity s => if s then "-Infinity" else "Infinity"
  | nan s signaling payload =>
    (if s then "-" else "") ++ (if signaling then "sNaN" else "NaN") ++
      (if payload = 0 then "" else toString payload)

/-- Whether a decimal is a NaN that no operation accepts. -/
def isSignaling : Decimal → Bool
  | nan _ signaling _ => signaling
  | _ => false

/-- The nearest double; a signaling NaN has none. -/
def toDouble? : Decimal → Option Double
  | finite s c e => some (.ofDecimal s c e)
  | infinity s => some (.infinity s)
  | nan _ signaling _ => if signaling then none else some .nan

/-- Decimal digits of every script as the digits 0 to 9. -/
def plainDigits (cs : List Char) : List Char :=
  cs.map fun c => (decimalValue? c).elim c Nat.digitChar

/-- Reads the payload of a NaN. -/
def readPayload? (cs : List Char) : Option Nat :=
  if cs.all isAsciiDigit then some (ofDigitChars cs) else none

/-- Reads a decimal; blanks around it and all underscores are ignored. -/
def read? (text : String) : Option Decimal :=
  let cs := plainDigits ((trim isBlank text.toList).filter (· ≠ '_'))
  let (s, body) := takeSign cs
  let word := body.map Char.toLower
  if String.ofList word = "inf" ∨ String.ofList word = "infinity" then some (.infinity s)
  else
    match word with
    | 'n' :: 'a' :: 'n' :: rest => (readPayload? rest).map (.nan s false)
    | 's' :: 'n' :: 'a' :: 'n' :: rest => (readPayload? rest).map (.nan s true)
    | _ => (readDecimal? body).map fun (ds, e) => .finite s (ofDigitChars ds) e

end Decimal

end InvoiceForms.Number
