import InvoiceForms.Number.DoubleText
import InvoiceForms.Value.Basic

/-!
# Values as keys

Which values can be keys, and when two of them are the same key. Numbers of all kinds are one key
when they are equal as numbers, so true, 1 and 1.0 are; a NaN is the same as no key.
`Value.distinctKeys` keeps the first of each.
-/

namespace InvoiceForms

open InvoiceForms.Number

/-- Why a value cannot be a key: its kind has no keys, or it is a NaN that no operation accepts. -/
inductive KeyFault
  | unhashable (kind : String)
  | signaling
deriving DecidableEq, Repr

/-- The reason in words. -/
def KeyFault.message : KeyFault → String
  | unhashable kind => "unhashable type: '" ++ kind ++ "'"
  | signaling => "Cannot hash a signaling NaN value"

/-- A number as a key: its decimal digits without zeros at the end, or an infinity. -/
inductive NumberKey
  | finite (negative : Bool) (digits : Scaled)
  | infinity (negative : Bool)
deriving DecidableEq, Repr

namespace NumberKey

/-- The key of `digits · 10 ^ exponent`; there is one zero only. -/
def ofDecimal (negative : Bool) (digits : Nat) (exponent : Int) : NumberKey :=
  if digits = 0 then finite false ⟨0, 0⟩
  else finite negative (Scaled.stripZeros (digitCount digits) ⟨digits, exponent⟩)

/-- The key of a double, by its exact value. -/
def ofDouble? : Double → Option NumberKey
  | .nan => none
  | .infinity negative => some (infinity negative)
  | .finite negative e f =>
    let x := Double.exactDecimal (Double.magnitudeOf e f)
    some (ofDecimal negative x.digits x.exponent)

/-- The key of a decimal. -/
def ofDecimal? : Decimal → Option NumberKey
  | .finite negative digits exponent => some (ofDecimal negative digits exponent)
  | .infinity negative => some (infinity negative)
  | .nan .. => none

end NumberKey

namespace Value

mutual

/-- Why a value cannot be a key, if it cannot: because of itself or of the first such part. -/
def keyFault? : Value → Option KeyFault
  | list _ => some (.unhashable "list")
  | set _ => some (.unhashable "set")
  | mapping _ => some (.unhashable "dict")
  | record title .. => some (.unhashable title)
  | decimal x => if x.isSignaling then some .signaling else none
  | tuple items => firstKeyFault? items
  | _ => none

/-- The fault of the first item that cannot be a key. -/
def firstKeyFault? : List Value → Option KeyFault
  | [] => none
  | v :: vs => (keyFault? v).orElse fun _ => firstKeyFault? vs

end

/-- The number that a value is as a key; none when it is no number or not equal to itself. -/
def numberKey? : Value → Option NumberKey
  | bool b => some (.ofDecimal false (if b then 1 else 0) 0)
  | int n => some (.ofDecimal (n < 0) n.natAbs 0)
  | float x => NumberKey.ofDouble? x
  | decimal x => NumberKey.ofDecimal? x
  | _ => none

mutual

/-- Whether two values are the same key. -/
def sameKey : Value → Value → Bool
  | null, null => true
  | text a, text b => a = b
  | date a, date b => a = b
  | moment a, moment b => a.sameInstant b
  | clock a, clock b => a.sameInstant b
  | bytes a, bytes b => a = b
  | tuple as, tuple bs => sameKeys as bs
  | a, b =>
    match numberKey? a, numberKey? b with
    | some x, some y => x = y
    | _, _ => false

/-- `sameKey` on the items of tuples. -/
def sameKeys : List Value → List Value → Bool
  | [], [] => true
  | a :: as, b :: bs => sameKey a b && sameKeys as bs
  | _, _ => false

end

/-- The first of each key, in order. -/
def distinctKeys (keys : List Value) : List Value :=
  keys.foldl (fun found key => if found.any (sameKey · key) then found else found ++ [key]) []

end Value

end InvoiceForms
