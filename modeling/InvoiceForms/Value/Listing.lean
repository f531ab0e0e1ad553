import InvoiceForms.Value.Key

/-!
# The order of sets

The order in which a set lists its items. A set keeps them in a table whose size is a power of two:
an item goes to the place that its hash names, and from an occupied place on to others, which
depend on the hash too. The table grows when three fifths of its places are taken. Numbers have a
hash that depends on their value alone, so equal numbers of different kinds share it. Sets with
items that are no numbers list them in the order in which they came in.
-/

namespace InvoiceForms.Value

open InvoiceForms.Number

/-- The prime that hashes of numbers are remainders of. -/
def hashPrime : Nat := 2305843009213693951

/-- A power's remainder. -/
def powerMod (base exponent modulus : Nat) : Nat :=
  if exponent = 0 then 1 % modulus
  else
    let half := powerMod (base * base % modulus) (exponent / 2) modulus
    if exponent % 2 = 0 then half else base * half % modulus
termination_by exponent
decreasing_by omega

/-- The remainder of a power of ten; below zero that of the inverse. -/
def powerOfTenMod (exponent : Int) : Nat :=
  let power := powerMod 10 exponent.natAbs hashPrime
  if exponent < 0 then powerMod power (hashPrime - 2) hashPrime else power

/-- A signed hash; minus one is not in use. -/
def signedHash (negative : Bool) (n : Nat) : Int :=
  if signed negative n = -1 then -2 else signed negative n

/-- The hash of a number. -/
def numberHash : NumberKey → Int
  | .finite negative x =>
    signedHash negative (x.digits % hashPrime * powerOfTenMod x.exponent % hashPrime)
  | .infinity negative => signedHash negative 314159

/-- A table of items with their hashes, taken as 64 bits. -/
structure SetTable where
  places : Array (Option (Nat × Value))
  taken : Nat := 0

namespace SetTable

/-- An empty table. -/
def empty (size : Nat) : SetTable := { places := Array.replicate size none }

/-- How many places after the first one are tried in turn. -/
def neighbours : Nat := 9

/-- The first free place among some from a place on. -/
def freeFrom? (t : SetTable) (start : Nat) : Nat → Option Nat
  | 0 => none
  | n + 1 =>
    match t.places[start]? with
    | some none => some start
    | _ => freeFrom? t (start + 1) n

/-- The place of a new item, looked for from a place on; each jump takes one of the fuel. -/
def placeFor (t : SetTable) : Nat → Nat → Nat → Nat
  | 0, start, _ => start
  | fuel + 1, start, rest =>
    let tries := if start + neighbours < t.places.size then neighbours + 1 else 1
    match t.freeFrom? start tries with
    | some place => place
    | none => placeFor t fuel ((start * 5 + 1 + rest / 32) % t.places.size) (rest / 32)

/-- Puts an item in. -/
def insert (t : SetTable) (item : Nat × Value) : SetTable :=
  let size := t.places.size
  { places := t.places.setIfInBounds (t.placeFor (size + 16) (item.1 % size) item.1) (some item)
    taken := t.taken + 1 }

/-- The items in the order of their places. -/
def items (t : SetTable) : List (Nat × Value) := t.places.toList.filterMap id

/-- The least power of two above a number, from a power on. -/
def sizeAbove (size n : Nat) : Nat → Nat
  | 0 => size
  | fuel + 1 => if size ≤ n then sizeAbove (2 * size) n fuel else size

/-- The least size of a table. -/
def leastSize : Nat := 8

/-- How many times as many places as items a table gets when it grows. -/
def growth (taken : Nat) : Nat := if 50000 < taken then 2 else 4

/-- A table that has grown, if it has to. -/
def grown (t : SetTable) : SetTable :=
  if t.taken * 5 < (t.places.size - 1) * 3 then t
  else
    let wanted := t.taken * growth t.taken
    t.items.foldl insert (empty (sizeAbove leastSize wanted wanted))

/-- The table of items, put in from left to right. -/
def ofItems (items : List (Nat × Value)) : SetTable :=
  items.foldl (fun t item => (t.insert item).grown) (empty leastSize)

end SetTable

/-- The hash of a number as 64 bits. -/
def hashBits? (v : Value) : Option Nat :=
  (numberKey? v).map fun key => (numberHash key % 18446744073709551616).toNat

/-- Items with their hashes, when all of them are numbers. -/
def hashed? : List Value → Option (List (Nat × Value))
  | [] => some []
  | v :: vs =>
    match hashBits? v, hashed? vs with
    | some h, some rest => some ((h, v) :: rest)
    | _, _ => none

/-- Distinct items in the order in which a set lists them. -/
def listedItems (items : List Value) : List Value :=
  match hashed? items with
  | some found => (SetTable.ofItems found).items.map (·.2)
  | none => items

/-- The set of some items. -/
def setOf (items : List Value) : Value := set (listedItems (distinctKeys items))

end InvoiceForms.Value
