import InvoiceForms.Text.Encoding
import InvoiceForms.Text.Units

/-!
# Encodings with wide units

Reading UTF-16 and UTF-32 in either byte order. `Encoding.detect` tells from the zeros among the
first bytes which encoding a text has that starts with ASCII characters, as a JSON text does.
-/

namespace InvoiceForms.Text

/-- The number that bytes write. -/
def ByteOrder.number (order : ByteOrder) (bytes : List UInt8) : Nat :=
  let most := match order with
    | bigEndian => bytes
    | littleEndian => bytes.reverse
  most.foldl (fun n b => 256 * n + b.toNat) 0

/-- The UTF-16 units that bytes write; `position` is the place of the first one. -/
def units16 (order : ByteOrder) (position : Nat) : List UInt8 → Except DecodeFault (List Nat)
  | a :: b :: rest => do
    return order.number [a, b] :: (← units16 order (position + 2) rest)
  | [b] => .error ⟨.utf16 order, b, position, 1, .truncated⟩
  | [] => .ok []

/-- The code points that bytes write in UTF-32; `position` is the place of the first one. -/
def units32 (order : ByteOrder) (position : Nat) : List UInt8 → Except DecodeFault (List Nat)
  | a :: b :: c :: d :: rest => do
    let n := order.number [a, b, c, d]
    if 0x110000 ≤ n then throw ⟨.utf32 order, a, position, 4, .outOfRange⟩
    return n :: (← units32 order (position + 4) rest)
  | b :: rest => .error ⟨.utf32 order, b, position, rest.length + 1, .truncated⟩
  | [] => .ok []

/-- A code point as a character; a surrogate is replaced. -/
def charOfPoint (n : Nat) : Char :=
  if 0xD800 ≤ n ∧ n < 0xE000 then replacement else Char.ofNat n

namespace Encoding

/-- The text that bytes encode. -/
def decode (bytes : List UInt8) : Encoding → Except DecodeFault String
  | utf8 => Text.decode ⟨bytes.toArray⟩
  | utf16 order =>
    (units16 order 0 bytes).map fun units => String.ofList (joinPieces none (units.map .unit))
  | utf32 order => (units32 order 0 bytes).map fun points => String.ofList (points.map charOfPoint)

/-- The encoding of a text that starts with ASCII characters. -/
def detect : List UInt8 → Encoding
  | [a, b] => if a = 0 then utf16 .bigEndian else if b = 0 then utf16 .littleEndian else utf8
  | a :: b :: c :: d :: _ =>
    if a = 0 then if b = 0 then utf32 .bigEndian else utf16 .bigEndian
    else if b = 0 then if c = 0 ∧ d = 0 then utf32 .littleEndian else utf16 .littleEndian
    else utf8
  | _ => utf8

end Encoding

end InvoiceForms.Text
