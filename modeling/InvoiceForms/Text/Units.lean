/-!
# UTF-16 units

Text that may be given in part by the numbers of UTF-16 units. Two units, a high surrogate and a low
one after it, make one character; a surrogate without a partner is replaced by U+FFFD.
-/

namespace InvoiceForms.Text

/-- A piece of a string: a character, or a UTF-16 unit written by its number. -/
inductive Piece
  | char (c : Char)
  | unit (n : Nat)
deriving DecidableEq, Repr

/-- Stands for a surrogate without a partner. -/
def replacement : Char := Char.ofNat 0xFFFD

/-- A unit on its own: a high surrogate waits for its partner. -/
def takeUnit (n : Nat) : List Char × Option Nat :=
  if 0xD800 ≤ n ∧ n < 0xDC00 then ([], some n)
  else if 0xDC00 ≤ n ∧ n < 0xE000 then ([replacement], none)
  else ([Char.ofNat n], none)

/-- The characters that pieces make after a waiting high surrogate: a low one next to it makes a
pair with it, otherwise it is replaced. -/
def joinPieces : Option Nat → List Piece → List Char
  | none, [] => []
  | some _, [] => [replacement]
  | none, .char c :: rest => c :: joinPieces none rest
  | some _, .char c :: rest => replacement :: c :: joinPieces none rest
  | none, .unit n :: rest =>
    let (made, waiting) := takeUnit n
    made ++ joinPieces waiting rest
  | some high, .unit n :: rest =>
    if 0xDC00 ≤ n ∧ n < 0xE000 then
      Char.ofNat (0x10000 + (high - 0xD800) * 0x400 + (n - 0xDC00)) :: joinPieces none rest
    else
      let (made, waiting) := takeUnit n
      replacement :: made ++ joinPieces waiting rest

end InvoiceForms.Text
