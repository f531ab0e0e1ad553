import InvoiceForms.Json.Basic
import InvoiceForms.Number.DoubleText
import InvoiceForms.Text.Quoted

/-!
# Writing JSON

`Json.print` writes a value in a `Style`: on one line or indented, in ASCII or with every character
as it is. Members are written in the order of the value; `Json.sortMembers` puts them in the order
of their keys first. Infinities and NaN are written as words that the reader of this library takes.
-/

namespace InvoiceForms.Json

open InvoiceForms.Number InvoiceForms.Text

/-- How a JSON text looks: its indentation, none for one line, and whether it is kept to ASCII. -/
structure Style where
  indent : Option Nat
  ascii : Bool
deriving DecidableEq, Repr

/-- Indented by two, all characters as they are. -/
def Style.document : Style := ⟨some 2, false⟩

/-- One line of ASCII. -/
def Style.line : Style := ⟨none, true⟩

/-- A UTF-16 unit as an escape. -/
def unitEscape (n : Nat) : List Char := '\\' :: 'u' :: hexDigits 4 n

/-- A character as one escape, or as two for a surrogate pair. -/
def charEscape (c : Char) : List Char :=
  let n := c.toNat
  if n < 0x10000 then unitEscape n
  else unitEscape (0xD800 + (n - 0x10000) / 0x400) ++ unitEscape (0xDC00 + (n - 0x10000) % 0x400)

/-- A character inside a string. -/
def printChar (ascii : Bool) (c : Char) : List Char :=
  if c = '"' ∨ c = '\\' then ['\\', c]
  else if c = '\n' then ['\\', 'n']
  else if c = '\r' then ['\\', 'r']
  else if c = '\t' then ['\\', 't']
  else if c.toNat = 8 then ['\\', 'b']
  else if c.toNat = 12 then ['\\', 'f']
  else if c.toNat < 32 ∨ (ascii ∧ 127 ≤ c.toNat) then charEscape c
  else [c]

/-- A string between quotes. -/
def printText (ascii : Bool) (s : String) : List Char :=
  '"' :: s.toList.flatMap (printChar ascii) ++ ['"']

/-- An integer. -/
def printInt (n : Int) : List Char :=
  (if n < 0 then ['-'] else []) ++ Nat.toDigits 10 n.natAbs

/-- A double, or a word. -/
def printDouble (x : Double) : List Char :=
  match x with
  | .nan => "NaN".toList
  | .infinity false => "Infinity".toList
  | .infinity true => "-Infinity".toList
  | .finite .. => x.textChars

/-- The line break before something at a depth, if the style has lines. -/
def gap (style : Style) (depth : Nat) : List Char :=
  style.indent.elim [] fun n => '\n' :: List.replicate (n * depth) ' '

/-- What follows a comma. -/
def afterComma (style : Style) (depth : Nat) : List Char :=
  style.indent.elim [' '] fun n => '\n' :: List.replicate (n * depth) ' '

mutual

/-- A value at a depth. -/
def printValue (style : Style) (depth : Nat) : Json → List Char
  | null => "null".toList
  | bool b => if b then "true".toList else "false".toList
  | int n => printInt n
  | float x => printDouble x
  | text s => printText style.ascii s
  | list [] => ['[', ']']
  | list (x :: xs) =>
    '[' :: gap style (depth + 1) ++ printValue style (depth + 1) x ++
      printItems style (depth + 1) xs ++ gap style depth ++ [']']
  | object [] => ['\x7b', '\x7d']
  | object ((key, x) :: members) =>
    '\x7b' :: gap style (depth + 1) ++ printText style.ascii key ++ ':' :: ' ' ::
      printValue style (depth + 1) x ++ printMembers style (depth + 1) members ++
      gap style depth ++ ['\x7d']

/-- The items after the first one. -/
def printItems (style : Style) (depth : Nat) : List Json → List Char
  | [] => []
  | x :: xs =>
    ',' :: afterComma style depth ++ printValue style depth x ++ printItems style depth xs

/-- The members after the first one. -/
def printMembers (style : Style) (depth : Nat) : List (String × Json) → List Char
  | [] => []
  | (key, x) :: members =>
    ',' :: afterComma style depth ++ printText style.ascii key ++ ':' :: ' ' ::
      printValue style depth x ++ printMembers style depth members

end

/-- The text of a value. -/
def print (style : Style) (value : Json) : String :=
  String.ofList (printValue style 0 value)

/-- Entries in the order of their keys. -/
def sortEntries {α : Type} (entries : List (String × α)) : List (String × α) :=
  entries.mergeSort fun a b => decide (a.1 ≤ b.1)

mutual

/-- A value whose objects list their members in the order of their keys. -/
def sortMembers : Json → Json
  | list items => list (sortItems items)
  | object members => object (sortEntries (sortWithin members))
  | null => null
  | bool b => bool b
  | int n => int n
  | float x => float x
  | text s => text s

/-- `sortMembers` on the items of a list. -/
def sortItems : List Json → List Json
  | [] => []
  | x :: xs => sortMembers x :: sortItems xs

/-- `sortMembers` on the values of members. -/
def sortWithin : List (String × Json) → List (String × Json)
  | [] => []
  | (key, x) :: members => (key, sortMembers x) :: sortWithin members

end

end InvoiceForms.Json
