/-!
# Blanks and trimming

Two classes of blank characters are in use. `isWhiteSpace` is the Unicode property; field values are
trimmed by it. `isBlank` adds the four information separators; content expressions, cells and ids
are trimmed by it. `trim` takes the class as an argument and removes blanks at both ends only.
-/

namespace InvoiceForms.Text

/-- Unicode's `White_Space` property. -/
def isWhiteSpace (c : Char) : Bool :=
  let n := c.toNat
  (9 ≤ n && n ≤ 13) || n == 0x20 || n == 0x85 || n == 0xA0 || n == 0x1680 ||
    (0x2000 ≤ n && n ≤ 0x200A) || n == 0x2028 || n == 0x2029 || n == 0x202F || n == 0x205F ||
    n == 0x3000

/-- White space, or one of the information separators U+001C to U+001F. -/
def isBlank (c : Char) : Bool :=
  isWhiteSpace c || (0x1C ≤ c.toNat && c.toNat ≤ 0x1F)

/-- Removes the longest run at the end whose characters all satisfy `p`. -/
def dropEndWhile (p : Char → Bool) (cs : List Char) : List Char :=
  (cs.reverse.dropWhile p).reverse

/-- Removes the runs at both ends whose characters all satisfy `p`. -/
def trim (p : Char → Bool) (cs : List Char) : List Char :=
  dropEndWhile p (cs.dropWhile p)

/-- A string without white space at its ends. -/
def trimWhiteSpace (s : String) : String :=
  String.ofList (trim isWhiteSpace s.toList)

/-- A string without blanks at its ends. -/
def trimBlank (s : String) : String :=
  String.ofList (trim isBlank s.toList)

/-- Lower case of the letters A to Z; every other character stays. -/
def lowerAscii (s : String) : String :=
  String.ofList (s.toList.map Char.toLower)

end InvoiceForms.Text
