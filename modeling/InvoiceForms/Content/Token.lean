import InvoiceForms.Text.Blank

/-!
# Tokens of content strings

A content string is text with expressions between double braces. `Token.scan` cuts it into tokens:
the expression of the first opening braces ends at the first closing braces after them, so matches
are leftmost and shortest. An empty expression is text. The raw texts of the tokens, put together,
are the content.
-/

namespace InvoiceForms

open InvoiceForms.Text

/-- What a token is. -/
inductive TokenKind
  | text
  | variable
  | index
  | opener
  | closer
deriving DecidableEq, Repr, Inhabited

/-- A token: what it is, its text in the content, and its meaning: the path of a variable or of a
loop, else the text of the expression. -/
structure Token where
  kind : TokenKind
  raw : String
  value : String
deriving DecidableEq, Repr, Inhabited

namespace Token

/-- Cuts a text at the first place where a character stands twice: what is before, and what is
after the two. -/
def cutPair (c : Char) : List Char → Option (List Char × List Char)
  | [] => none
  | [_] => none
  | a :: b :: rest =>
    if a = c ∧ b = c then some ([], rest)
    else (cutPair c (b :: rest)).map fun p => (a :: p.1, p.2)

/-- What starts a loop. -/
def loopMark : List Char := "loop:".toList

/-- What ends a loop. -/
def loopEnd : String := "/loop"

/-- What stands for the number of an item. -/
def itemNumber : String := "@index"

/-- The token of an expression, given its text with the braces. -/
def ofExpression (raw : String) (expression : List Char) : Token :=
  let e := String.ofList expression
  if expression = [] then ⟨.text, raw, raw⟩
  else if loopMark.isPrefixOf expression then
    ⟨.opener, raw, String.ofList (trim isBlank (expression.drop loopMark.length))⟩
  else if e = loopEnd then ⟨.closer, raw, e⟩
  else if e = itemNumber then ⟨.index, raw, e⟩
  else ⟨.variable, raw, e⟩

/-- The token of a text, when there is any. -/
def ofText (cs : List Char) : List Token :=
  if cs = [] then [] else [⟨.text, String.ofList cs, String.ofList cs⟩]

/-- The tokens of a text; one of the fuel is taken for each expression. -/
def scanFrom : Nat → List Char → List Token
  | 0, cs => ofText cs
  | fuel + 1, cs =>
    match cutPair '\x7b' cs with
    | none => ofText cs
    | some (before, rest) =>
      match cutPair '\x7d' rest with
      | none => ofText cs
      | some (inner, after) =>
        let raw := String.ofList ('\x7b' :: '\x7b' :: inner ++ ['\x7d', '\x7d'])
        ofText before ++ ofExpression raw (trim isBlank inner) :: scanFrom fuel after

/-- The tokens of a content string. -/
def scan (content : String) : List Token := scanFrom content.length content.toList

/-- The texts of tokens, put together. -/
def rawText (tokens : List Token) : String := String.join (tokens.map (·.raw))

end Token

end InvoiceForms
