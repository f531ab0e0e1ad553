/-!
# Markup

A page is a list of pieces: markup that the page itself consists of, and slots that data is put
into. Data is escaped when the page is written, so it never adds markup.
-/

namespace InvoiceForms

/-- A piece of a page. -/
inductive MarkupPiece
  | markup (s : String)
  | slot (data : String)
deriving DecidableEq, Repr

/-- A page, or a part of one. -/
abbrev Markup := List MarkupPiece

namespace Markup

/-- A character of data in a page. -/
def escapeChar (c : Char) : List Char :=
  if c = '&' then "&amp;".toList
  else if c = '<' then "&lt;".toList
  else if c = '>' then "&gt;".toList
  else if c = '\'' then "&#39;".toList
  else if c = '"' then "&#34;".toList
  else [c]

/-- Data in a page. -/
def escape (s : String) : String := String.ofList (s.toList.flatMap escapeChar)

/-- The text of a piece. -/
def pieceText : MarkupPiece → String
  | .markup s => s
  | .slot data => escape data

/-- The text of a page. -/
def text (page : Markup) : String := String.join (page.map pieceText)

/-- A part that is there only under a condition. -/
def when (condition : Bool) (part : Markup) : Markup := if condition then part else []

end Markup

end InvoiceForms
