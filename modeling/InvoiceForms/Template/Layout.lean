import InvoiceForms.Record.Schema

/-!
# Page layouts

The page format, margins in millimetres, fonts and colors of a template. Colors are written as three
or six hexadecimal digits after a number sign and kept in lower case.
-/

namespace InvoiceForms

open InvoiceForms.Number InvoiceForms.Record InvoiceForms.Text

/-- A page format. -/
inductive PageFormat
  | a4
  | a5
  | letter
deriving DecidableEq, Repr, Inhabited

namespace PageFormat

/-- All page formats. -/
def all : List PageFormat := [a4, a5, letter]

/-- The name of a page format. -/
def word : PageFormat → String
  | a4 => "A4"
  | a5 => "A5"
  | letter => "Letter"

end PageFormat

/-- Page margins in millimetres. -/
structure Margins where
  top : Double := .ofInt 20
  right : Double := .ofInt 15
  bottom : Double := .ofInt 20
  left : Double := .ofInt 15
deriving DecidableEq, Repr, Inhabited

/-- The schema of margins. -/
def Margins.schema : Schema Margins where
  title := "Margins"
  fields := [
    .optional "top" "top" (.double .nonNegative) (·.top) fun x r => { r with top := x },
    .optional "right" "right" (.double .nonNegative) (·.right) fun x r => { r with right := x },
    .optional "bottom" "bottom" (.double .nonNegative) (·.bottom)
      fun x r => { r with bottom := x },
    .optional "left" "left" (.double .nonNegative) (·.left) fun x r => { r with left := x }]
  extras := .forbid
  blank := {}

/-- A font family and the sizes in use. -/
structure Fonts where
  family : String := "Arial, sans-serif"
  heading : Int := 24
  subheading : Int := 18
  body : Int := 12
  small : Int := 10
deriving DecidableEq, Repr, Inhabited

/-- The schema of fonts. -/
def Fonts.schema : Schema Fonts where
  title := "Fonts"
  fields := [
    .optional "family" "family" (.text .free) (·.family) fun x r => { r with family := x },
    .optional "heading" "heading" (.int .positive) (·.heading)
      fun x r => { r with heading := x },
    .optional "subheading" "subheading" (.int .positive) (·.subheading)
      fun x r => { r with subheading := x },
    .optional "body" "body" (.int .positive) (·.body) fun x r => { r with body := x },
    .optional "small" "small" (.int .positive) (·.small) fun x r => { r with small := x }]
  extras := .forbid
  blank := {}

/-- Whether a character is a hexadecimal digit. -/
def isHexDigit (c : Char) : Bool :=
  isAsciiDigit c || ('a' ≤ c && c ≤ 'f') || ('A' ≤ c && c ≤ 'F')

/-- Whether a text is a color. -/
def isColor (cs : List Char) : Bool :=
  match cs with
  | '#' :: ds => (ds.length = 3 || ds.length = 6) && ds.all isHexDigit
  | _ => false

/-- The lower case of a color, or why a text is none. -/
def normalColor (s : String) : Except String String :=
  if isColor s.toList then .ok (lowerAscii s)
  else .error ("'" ++ s ++ "' is not a hex color like #aabbcc")

/-- The colors of a page. -/
structure Colors where
  primary : String := "#8b4a8b"
  secondary : String := "#f5f5f5"
  text : String := "#333333"
  accent : String := "#4caf50"
deriving DecidableEq, Repr, Inhabited

/-- What color fields take. -/
def Colors.codec : Codec String := .textVia .free normalColor

/-- The schema of colors. -/
def Colors.schema : Schema Colors where
  title := "Colors"
  fields := [
    .optional "primary" "primary" codec (·.primary) fun x r => { r with primary := x },
    .optional "secondary" "secondary" codec (·.secondary) fun x r => { r with secondary := x },
    .optional "text" "text" codec (·.text) fun x r => { r with text := x },
    .optional "accent" "accent" codec (·.accent) fun x r => { r with accent := x }]
  extras := .forbid
  blank := {}

/-- What a page looks like. -/
structure Layout where
  pageFormat : PageFormat := .a4
  margins : Margins := {}
  fonts : Fonts := {}
  colors : Colors := {}
deriving DecidableEq, Repr, Inhabited

/-- The schema of layouts. -/
def Layout.schema : Schema Layout where
  title := "Layout"
  fields := [
    .optional "page_format" "pageFormat" (.choice PageFormat.all PageFormat.word) (·.pageFormat)
      fun x r => { r with pageFormat := x },
    .optional "margins" "margins" Margins.schema.codec (·.margins)
      fun x r => { r with margins := x },
    .optional "fonts" "fonts" Fonts.schema.codec (·.fonts) fun x r => { r with fonts := x },
    .optional "colors" "colors" Colors.schema.codec (·.colors) fun x r => { r with colors := x }]
  extras := .forbid
  blank := {}

end InvoiceForms
