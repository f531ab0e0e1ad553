import InvoiceForms.CommandLine.Options
import InvoiceForms.Number.Numeral
import InvoiceForms.Text.Digits

/-!
# Reading command lines

Each word is first classed as a flag, perhaps with a value behind an equals sign, or as plain. Long
names may be shortened as long as one flag fits. Then the words are taken from left to right: a flag
that needs a value takes the plain word after it. The request for help ends the reading; words that
no flag takes are an error at the end.
-/

namespace InvoiceForms.CommandLine

open InvoiceForms.Number InvoiceForms.Text

/-- A word of a command line. The letters of a cluster stand behind the short name of a flag. -/
inductive Word
  | plain (s : String)
  | separator
  | flag (f : Flag) (value : Option String)
  | cluster (letters : List Char)
  | unknown (s : String)
deriving DecidableEq, Repr

namespace Word

/-- The word after which all words are plain. -/
def separatorText : String := "--"

/-- What a word is about: its part in front of the first equals sign, and the part behind it. -/
def cut (cs : List Char) : List Char × Option String :=
  match cs.span (· ≠ '=') with
  | (name, _ :: value) => (name, some (String.ofList value))
  | (name, []) => (name, none)

/-- Whether characters are digits with at most one point, which is followed by some. -/
def isUnsignedNumber (cs : List Char) : Bool :=
  let isDigit (c : Char) : Bool := (decimalValue? c).isSome
  match cs.span isDigit with
  | (whole, []) => !whole.isEmpty
  | (_, '.' :: places) => !places.isEmpty && places.all isDigit
  | _ => false

/-- Whether a word looks like a negative number; a line may end behind it. -/
def isNegativeNumber : List Char → Bool
  | '-' :: cs => isUnsignedNumber (if cs.getLast? = some '\n' then cs.dropLast else cs)
  | _ => false

/-- A word that names no flag in full. -/
def ofOther (s : String) : Word :=
  if isNegativeNumber s.toList || s.toList.any (· = ' ') then .plain s else .unknown s

/-- A word that starts with two minus signs and is no flag's name: the start of one. -/
def ofLong (s : String) : Except OptionFault Word :=
  let (start, value) := cut s.toList
  match Flag.startingWith start with
  | [] => .ok (ofOther s)
  | [f] => .ok (.flag f value)
  | flags => .error (.ambiguous s flags)

/-- A flag, by one of its names, with a value behind an equals sign. Behind the short name it is a
cluster like what stands there without the sign, unless it is empty. -/
def ofValued (f : Flag) (name value : String) : Word :=
  if name = Flag.shortName ∧ value ≠ "" then .cluster value.toList else .flag f (some value)

/-- A word that starts with a minus sign. -/
def ofDashed (s : String) : Except OptionFault Word :=
  match Flag.ofName? s, cut s.toList with
  | some f, _ => .ok (.flag f none)
  | none, (name, value) =>
    match value, Flag.ofName? (String.ofList name) with
    | some v, some f => .ok (ofValued f (String.ofList name) v)
    | _, _ =>
      match s.toList with
      | '-' :: '-' :: _ => ofLong s
      | '-' :: 'h' :: letters => .ok (.cluster letters)
      | _ => .ok (ofOther s)

/-- A word before any separator. -/
def ofText (s : String) : Except OptionFault Word :=
  if s = separatorText then .ok .separator
  else if s.toList.head? ≠ some '-' ∨ s = "-" then .ok (.plain s)
  else ofDashed s

/-- The words of a command line. -/
def ofTexts : List String → Except OptionFault (List Word)
  | [] => .ok []
  | s :: rest => do
    match ← ofText s with
    | .separator => return .separator :: rest.map .plain
    | w => return w :: (← ofTexts rest)

end Word

namespace Options

/-- Sets a number. -/
def number (flag : Flag) (value : String) (set : Int → Options) : Except OptionFault Options :=
  match readInteger value.toList with
  | .ok n => .ok (set n)
  | .error _ => .error (.badNumber flag value)

/-- Gives a flag a value. -/
def set (o : Options) (flag : Flag) (value : String) : Except OptionFault Options :=
  match flag with
  | .transport =>
    match Transport.ofWord? value with
    | some t => .ok { o with transport := t }
    | none => .error (.badChoice flag value)
  | .mcpHost => .ok { o with mcpHost := value }
  | .mcpPort => number flag value fun n => { o with mcpPort := n }
  | .httpHost => .ok { o with httpHost := value }
  | .httpPort => number flag value fun n => { o with httpPort := n }
  | .help => .ok o
  | .debug => .ok o

/-- Leaves the option of a flag without a value. -/
def clear (o : Options) : Flag → Options
  | .transport => { o with transport := none }
  | .mcpHost => { o with mcpHost := none }
  | .mcpPort => { o with mcpPort := none }
  | .httpHost => { o with httpHost := none }
  | .httpPort => { o with httpPort := none }
  | .help => o
  | .debug => o

/-- Gives a flag the value behind its equals sign. The separator is taken out of it, so that nothing
is left. -/
def setBehindSign (o : Options) (flag : Flag) (value : String) : Except OptionFault Options :=
  if value = Word.separatorText then .ok (o.clear flag) else o.set flag value

end Options

/-- What a command line asks for. -/
inductive Request
  | help
  | start (options : Options)
deriving DecidableEq, Repr

namespace Request

/-- What a cluster asks for. Each letter is a flag of its own; what stands behind one that is none
is no value that any of them takes. -/
def ofCluster : List Char → Except OptionFault Request
  | [] => .ok .help
  | 'h' :: letters => ofCluster letters
  | letters => .error (.valueIgnored Flag.short (String.ofList letters))

/-- Reads words: the options so far, and the words so far that no flag took. -/
def ofWords (o : Options) (left : List String) : List Word → Except OptionFault Request
  | [] => if left = [] then .ok (.start o) else .error (.unrecognized left)
  | .plain s :: rest => ofWords o (left ++ [s]) rest
  | .separator :: rest => ofWords o (left ++ [Word.separatorText]) rest
  | .unknown s :: rest => ofWords o (left ++ [s]) rest
  | .cluster letters :: _ => ofCluster letters
  | .flag .help none :: _ => .ok .help
  | .flag .help (some value) :: _ => .error (.valueIgnored .help value)
  | .flag .debug none :: rest => ofWords { o with debug := true } left rest
  | .flag .debug (some value) :: _ => .error (.valueIgnored .debug value)
  | .flag f (some value) :: rest => do ofWords (← o.setBehindSign f value) left rest
  | .flag f none :: .plain value :: rest => do ofWords (← o.set f value) left rest
  | .flag f none :: _ => .error (.valueExpected f)

/-- Reads a command line. -/
def ofArguments (arguments : List String) : Except OptionFault Request := do
  ofWords {} [] (← Word.ofTexts arguments)

end Request

end InvoiceForms.CommandLine
