import InvoiceForms.Text.Quoted
import InvoiceForms.Text.Split

/-!
# Options of the command line

The flags that the server knows, the options they set, and what can be wrong with the words of a
command line.
-/

namespace InvoiceForms.CommandLine

open InvoiceForms.Text

/-- How the server talks to assistants. -/
inductive Transport
  | stdio
  | sse
deriving DecidableEq, Repr, Inhabited

namespace Transport

/-- All transports. -/
def all : List Transport := [stdio, sse]

/-- The word for a transport. -/
def word : Transport → String
  | stdio => "stdio"
  | sse => "sse"

/-- The transport with a word. -/
def ofWord? (s : String) : Option Transport := all.find? (·.word = s)

end Transport

/-- The options of the server. A flag whose value is the separator of the command line leaves its
option without any. -/
structure Options where
  transport : Option Transport := some .sse
  mcpHost : Option String := some "127.0.0.1"
  mcpPort : Option Int := some 8099
  httpHost : Option String := some "127.0.0.1"
  httpPort : Option Int := some 8081
  debug : Bool := false
deriving DecidableEq, Repr, Inhabited

/-- The text of an option without a value. -/
def emptyOption : String := "[]"

/-- The flags of the server. -/
inductive Flag
  | help
  | transport
  | mcpHost
  | mcpPort
  | httpHost
  | httpPort
  | debug
deriving DecidableEq, Repr, Inhabited

namespace Flag

/-- All flags, in the order of the help text. -/
def all : List Flag := [help, transport, mcpHost, mcpPort, httpHost, httpPort, debug]

/-- The long name of a flag. -/
def name : Flag → String
  | help => "--help"
  | transport => "--transport"
  | mcpHost => "--mcp-host"
  | mcpPort => "--mcp-port"
  | httpHost => "--http-host"
  | httpPort => "--http-port"
  | debug => "--debug"

/-- The only flag with a name of one letter. -/
def short : Flag := help

/-- The name of `short`. -/
def shortName : String := "-h"

/-- A flag in messages. -/
def shown (f : Flag) : String := if f = short then shortName ++ "/" ++ f.name else f.name

/-- Whether a flag takes a value. -/
def takesValue : Flag → Bool
  | help => false
  | debug => false
  | _ => true

/-- The flag with a name. -/
def ofName? (s : String) : Option Flag :=
  if s = shortName then some short else all.find? (·.name = s)

/-- The flags whose long names start with some characters. -/
def startingWith (start : List Char) : List Flag :=
  all.filter fun f => start.isPrefixOf f.name.toList

end Flag

/-- What is wrong with a command line. -/
inductive OptionFault
  | ambiguous (word : String) (flags : List Flag)
  | valueExpected (flag : Flag)
  | valueIgnored (flag : Flag) (value : String)
  | badNumber (flag : Flag) (value : String)
  | badChoice (flag : Flag) (value : String)
  | unrecognized (words : List String)
deriving DecidableEq, Repr

namespace OptionFault

/-- A message about a flag. -/
def about (flag : Flag) (message : String) : String := "argument " ++ flag.shown ++ ": " ++ message

/-- A fault in words. -/
def message : OptionFault → String
  | ambiguous word flags =>
    "ambiguous option: " ++ word ++ " could match " ++ joinWith ", " (flags.map (·.name))
  | valueExpected flag => about flag "expected one argument"
  | valueIgnored flag value => about flag ("ignored explicit argument " ++ quoted value)
  | badNumber flag value => about flag ("invalid int value: " ++ quoted value)
  | badChoice flag value =>
    about flag ("invalid choice: " ++ quoted value ++ " (choose from " ++
      joinWith ", " (Transport.all.map fun t => quoted t.word) ++ ")")
  | unrecognized words => "unrecognized arguments: " ++ joinWith " " words

end OptionFault

end InvoiceForms.CommandLine
