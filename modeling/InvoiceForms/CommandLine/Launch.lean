import InvoiceForms.CommandLine.Options
import InvoiceForms.Journal.Entry

/-!
# Launching the server

`Launch.plan` says which servers a command line starts, what is reported, and with which status the
program ends when it starts none. Whether an address can be taken is given from outside.
-/

namespace InvoiceForms.CommandLine

open InvoiceForms.Text

/-- An address that the server takes, with the name of its use and the flag that sets its port. -/
structure Endpoint where
  label : String
  flag : Flag
  host : Option String
  port : Option Int
deriving DecidableEq, Repr, Inhabited

/-- A host in messages. -/
def hostText (host : Option String) : String := host.getD emptyOption

/-- A port in messages. -/
def portText (port : Option Int) : String := (port.map toString).getD emptyOption

/-- A port without a value cannot be held to the range of ports. -/
inductive LaunchFault
  | noPort
deriving DecidableEq, Repr

/-- The reason in words. -/
def LaunchFault.message : LaunchFault → String
  | noPort => "'<' not supported between instances of 'int' and 'list'"

namespace Endpoint

/-- The host and the port. -/
def address (e : Endpoint) : String := hostText e.host ++ ":" ++ portText e.port

/-- Whether the port is one. -/
def isValid (e : Endpoint) : Except LaunchFault Bool :=
  match e.port with
  | some port => .ok (decide (0 < port ∧ port ≤ 65535))
  | none => .error .noPort

/-- The first of some endpoints whose port is none. -/
def firstInvalid : List Endpoint → Except LaunchFault (Option Endpoint)
  | [] => .ok none
  | e :: rest => do if ← e.isValid then firstInvalid rest else return some e

end Endpoint

/-- A server that is started. -/
inductive Server
  | stdio
  | sse (host : Option String) (port : Option Int)
  | http (host : Option String) (port : Option Int)
deriving DecidableEq, Repr

/-- What a command line leads to. -/
structure Launch where
  journal : List JournalEntry
  servers : List Server := []
  status : Option Nat := none
deriving DecidableEq, Repr, Inhabited

namespace Launch

/-- An entry of the journal. -/
def entry (level : Level) (message : String) : JournalEntry :=
  { level := level, origin := "invoice_templates.cli", message := message }

/-- The endpoint of assistants. -/
def mcp (o : Options) : Endpoint := ⟨"MCP SSE", .mcpPort, o.mcpHost, o.mcpPort⟩

/-- The endpoint of the HTTP interface. -/
def http (o : Options) : Endpoint := ⟨"Template API", .httpPort, o.httpHost, o.httpPort⟩

/-- The first entry. -/
def starting (o : Options) (writes : Bool) : JournalEntry :=
  entry .info ("Starting template server (transport=" ++
    ((o.transport.map (·.word)).getD emptyOption) ++ ", mcp=" ++
    (mcp o).address ++ ", http=" ++ (http o).address ++ ", writes=" ++
    (if writes then "enabled" else "disabled") ++ ")")

/-- The entry about a port that is none. -/
def invalidPort (e : Endpoint) : JournalEntry :=
  entry .error ("Invalid " ++ e.flag.name ++ ": " ++ portText e.port ++
    " (must be between 1 and 65535)")

/-- The entry about two endpoints at one address. -/
def sameAddress (a b : Endpoint) : JournalEntry :=
  entry .error (a.flag.name ++ " and " ++ b.flag.name ++ " both bind " ++ a.address)

/-- The entry about an address that cannot be taken. -/
def unavailable (e : Endpoint) (reason : String) : JournalEntry :=
  entry .error (e.label ++ " port " ++ portText e.port ++ " is unavailable on " ++
    hostText e.host ++ ": " ++ reason ++ ". Use " ++ e.flag.name ++ " to pick a free port.")

/-- The entry about writing being switched off. -/
def writesDisabled : JournalEntry :=
  entry .warning "Write tools disabled (set MCP_ENABLE_WRITES=1 to enable writes)."

/-- The entry about the HTTP interface. -/
def serving (e : Endpoint) : JournalEntry :=
  entry .debug ("Template API on http://" ++ e.address ++ "/api/templates")

/-- The first of some endpoints that cannot be taken, and why. -/
def firstUnavailable (reason? : Endpoint → Option String) :
    List Endpoint → Option (Endpoint × String)
  | [] => none
  | e :: rest =>
    match reason? e with
    | some reason => some (e, reason)
    | none => firstUnavailable reason? rest

/-- Ends without a server. -/
def stop (journal : List JournalEntry) (last : JournalEntry) (status : Nat) : Launch :=
  { journal := journal ++ [last], status := some status }

/-- Starts the servers of the network. -/
def startNetwork (o : Options) (writes : Bool) (reason? : Endpoint → Option String) : Launch :=
  let first := [starting o writes]
  if o.mcpHost = o.httpHost ∧ o.mcpPort = o.httpPort then
    stop first (sameAddress (mcp o) (http o)) 2
  else
    match firstUnavailable reason? [mcp o, http o] with
    | some (e, reason) => stop first (unavailable e reason) 1
    | none =>
      { journal := first ++ (if writes then [] else [writesDisabled]) ++
          if o.debug then [serving (http o)] else []
        servers := [.sse o.mcpHost o.mcpPort, .http o.httpHost o.httpPort] }

/-- What options lead to, given whether writing is switched on and why an address cannot be taken.
-/
def plan (o : Options) (writes : Bool) (reason? : Endpoint → Option String) :
    Except LaunchFault Launch := do
  match ← Endpoint.firstInvalid [mcp o, http o] with
  | some e => return stop [starting o writes] (invalidPort e) 2
  | none =>
    match o.transport with
    | some .stdio => return { journal := [starting o writes], servers := [.stdio] }
    | _ => return startNetwork o writes reason?

end Launch

end InvoiceForms.CommandLine
