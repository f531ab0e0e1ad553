import InvoiceForms.CommandLine.Launch
import InvoiceForms.CommandLine.Reading
import InvoiceForms.Service.Settings

/-!
# The program

Reads the command line, reports to the error stream, and prints the servers that are to be started,
one on each line. Serving is left to the process that runs this one.
-/

namespace InvoiceForms.CommandLine

/-- The name of the program. -/
def programName : String := "invoice-templates-mcp"

/-- One flag in the usage text. -/
def usageOf (f : Flag) : String :=
  if f.takesValue then "[" ++ f.name ++ " VALUE]" else "[" ++ f.name ++ "]"

/-- The usage text. -/
def usage : String := "usage: " ++ programName ++ " " ++ Text.joinWith " " (Flag.all.map usageOf)

/-- The line of a server. -/
def serverLine : Server → String
  | .stdio => "stdio"
  | .sse host port => "sse " ++ hostText host ++ " " ++ portText port
  | .http host port => "http " ++ hostText host ++ " " ++ portText port

/-- The line of a journal entry. -/
def journalLine (e : JournalEntry) : String :=
  e.level.word ++ " " ++ e.origin ++ " " ++ e.message

end InvoiceForms.CommandLine

open InvoiceForms InvoiceForms.CommandLine

/-- Runs the program. -/
def main (arguments : List String) : IO UInt32 := do
  match Request.ofArguments arguments with
  | .error e =>
    IO.eprintln usage
    IO.eprintln (programName ++ ": error: " ++ e.message)
    return 2
  | .ok .help =>
    IO.println usage
    return 0
  | .ok (.start options) =>
    let writes := Settings.readSwitch (← IO.getEnv "MCP_ENABLE_WRITES") false
    match Launch.plan options writes fun _ => none with
    | .error e =>
      IO.eprintln e.message
      return 1
    | .ok launch =>
      for e in launch.journal do
        IO.eprintln (journalLine e)
      for s in launch.servers do
        IO.println (serverLine s)
      return (launch.status.getD 0).toUInt32
