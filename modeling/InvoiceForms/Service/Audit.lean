import InvoiceForms.Json.Printer
import InvoiceForms.Store.Program
import InvoiceForms.Text.Encoding

/-!
# Auditing

Every attempt to write is reported to the journal and, where a file is given, appended to it as one
line of JSON. When that fails the attempt goes on, with a warning.
-/

namespace InvoiceForms.Audit

open InvoiceForms.Text

/-- A journal entry of auditing. -/
def entry (level : Level) (message : String) (details : Entries Json) : JournalEntry :=
  { level := level, origin := "invoice_templates.audit", message := message, details := details }

/-- The line of an attempt. -/
def line (time tool templateId : String) : String :=
  Json.print .line (.object [("template_id", .text templateId), ("timestamp", .text time),
    ("tool", .text tool)]) ++ "\n"

/-- Appends a line to a file, making its directory first. -/
def appendLine (file : Path) (text : String) : Program (Except FileFault Unit) := do
  match ← Program.perform (.makeDirectories file.dropLast) with
  | .error e => return .error e
  | .ok _ => Program.perform (.append file (encode text))

/-- Records an attempt of a tool to write a template. -/
def record (file : Option Path) (tool templateId : String) : Program Unit := do
  Program.perform (.report (entry .info ("Write attempt via " ++ tool)
    [("tool", .text tool), ("template_id", .text templateId)]))
  match file with
  | none => return ()
  | some file =>
    let time ← Program.perform .now
    match ← appendLine file (line time tool templateId) with
    | .ok _ => return ()
    | .error e =>
      Program.perform (.report (entry .warning
        ("Could not write audit log " ++ file.shown ++ ": " ++ e.message) []))

end InvoiceForms.Audit
