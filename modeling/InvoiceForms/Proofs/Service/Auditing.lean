import InvoiceForms.Proofs.Json.Lines
import InvoiceForms.Proofs.Service.ToolDeeds
import InvoiceForms.Proofs.Store.Places

/-!
# What the log of attempts tells

The tools that read a store change none of its files, and those that write it record each attempt
before anything else. So a call that leaves no line in the log leaves everything as it was, and a line
is there for each call that may have changed something, however it ended.
-/

namespace InvoiceForms

open InvoiceForms.Text
open Runner (program)

namespace FileTree

variable {t : FileTree} {p d : Path} {name : String} {content line : ByteArray}

/-- Whether something can be appended to the file at a path: the directories that lead to it are there
or can be made, and so is the file. -/
def TakesLines (t : FileTree) (p : Path) : Prop :=
  ∃ made, t.makeDirectories p.dropLast = .ok made ∧ ∃ appended, made.append p .empty = .ok appended

/-- What the file at a path holds: nothing if there is none. -/
def contentAt (t : FileTree) (p : Path) : ByteArray :=
  match t.node? p with
  | some (.file content) => content
  | _ => .empty

theorem contentAt_of_node? (there : t.node? p = some (.file content)) : t.contentAt p = content := by
  unfold contentAt
  rw [there]

/-- What lines can be appended to has a name in a directory. -/
theorem TakesLines.split (takes : t.TakesLines p) : ∃ d name, p = d ++ [name] := by
  obtain ⟨made, -, appended, given⟩ := takes
  cases p using List.reverseRecOn with
  | nil => exact absurd rfl (node?_ne_directory_of_update given)
  | append_singleton d name => exact ⟨d, name, rfl⟩

/-- A file in a directory that is reached takes lines. -/
theorem takesLines_of_node? (reached : t.Reached d) (fits : Fits d name)
    (there : t.node? (d ++ [name]) = some (.file content)) : t.TakesLines (d ++ [name]) := by
  refine ⟨t, ?_, t.put (d ++ [name]) (.file (content ++ .empty)), ?_⟩
  · rw [List.dropLast_concat]
    exact makeDirectories_of_reached reached (tooLong_of_concat fits.path)
  · unfold append
    rw [fits.update_eq reached, there]

/-- Where lines can be appended, a line comes behind what the file held. -/
theorem TakesLines.appended (takes : t.TakesLines (d ++ [name])) (line : ByteArray) :
    ∃ made appended, t.makeDirectories d = .ok made ∧
      made.append (d ++ [name]) line = .ok appended ∧ appended.Reached d ∧ Fits d name ∧
      appended.node? (d ++ [name]) = some (.file (t.contentAt (d ++ [name]) ++ line)) := by
  obtain ⟨made, makes, emptied, given⟩ := takes
  rw [List.dropLast_concat] at makes
  obtain ⟨fits, noDirectory⟩ := of_update given
  have reached := (reached_of_makeDirectories makes).1
  have aside : ¬ d ++ [name] <+: d := fun way => by simpa using way.length_le
  have held : made.contentAt (d ++ [name]) = t.contentAt (d ++ [name]) := by
    unfold contentAt
    rw [node?_of_makeDirectories makes aside]
  have appends : made.append (d ++ [name]) line =
      .ok (made.put (d ++ [name]) (.file (made.contentAt (d ++ [name]) ++ line))) := by
    unfold append contentAt
    rw [fits.update_eq reached]
    cases there : made.node? (d ++ [name]) with
    | none => rfl
    | some n =>
      cases n with
      | file old => rfl
      | directory => exact absurd there noDirectory
  refine ⟨made, _, makes, appends, ?_, fits, ?_⟩
  · exact reached.of_directories fun q there =>
      (node?_of_update_of_directory there appends).trans there
  · rw [node?_put_self (by simp), held]

end FileTree

namespace Audit

variable {w : World} {d : Path} {name : String}

/-- Whether a text is one line. -/
def IsLine (s : String) : Prop := ∃ entry, '\n' ∉ entry ∧ s.toList = entry ++ ['\n']

/-- What is recorded is one line, whatever the time and the names are. -/
theorem isLine_line (time tool templateId : String) : IsLine (line time tool templateId) := by
  refine ⟨_, ?_, String.toList_append⟩
  have texts (s : String) : '\n' ∉ Json.printText true s :=
    fun member => absurd (Json.le_toNat_of_mem_printText member) (by decide)
  simp only [Json.print, String.toList_ofList, Json.printValue, Json.printMembers, Json.Style.line,
    Json.gap, Json.afterComma, Option.elim, List.mem_cons, List.mem_append, List.not_mem_nil, or_false,
    not_or, List.cons_append, List.nil_append]
  have plain : '\n' ≠ '\x7b' ∧ '\n' ≠ '\x7d' ∧ '\n' ≠ ':' ∧ '\n' ≠ ' ' ∧ '\n' ≠ ',' := by decide
  obtain ⟨opening, closing, colon, blank, comma⟩ := plain
  simp only [texts, opening, closing, colon, blank, comma, not_false_eq_true, and_self]

/-- What a line is appended to is longer than before. -/
theorem append_ne_of_isLine {text : String} (isLine : IsLine text) (content : ByteArray) :
    content ++ encode text ≠ content := by
  obtain ⟨entry, -, chars⟩ := isLine
  intro same
  have size := congrArg ByteArray.size same
  rw [ByteArray.size_append] at size
  have nothing : text.utf8ByteSize = 0 := by
    rw [← String.size_toByteArray]
    exact Nat.add_eq_left.mp size
  rw [String.utf8ByteSize_eq_zero_iff.mp nothing] at chars
  exact absurd chars (by simp)

/-- A line that is appended comes behind those in the file, and nothing keeps the next one out. -/
theorem run_appendLine (takes : w.tree.TakesLines (d ++ [name])) (text : String) :
    ∃ tree, (appendLine (d ++ [name]) text).run w = (.ok (), { w with tree := tree }) ∧
      tree.Reached d ∧ FileTree.Fits d name ∧
      tree.node? (d ++ [name]) =
        some (.file (w.tree.contentAt (d ++ [name]) ++ encode text)) := by
  obtain ⟨made, appended, makes, appends, reached, fits, there⟩ := takes.appended (encode text)
  have first : w.perform (.makeDirectories d) = (.ok (), { w with tree := made }) :=
    congrArg w.change makes
  have second : World.perform { w with tree := made } (.append (d ++ [name]) (encode text)) =
      (.ok (), { w with tree := appended }) := congrArg (World.change _) appends
  refine ⟨appended, ?_, reached, fits, there⟩
  unfold appendLine
  rw [List.dropLast_concat, Program.run_perform_bind, first]
  exact second

/-- A recorded attempt is a line behind those in the log. -/
theorem run_record (takes : w.tree.TakesLines (d ++ [name])) (tool templateId : String) :
    ∃ w', (record (some (d ++ [name])) tool templateId).run w = ((), w') ∧
      w'.tree.Reached d ∧ FileTree.Fits d name ∧
      w'.tree.node? (d ++ [name]) = some (.file
        (w.tree.contentAt (d ++ [name]) ++ encode (line w.clock tool templateId))) := by
  unfold record
  rw [Program.run_perform_bind]
  dsimp only
  rw [Program.run_perform_bind]
  let told : JournalEntry := entry .info ("Write attempt via " ++ tool)
    [("tool", .text tool), ("template_id", .text templateId)]
  let w₁ : World := { w with journal := w.journal ++ [told] }
  obtain ⟨tree, appends, reached, fits, there⟩ :=
    run_appendLine (w := w₁) takes (line w.clock tool templateId)
  refine ⟨{ w₁ with tree := tree }, ?_, reached, fits, there⟩
  refine (Program.run_bind (appendLine (d ++ [name]) (line w.clock tool templateId)) _ w₁).trans ?_
  rw [appends]
  rfl

end Audit

/-- A call of a tool that works on templates. -/
inductive TemplateCall
  | list
  | get (id : Value)
  | validate (given : Option Template) (id : Value)
  | render (request : RenderRequest)
  | preview (id language : Value)
  | change (call : ToolCall)

namespace TemplateCall

/-- What a call does. -/
def program (s : Settings) : TemplateCall → ServiceProgram Json
  | list => Tools.listTemplates s
  | get id => Tools.getTemplate s id
  | validate given id => Tools.validateTemplate s given id
  | render request => Tools.renderInvoiceDocument s request
  | preview id language => Tools.previewTemplate s id language
  | change call => call.program s

/-- The tool and the id that a call is recorded with, if it is. -/
def attempt? (s : Settings) : TemplateCall → Option (String × String)
  | change call => call.attempt? s
  | list | get _ | validate _ _ | render _ | preview _ _ => none

/-- What a call owes to the log: one line for an attempt and none otherwise, and no change without a
line. -/
structure Accounted (s : Settings) (file : Path) (call : TemplateCall) (before after : World) : Prop where
  recorded (tool id : String) : call.attempt? s = some (tool, id) →
    Audit.IsLine (Audit.line before.clock tool id) ∧ after.tree.contentAt file =
      before.tree.contentAt file ++ encode (Audit.line before.clock tool id)
  silent : call.attempt? s = none → after.tree.contentAt file = before.tree.contentAt file
  unchanged : after.tree.contentAt file = before.tree.contentAt file → after.tree = before.tree

variable {s : Settings} {file : Path} {call : TemplateCall} {w : World}

/-- A call that is not recorded leaves all files as they are. -/
theorem tree_of_unrecorded (unrecorded : call.attempt? s = none) :
    (Runner.program.after (call.program s) w).tree = w.tree := by
  have leaves {x : ServiceProgram Json} (looks : Only (fun _ => True) Action.Looks x) :
      (Runner.program.after x w).tree = w.tree := Program.Only.tree_run looks fun _ => trivial
  cases call with
  | list => exact leaves Tools.looks_listTemplates
  | get id => exact leaves (Tools.looks_getTemplate id)
  | validate given id => exact leaves (Tools.looks_validateTemplate given id)
  | render request => exact leaves (Tools.looks_renderInvoiceDocument request)
  | preview id language => exact leaves (Tools.looks_previewTemplate id language)
  | change call =>
    obtain ⟨e, refused⟩ := call.program_of_unrecorded unrecorded
    show (Runner.program.after (call.program s) w).tree = w.tree
    rw [refused]
    exact leaves (only_throw e)

section Log

variable (logs : s.audit = some file) (outside : ¬ s.store.root <+: file)

include logs outside

/-- A call that is recorded leaves one line more in the log, whatever comes of it, and nothing keeps the
next one out. -/
theorem log_of_recorded {tool id : String} (takes : w.tree.TakesLines file)
    (recorded : call.attempt? s = some (tool, id)) :
    (Runner.program.after (call.program s) w).tree.TakesLines file ∧
      (Runner.program.after (call.program s) w).tree.contentAt file =
        w.tree.contentAt file ++ encode (Audit.line w.clock tool id) := by
  cases call with
  | change call =>
    obtain ⟨body, same, does⟩ := call.program_of_recorded (fun _ => True) recorded
    obtain ⟨d, name, rfl⟩ := takes.split
    obtain ⟨w₁, run, reached, fits, there⟩ := Audit.run_record takes tool id
    have ran : Runner.program.after (call.program s) w = Runner.program.after body w₁ := by
      rw [same]
      unfold Runner.after
      rw [Runner.outcome_bind]
      have recorded' : Runner.program.outcome (Tools.recordAttempt s tool id) w = (.ok (), w₁) := by
        unfold Tools.recordAttempt
        rw [Runner.outcome_lift, logs]
        show (_, ((Audit.record _ tool id).run w).2) = _
        rw [run]
      rw [recorded']
    show (Runner.program.after (call.program s) w).tree.TakesLines _ ∧
      (Runner.program.after (call.program s) w).tree.contentAt _ = _
    rw [ran]
    have there' : (Runner.program.after body w₁).tree.node? (d ++ [name]) = some (.file
        (w.tree.contentAt (d ++ [name]) ++ encode (Audit.line w.clock tool id))) :=
      FileStore.node?_run_of_deeds outside (fun _ => trivial) there does
    have reached' : (Runner.program.after body w₁).tree.Reached d := Program.reached_run reached
    exact ⟨FileTree.takesLines_of_node? reached' fits there', FileTree.contentAt_of_node? there'⟩
  | _ => cases recorded

theorem accounted (takes : w.tree.TakesLines file) :
    call.Accounted s file w (Runner.program.after (call.program s) w) where
  recorded tool id given :=
    ⟨Audit.isLine_line _ _ _, (log_of_recorded logs outside takes given).2⟩
  silent given := by rw [tree_of_unrecorded given]
  unchanged same := by
    cases given : call.attempt? s with
    | none => exact tree_of_unrecorded given
    | some attempt =>
      rw [(log_of_recorded logs outside takes given).2] at same
      exact absurd same (Audit.append_ne_of_isLine (Audit.isLine_line _ _ _) _)

end Log

end TemplateCall

namespace Settings

/-- What may happen to a world: a tool is called, with writing on or off, or something else changes than
the files. -/
inductive Serves (s : Settings) : World → World → Prop
  | call {w : World} (writes : Bool) (call : TemplateCall) :
    Serves s w (program.after (call.program { s with writes := writes }) w)
  | other {w w' : World} (same : w'.tree = w.tree) : Serves s w w'

variable {s : Settings} {file : Path} {w w' : World}

section Log

variable (logs : s.audit = some file) (outside : ¬ s.store.root <+: file)

include logs outside

/-- What happens keeps the log open. -/
theorem takesLines_of_serves (serves : s.Serves w w') (takes : w.tree.TakesLines file) :
    w'.tree.TakesLines file := by
  cases serves with
  | call writes call =>
    let here : Settings := { s with writes := writes }
    cases given : call.attempt? here with
    | none => rwa [TemplateCall.tree_of_unrecorded given]
    | some attempt =>
      have kept := TemplateCall.log_of_recorded (s := here) logs outside takes given
      exact kept.1
  | other same => rwa [same]

theorem takesLines_of_history (history : Relation.ReflTransGen s.Serves w w')
    (takes : w.tree.TakesLines file) : w'.tree.TakesLines file := by
  induction history with
  | refl => exact takes
  | tail _ last ih => exact takesLines_of_serves logs outside last ih

/-- Whatever tools were called before, with writing on or off: a call leaves one line in the log if it
is an attempt to write, no line otherwise, and no change without a line. -/
theorem changes_leave_lines (takes : w.tree.TakesLines file)
    (history : Relation.ReflTransGen s.Serves w w') (writes : Bool) (call : TemplateCall) :
    call.Accounted { s with writes := writes } file w'
      (program.after (call.program { s with writes := writes }) w') :=
  TemplateCall.accounted logs outside (takesLines_of_history logs outside history takes)

end Log

/-- A service that records attempts to write. -/
def audited : Settings := { writable with audit := some ["logs", "audit.log"] }

/-- Of a listing and a deletion of nothing, the deletion is recorded, though it is refused. -/
theorem refused_deletion_leaves_line :
    let file : Path := ["logs", "audit.log"]
    let deletion : TemplateCall := .change (.delete (.text "chair"))
    let listed := program.after (TemplateCall.list.program { audited with writes := false }) {}
    audited.audit = some file ∧ ¬ audited.store.root <+: file ∧ FileTree.TakesLines {} file ∧
      Relation.ReflTransGen audited.Serves {} listed ∧
      program.answer (deletion.program audited) listed =
        .error (.refusal "Template chair not found") ∧
      (program.after (deletion.program audited) listed).tree.contentAt file =
        encode (Audit.line "" "delete_template" "chair") := by
  intro file deletion listed
  have outside : ¬ audited.store.root <+: file := by decide
  have takes : FileTree.TakesLines {} file := ⟨_, rfl, _, rfl⟩
  have history : Relation.ReflTransGen audited.Serves {} listed := .single (.call false .list)
  have accounted : deletion.Accounted audited file listed _ :=
    changes_leave_lines rfl outside takes history true deletion
  refine ⟨rfl, outside, takes, history, by decide, ?_⟩
  obtain ⟨-, lines⟩ := accounted.recorded "delete_template" "chair" (by decide)
  have nothing : listed.tree.contentAt file = .empty :=
    congrArg (FileTree.contentAt · file) (TemplateCall.tree_of_unrecorded rfl)
  have start : listed.clock = "" := by decide
  rw [nothing, start, ByteArray.empty_append] at lines
  exact lines

end Settings

end InvoiceForms
