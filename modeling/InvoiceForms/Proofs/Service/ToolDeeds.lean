import InvoiceForms.Proofs.Service.ToolRuns
import InvoiceForms.Proofs.Store.Deeds

/-!
# What the tools do

The tools that read a store only look, as its own operations do. A call of a tool that writes is refused
at once, or it is recorded first and does no more behind that than deeds of the store: it removes no
document but the one it names, and points to one only where that is what it is for.
-/

namespace InvoiceForms

namespace Generator

variable {fresh : String → Prop} {s : Settings}

theorem looks_reportAll (entries : List JournalEntry) :
    (s.generator.reportAll entries).Only fresh Action.Looks := by
  induction entries with
  | nil => trivial
  | cons e rest ih => exact (Program.only_perform trivial).bind fun _ => ih

end Generator

namespace Only

variable {fresh : String → Prop} {allowed : {β : Type} → Action β → Prop} {α : Type}

/-- An operation of the store does the same when its fault becomes a failure. -/
theorem onStore {x : StoreProgram α} (only : Only fresh allowed x) (failure : StoreFault → Failure) :
    Only fresh allowed (ServiceProgram.onStore failure x) := by
  refine (only_lift (p := x.run) only).bind fun outcome => ?_
  cases outcome with
  | ok a => exact only_pure a
  | error e => exact only_throw _

theorem refusing {x : ServiceProgram α} (only : Only fresh allowed x) :
    Only fresh allowed (Tools.refusing x) := by
  refine (only_lift (p := x.run) only).bind fun outcome => ?_
  cases outcome with
  | ok a => exact only_pure a
  | error e => exact only_throw _

end Only

namespace Tools

open ServiceProgram

variable {fresh : String → Prop} {s : Settings} {α : Type}

theorem looks_lift {ε : Type} (failure : ε → Failure) (result : Except ε α) :
    Only fresh Action.Looks (lift failure result) := by
  cases result with
  | ok a => exact only_pure a
  | error e => exact only_throw _

theorem looks_resolve (id : Option String) : Only fresh Action.Looks (s.generator.resolve id) :=
  (FileStore.looks_resolve id).onStore _

theorem looks_assemble (t : Template) (ctx : Context) (source : Option SourceKind) :
    Only fresh Action.Looks (s.generator.assemble t ctx source) :=
  (only_lift (Generator.looks_reportAll _)).bind fun _ => looks_lift _ _

theorem looks_stored (id : Value) : Only fresh Action.Looks (stored s id) := by
  unfold stored
  refine (looks_lift _ _).bind fun id => ((FileStore.looks_get id).onStore _).bind fun found => ?_
  cases found with
  | some t => exact only_pure t
  | none => exact only_throw _

theorem looks_listTemplates : Only fresh Action.Looks (listTemplates s) := by
  have listed : Only fresh Action.Looks (listed s) :=
    FileStore.looks_list.bind fun _ => FileStore.looks_defaultId.bind fun _ => only_pure _
  exact (listed.onStore _).bind fun _ => only_pure _

theorem looks_getTemplate (id : Value) : Only fresh Action.Looks (getTemplate s id) :=
  (looks_stored id).bind fun _ => (looks_lift _ _).bind fun _ => only_pure _

theorem looks_validateTemplate (given : Option Template) (id : Value) :
    Only fresh Action.Looks (validateTemplate s given id) := by
  unfold validateTemplate
  cases given with
  | some t => exact (looks_lift _ _).bind fun _ => only_pure _
  | none => exact (looks_stored id).bind fun _ => (looks_lift _ _).bind fun _ => only_pure _

theorem looks_renderInvoiceDocument (request : RenderRequest) :
    Only fresh Action.Looks (renderInvoiceDocument s request) := by
  have renders : Only fresh Action.Looks (renderDocument s request) :=
    (looks_resolve _).bind fun _ => (looks_lift _ _).bind fun _ => looks_assemble _ _ _
  exact renders.refusing.bind fun _ => only_pure _

theorem looks_previewDocument (id : Option String) (language : Value) :
    Only fresh Action.Looks (previewDocument s id language) :=
  (looks_resolve id).bind fun _ => (looks_lift _ _).bind fun _ => (looks_lift _ _).bind fun _ =>
    looks_assemble _ _ _

theorem looks_requestedId (id : Value) : Only fresh Action.Looks (requestedId s id) := by
  unfold requestedId
  split
  · split
    · exact only_pure _
    · exact (FileStore.looks_defaultId.onStore _).bind fun _ => only_throw _
  · exact only_pure _

theorem looks_previewTemplate (id language : Value) :
    Only fresh Action.Looks (previewTemplate s id language) := by
  have previews : Only fresh Action.Looks (do
      let requested ← requestedId s id
      return (requested, ← previewDocument s requested language)) :=
    (looks_requestedId id).bind fun _ => (looks_previewDocument _ language).bind fun _ => only_pure _
  unfold previewTemplate
  refine previews.refusing.bind fun ⟨requested, d⟩ => ?_
  cases requested with
  | none => exact only_pure _
  | some id =>
    dsimp only
    split
    · exact (only_lift (Program.only_perform trivial)).bind fun _ => only_pure _
    · exact only_pure _

end Tools

/-- What recording an attempt may do: it looks at the time, reports, makes directories, and appends to
the log. -/
inductive Audit.Records (file : Option Path) : {β : Type} → Action β → Prop
  | look {β : Type} {action : Action β} (looks : action.Looks) : Records file action
  | ensure {p : Path} (given : file = some p) : Records file (.makeDirectories p.dropLast)
  | append {p : Path} (given : file = some p) (content : ByteArray) : Records file (.append p content)

theorem Audit.only_record {fresh : String → Prop} (file : Option Path) (tool templateId : String) :
    (Audit.record file tool templateId).Only fresh (Audit.Records file) := by
  unfold record
  refine (Program.only_perform (.look trivial)).bind fun _ => ?_
  cases file with
  | none => trivial
  | some p =>
    have appends (text : String) : (appendLine p text).Only fresh (Audit.Records (some p)) := by
      unfold appendLine
      refine (Program.only_perform (.ensure rfl)).bind fun made => ?_
      cases made with
      | error e => trivial
      | ok _ => exact Program.only_perform (.append rfl _)
    refine (Program.only_perform (.look trivial)).bind fun time => (appends _).bind fun result => ?_
    cases result with
    | ok _ => trivial
    | error e => exact Program.only_perform (.look trivial)

/-- What a tool that writes may do: record its attempt, and deeds of the store. -/
def Settings.Deed (s : Settings) (fresh removes : String → Prop) (points : Prop) {β : Type}
    (action : Action β) : Prop :=
  Audit.Records s.audit action ∨ s.store.Deed fresh removes points action

namespace ToolCall

open ServiceProgram

/-- The tool of a call. -/
def tool : ToolCall → String
  | upsert _ => "upsert_template"
  | delete _ => "delete_template"
  | setDefault _ => "set_default_template"

/-- The id of the template that a call is about, if it names one. -/
def templateId : ToolCall → Except Failure String
  | upsert t => .ok t.id
  | delete v | setDefault v => Tools.normalId v

/-- The tool and the id that a call is recorded with: only where writing is on, and where the call names
a template. -/
def attempt? (s : Settings) (call : ToolCall) : Option (String × String) :=
  if s.writes then call.templateId.toOption.map fun id => (call.tool, id) else none

/-- The document that a call may remove. -/
def Targets : ToolCall → String → Prop
  | delete v, id => Tools.normalId v = .ok id
  | upsert _, _ | setDefault _, _ => False

/-- Whether a call may point to a template. -/
def Points : ToolCall → Prop
  | upsert t => t.isDefault = true
  | setDefault _ => True
  | delete _ => False

variable {fresh : String → Prop} {s : Settings} {call : ToolCall} {tool id : String}

theorem attempt?_eq_some_iff : call.attempt? s = some (tool, id) ↔
    s.writes = true ∧ call.templateId = .ok id ∧ call.tool = tool := by
  unfold attempt?
  cases s.writes <;> cases call.templateId <;> simp [Except.toOption, and_comm]

theorem attempt?_eq_none_iff : call.attempt? s = none ↔
    s.writes = false ∨ ∃ e, call.templateId = .error e := by
  unfold attempt?
  cases s.writes <;> cases call.templateId <;> simp [Except.toOption]

/-- A call that is not recorded is refused at once. -/
theorem program_of_unrecorded (unrecorded : call.attempt? s = none) :
    ∃ e, call.program s = throw e := by
  by_cases writes : s.writes = true
  · obtain off | ⟨e, nameless⟩ := attempt?_eq_none_iff.mp unrecorded
    · rw [off] at writes
      cases writes
    · cases call with
      | upsert t => cases nameless
      | delete v => exact ⟨_, Tools.start_of_nameless writes nameless⟩
      | setDefault v => exact ⟨_, Tools.start_of_nameless writes nameless⟩
  · have off : s.writes = false := Bool.not_eq_true _ ▸ writes
    cases call with
    | upsert t => exact ⟨_, Tools.start_of_off off⟩
    | delete v => exact ⟨_, Tools.start_of_off off⟩
    | setDefault v => exact ⟨_, Tools.start_of_off off⟩

/-- A call that is recorded does nothing before, and behind it no more than its tool may do. -/
theorem program_of_recorded (fresh : String → Prop) (recorded : call.attempt? s = some (tool, id)) :
    ∃ body, call.program s = (Tools.recordAttempt s tool id >>= fun _ => body) ∧
      s.store.Does fresh call.Targets call.Points body := by
  obtain ⟨writes, named, rfl⟩ := attempt?_eq_some_iff.mp recorded
  cases call with
  | upsert t =>
    cases named
    refine ⟨_, Tools.start_of_writes writes, ?_⟩
    refine (FileStore.does_of_looks (Tools.looks_lift _ _)).bind fun issues => ?_
    split
    · exact only_throw _
    · exact ((FileStore.does_save fun flagged => flagged).onStore _).bind fun _ => only_pure _
  | delete v =>
    refine ⟨_, Tools.start_of_named writes named, ?_⟩
    have looks : s.store.Does fresh (Targets (.delete v)) (Points (.delete v)) s.store.defaultId :=
      FileStore.does_of_looks FileStore.looks_defaultId
    refine (looks.onStore _).bind fun pointer => ?_
    split
    · exact only_throw _
    · refine ((FileStore.does_delete named).onStore _).bind fun deleted => ?_
      split
      · exact only_pure _
      · exact only_throw _
  | setDefault v =>
    refine ⟨_, Tools.start_of_named writes named, ?_⟩
    exact ((FileStore.does_governor_setDefault trivial _).onStore _).bind fun _ => only_pure _

/-- All that a call does is what its tool may do. -/
theorem deeds_program (s : Settings) (call : ToolCall) :
    Only fresh (s.Deed fresh call.Targets call.Points) (call.program s) := by
  cases recorded : call.attempt? s with
  | none =>
    obtain ⟨e, refused⟩ := program_of_unrecorded recorded
    rw [refused]
    exact only_throw e
  | some attempt =>
    obtain ⟨body, same, does⟩ := program_of_recorded fresh recorded
    rw [same]
    have records : Only fresh (s.Deed fresh call.Targets call.Points)
        (Tools.recordAttempt s attempt.1 attempt.2) :=
      only_lift ((Audit.only_record s.audit _ _).mono .inl)
    exact records.bind fun _ => does.mono .inr

end ToolCall

end InvoiceForms
