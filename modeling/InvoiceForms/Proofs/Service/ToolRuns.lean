import InvoiceForms.Proofs.Store.Journal
import InvoiceForms.Proofs.Store.Rendering
import InvoiceForms.Proofs.Store.Usable
import InvoiceForms.Service.Tools

/-!
# Runs of the tools

The tools that write keep a store coherent, whatever they are called with and however a call ends. So
after any sequence of calls on an empty store each document can be loaded and used, and the default,
once there is one, is resolved.
-/

namespace InvoiceForms

open Program (RunsTo)
open Runner (program)

/-- An operation of the store ensures the same when its fault becomes a failure. -/
theorem Ensures.onStore {α : Type} {pre bad : World → Prop} {good : α → World → Prop}
    {x : StoreProgram α} (ensures : Ensures pre x good bad) (failure : StoreFault → Failure) :
    Ensures pre (ServiceProgram.onStore failure x) good bad := by
  refine Ensures.bind (fun outcome w => Behind good bad (outcome, w))
    (ensures_lift fun w holds calm => ensures w holds calm) fun outcome => ?_
  cases outcome with
  | ok a => exact ensures_pure fun _ => id
  | error e => exact ensures_throw fun _ => id

namespace Maintains

variable {ε α : Type} {property : World → Prop}

/-- An operation of the store keeps the same when its fault becomes a failure. -/
theorem onStore {x : StoreProgram α} (kept : Maintains property x) (failure : StoreFault → Failure) :
    Maintains property (ServiceProgram.onStore failure x) := Ensures.onStore kept failure

/-- A result is gone on with as the one that was given, and a fault ends in a failure. -/
theorem lift_bind {β : Type} {x : Except ε α} {failure : ε → Failure} {f : α → ServiceProgram β}
    (rest : ∀ a, x = .ok a → Maintains property (f a)) :
    Maintains property (ServiceProgram.lift failure x >>= f) := by
  cases x with
  | error e => exact Maintains.throw (failure e)
  | ok a => exact rest a rfl

end Maintains

namespace Governor

variable {s : FileStore} {v : Validator} {pointing : Prop}

theorem maintains_checkUsable {property : World → Prop} (g : Governor Program) (t : Template) :
    Maintains property (g.checkUsable t) := by
  unfold checkUsable
  split
  · exact .throw _
  · split
    · exact .throw _
    · exact .pure _

/-- A template without errors is not refused. -/
theorem checkUsable_of_isUsable {g : Governor Program} {t : Template}
    (usable : g.validator.isUsable t = true) : g.checkUsable t = pure () := by
  obtain ⟨issues, validated, none⟩ := Validator.isUsable_eq_true_iff.mp usable
  unfold checkUsable
  rw [validated]
  dsimp only
  rw [(Issue.hasErrors_eq_false_iff issues).mpr none, if_neg Bool.false_ne_true]

/-- Making a template the default keeps a store coherent. -/
theorem maintains_setDefault (id : String) :
    Maintains (s.Kept pointing) (setDefault ⟨s.operations, v⟩ id) := by
  unfold setDefault
  refine (s.maintains_get pointing id).bind fun found => ?_
  cases found with
  | none => exact .throw _
  | some t =>
    refine (maintains_checkUsable _ t).bind fun _ => ?_
    refine Ensures.bind _ FileStore.ensures_defaultId fun previous => ?_
    refine Ensures.bind (fun _ => s.Kept pointing)
      ((s.maintains_setDefault pointing id).mono (fun _ before => before.1) (fun _ _ kept => kept)
        fun _ kept => kept) fun _ => ?_
    exact ensures_lift fun _ kept _ => kept.with_journal _

/-- Saving a template keeps a store coherent, if the template has no errors when it is loaded. -/
theorem maintains_save {t : Template} (accepted : t.Accepted .sorted Json.distinctHere)
    (clean : Validator.structuralErrors (t.arrange .sorted) = []) :
    Maintains (s.Kept pointing) (save ⟨s.operations, v⟩ t) := by
  unfold save
  have stores : Maintains (s.Kept pointing) (s.upsert t) := FileStore.maintains_upsert accepted clean
  split
  · refine (maintains_checkUsable _ t).bind fun _ => stores.bind fun stored => ?_
    refine (maintains_setDefault t.id).bind fun _ => ?_
    exact (s.maintains_get pointing t.id).bind fun found => .pure _
  · exact stores.bind fun stored => .pure _

/-- Making a usable template the default ends where the store has pointed to it. -/
theorem runsTo_setDefault {id : String} {w : World} {t : Template} {pointer : Option String}
    (gotten : program.answer (s.get id) w = .ok (some t)) (usable : v.isUsable t = true)
    (told : s.pointed w.tree = .ok pointer) (sets : program.answer (s.setDefault id) w = .ok ()) :
    RunsTo (setDefault ⟨s.operations, v⟩ id) w (.ok ()) (program.after (s.setDefault id) w) := by
  have passes : checkUsable ⟨s.operations, v⟩ t = pure () := checkUsable_of_isUsable usable
  unfold setDefault
  refine (FileStore.runsTo_get gotten).bind ?_
  dsimp only
  rw [passes]
  refine (RunsTo.pure () w).bind ((FileStore.runsTo_defaultId told).bind ?_)
  refine ((FileStore.candid_setDefault id).runsTo sets).bind ?_
  exact ⟨StoreProgram.calm_report _ _, _, rfl⟩

end Governor

/-- Whether attempts to write are recorded elsewhere than in the documents and the pointer of the
store. -/
def Settings.LogsApart (s : Settings) : Prop := ∀ file, s.audit = some file →
  ¬ s.store.pointerPath <+: file ∧ ∀ id, ¬ s.store.templatePath id <+: file

/-- Recording an attempt touches the file that it is recorded in and the way there. -/
theorem Audit.avoids_record {fresh : String → Prop} {q : Path} {file : Option Path}
    (apart : ∀ p, file = some p → ¬ q <+: p) (tool templateId : String) :
    (Audit.record file tool templateId).Avoids fresh q := by
  unfold record
  refine Program.Avoids.bind (Program.avoids_perform _ not_false) fun _ => ?_
  cases file with
  | none => trivial
  | some p =>
    have aside := apart p rfl
    have way : ¬ q <+: p.dropLast := fun way => aside (way.trans (List.dropLast_prefix p))
    have other : q ≠ p := fun same => aside (same ▸ List.prefix_rfl)
    have appends (time : String) : (appendLine p (line time tool templateId)).Avoids fresh q := by
      unfold appendLine
      refine Program.Avoids.bind (Program.avoids_perform (.makeDirectories p.dropLast) way)
        fun made => ?_
      cases made with
      | error e => trivial
      | ok _ => exact Program.avoids_perform _ other
    refine Program.Avoids.bind (Program.avoids_perform _ not_false) fun time => ?_
    refine (appends time).bind fun result => ?_
    cases result with
    | ok _ => trivial
    | error e => exact Program.avoids_perform _ not_false

namespace Tools

open ServiceProgram

variable {s : Settings} {pointing : Prop}

theorem maintains_requireWrites {property : World → Prop} (s : Settings) :
    Maintains property (requireWrites s) := by
  unfold requireWrites
  split
  · exact .pure _
  · exact .throw _

theorem maintains_takeId {property : World → Prop} (v : Value) : Maintains property (takeId v) := by
  unfold takeId
  cases normalId v with
  | ok id => exact .pure id
  | error e => exact .throw _

theorem maintains_recordAttempt (apart : s.LogsApart) (tool templateId : String) :
    Maintains (s.store.Kept pointing) (recordAttempt s tool templateId) := by
  refine ensures_lift fun w kept _ => kept.of_avoids fun q _ own => ?_
  refine Audit.avoids_record (fun p given => ?_) tool templateId
  obtain ⟨pointer, documents⟩ := apart p given
  rcases own with ⟨id, rfl⟩ | rfl
  · exact documents id
  · exact pointer

section Calls

variable (apart : s.LogsApart)

include apart

theorem maintains_upsertTemplate {t : Template} (accepted : t.Accepted .sorted Json.distinctHere)
    (whole : t.HasWholeWidths) : Maintains (s.store.Kept pointing) (upsertTemplate s t) := by
  unfold upsertTemplate
  refine (maintains_requireWrites s).bind fun _ => ?_
  refine (maintains_recordAttempt apart _ _).bind fun _ => ?_
  refine Maintains.lift_bind fun issues validated => ?_
  split
  · exact Maintains.throw _
  · next usable =>
    have clean : Validator.structuralErrors t = [] := by
      rw [← Validator.errors_of_validate validated, ← Issue.hasErrors_eq_false_iff]
      exact Bool.not_eq_true _ ▸ usable
    have saves : Maintains (s.store.Kept pointing) (s.governor.save t) :=
      Governor.maintains_save accepted (Validator.structuralErrors_arrange .sorted whole clean)
    exact (saves.onStore _).bind fun saved => .pure _

/-- Deleting keeps a store coherent: what is deleted is not the default. -/
theorem maintains_deleteTemplate (v : Value) :
    Maintains (s.store.Kept pointing) (deleteTemplate s v) := by
  unfold deleteTemplate
  refine (maintains_requireWrites s).bind fun _ => ?_
  refine (maintains_takeId v).bind fun id => ?_
  refine (maintains_recordAttempt apart _ _).bind fun _ => ?_
  dsimp only
  refine Ensures.bind _ (FileStore.ensures_defaultId.onStore _) fun named => ?_
  split
  · exact ensures_throw fun _ before => before.1
  · next other =>
    have deletes := s.store.ensures_kept_delete pointing id
    refine Ensures.bind (fun _ => s.store.Kept pointing)
      ((deletes.mono (fun w before => ⟨before.1, ?_⟩) (fun _ _ kept => kept)
        fun _ kept => kept).onStore _) fun deleted => ?_
    · rw [before.2]
      exact fun same => other (Except.ok.inj same)
    · split
      · exact Maintains.pure _
      · exact Maintains.throw _

theorem maintains_setDefaultTemplate (v : Value) :
    Maintains (s.store.Kept pointing) (setDefaultTemplate s v) := by
  unfold setDefaultTemplate
  refine (maintains_requireWrites s).bind fun _ => ?_
  refine (maintains_takeId v).bind fun id => ?_
  refine (maintains_recordAttempt apart _ _).bind fun _ => ?_
  exact ((Governor.maintains_setDefault id).onStore _).bind fun _ => .pure _

end Calls

section Runs

variable {v : Value} {id : String} {w w' : World}

theorem start_of_writes {next : Unit → ServiceProgram Json} (writes : s.writes = true) :
    (requireWrites s >>= next) = next () := by
  unfold requireWrites
  rw [if_pos writes]
  rfl

theorem start_of_off {next : Unit → ServiceProgram Json} (off : s.writes = false) :
    (requireWrites s >>= next) = throw .writesDisabled := by
  unfold requireWrites
  rw [if_neg (Bool.not_eq_true _ ▸ off)]
  rfl

theorem start_of_named {next : String → ServiceProgram Json} (writes : s.writes = true)
    (named : normalId v = .ok id) : (requireWrites s >>= fun _ => takeId v >>= next) = next id := by
  rw [start_of_writes writes]
  unfold takeId
  rw [named]
  rfl

theorem start_of_nameless {next : String → ServiceProgram Json} {e : Failure} (writes : s.writes = true)
    (nameless : normalId v = .error e) :
    (requireWrites s >>= fun _ => takeId v >>= next) = throw e := by
  rw [start_of_writes writes]
  unfold takeId
  rw [nameless]
  rfl

/-- Where there is no log, recording an attempt changes the journal. -/
theorem runsTo_recordAttempt (unlogged : s.audit = none) (tool id : String) (w : World) :
    RunsTo (recordAttempt s tool id) w (.ok ()) w := by
  unfold recordAttempt Audit.record
  rw [unlogged]
  exact ⟨⟨trivial, trivial⟩, _, rfl⟩

theorem runsTo_onStore {α : Type} {x : StoreProgram α} {a : α} (runs : RunsTo x w (.ok a) w')
    (failure : StoreFault → Failure) : RunsTo (onStore failure x) w (.ok a) w' :=
  runs.lift.bind (.pure a w')

variable (writes : s.writes = true) (unlogged : s.audit = none) (named : normalId v = .ok id)

include writes unlogged named

theorem runsTo_setDefaultTemplate {t : Template} {pointer : Option String}
    (gotten : program.answer (s.store.get id) w = .ok (some t)) (usable : s.validator.isUsable t = true)
    (told : s.store.pointed w.tree = .ok pointer)
    (sets : program.answer (s.store.setDefault id) w = .ok ()) :
    RunsTo (setDefaultTemplate s v) w (.ok (.object [("default_id", .text id)]))
      (program.after (s.store.setDefault id) w) := by
  have governs : RunsTo (s.governor.setDefault id) w (.ok ()) (program.after (s.store.setDefault id) w) :=
    Governor.runsTo_setDefault gotten usable told sets
  have start : setDefaultTemplate s v = _ := start_of_named writes named
  rw [start]
  exact (runsTo_recordAttempt unlogged _ id w).bind ((runsTo_onStore governs _).bind (.pure _ _))

/-- Deleting the default is refused, and changes no files. -/
theorem runsTo_deleteTemplate_of_default (told : s.store.pointed w.tree = .ok (some id)) :
    RunsTo (deleteTemplate s v) w (.error (.refusal ("Template " ++ id ++
      " is the default template and cannot be deleted. " ++ "Set another default first."))) w := by
  have start : deleteTemplate s v = _ := start_of_named writes named
  rw [start]
  refine (runsTo_recordAttempt unlogged _ id w).bind ?_
  refine (runsTo_onStore (FileStore.runsTo_defaultId told) _).bind ?_
  rw [if_pos rfl]
  exact (RunsTo.throw _ w).bind_error

end Runs

end Tools

/-- A call of a tool that writes. -/
inductive ToolCall
  | upsert (t : Template)
  | delete (id : Value)
  | setDefault (id : Value)

namespace ToolCall

/-- What a call does. -/
def program (s : Settings) : ToolCall → ServiceProgram Json
  | upsert t => Tools.upsertTemplate s t
  | delete id => Tools.deleteTemplate s id
  | setDefault id => Tools.setDefaultTemplate s id

/-- Whether the template of a call, if it has one, was read from data, with whole widths. -/
def Proper : ToolCall → Prop
  | upsert t => (∃ payload, t.ReadFrom payload) ∧ t.HasWholeWidths
  | delete _ | setDefault _ => True

/-- Every proper call keeps the store coherent, however it ends. -/
theorem maintains_program {s : Settings} {pointing : Prop} (apart : s.LogsApart) {call : ToolCall}
    (proper : call.Proper) : Maintains (s.store.Kept pointing) (call.program s) := by
  cases call with
  | upsert t =>
    obtain ⟨⟨payload, given⟩, whole⟩ := proper
    exact Tools.maintains_upsertTemplate apart given.accepted whole
  | delete id => exact Tools.maintains_deleteTemplate apart id
  | setDefault id => exact Tools.maintains_setDefaultTemplate apart id

end ToolCall

namespace Settings

/-- What may happen to a world: a proper call without file faults, or time goes on and temporary files
get other names. -/
inductive Step (s : Settings) : World → World → Prop
  | call {w : World} (call : ToolCall) (proper : call.Proper)
    (calm : Program.Calm (call.program s).run w) : Step s w (program.after (call.program s) w)
  | renew {w : World} (clock : String) (name : String → String)
    (temporary : ∀ stem, IsTemporary (name stem)) :
    Step s w { w with clock := clock, temporaryName := name }

/-- A sequence of such steps. -/
abbrev Runs (s : Settings) : World → World → Prop := Relation.ReflTransGen s.Step

variable {s : Settings} {w w' : World} {pointing : Prop}

theorem kept_step (apart : s.LogsApart) (step : s.Step w w') (kept : s.store.Kept pointing w) :
    s.store.Kept pointing w' := by
  cases step with
  | call call proper calm =>
    exact ensures_iff_after.mp (call.maintains_program apart proper) w kept calm
  | renew clock name temporary => exact ⟨temporary, kept.coherent, kept.stays⟩

theorem kept_runs (apart : s.LogsApart) (run : s.Runs w w') (kept : s.store.Kept pointing w) :
    s.store.Kept pointing w' := by
  induction run with
  | refl => exact kept
  | tail _ step ih => exact kept_step apart step ih

end Settings

namespace FileStore

theorem Vacant.coherent {s : FileStore} {tree : FileTree} (vacant : s.Vacant tree) :
    s.Coherent tree where
  document id there := by
    rw [Present, vacant.document] at there
    cases there
  pointer := .inl vacant.pointer

end FileStore

namespace Settings

/-- What holds of a store that only the tools write to: each document is loaded under its id as a
template without errors; the pointer is absent or names one of them, and once there it does not vanish;
and the template that it names is resolved as the default. -/
structure Reliable (s : Settings) (w : World) : Prop where
  loads : ∀ id, s.store.Present w.tree id → ∃ t : Template, t.id = id ∧
    s.validator.isUsable t = true ∧ program.answer (s.store.get id) w = .ok (some t)
  pointer : w.tree.node? s.store.pointerPath = none ∨
    ∃ id, s.store.Present w.tree id ∧ program.answer s.store.defaultId w = .ok (some id)
  stays : w.tree.node? s.store.pointerPath ≠ none →
    ∀ w', s.Runs w w' → w'.tree.node? s.store.pointerPath ≠ none
  resolves : ∀ id, program.answer s.store.defaultId w = .ok (some id) → ∃ t : Template, t.id = id ∧
    program.answer (s.store.get id) w = .ok (some t) ∧
    program.answer (s.resolver.resolve none) w = .ok ⟨t, .default⟩

/-- Whatever the tools that write are called with, one call after another on an empty store, all that
is stored can be loaded and used. Nothing but the calls changes the store: the only other file that
they write to, the log of attempts, is not one of its own. -/
theorem reliable_of_runs {s : Settings} {w₀ w : World} (apart : s.LogsApart)
    (names : w₀.Names IsTemporary) (vacant : s.store.Vacant w₀.tree) (run : s.Runs w₀ w) :
    s.Reliable w := by
  have kept : s.store.Kept False w := kept_runs apart run ⟨names, vacant.coherent, False.elim⟩
  have coherent := kept.coherent
  refine ⟨fun id there => ?_, ?_, fun pointing w' more => ?_, fun id named => ?_⟩
  · obtain ⟨t, rfl, storable, answer⟩ := coherent.get_answer there
    exact ⟨t.sorted _, rfl, storable.isUsable_sorted _ _, answer⟩
  · rcases coherent.pointer_cases with ⟨absent, -⟩ | ⟨id, there, -, names⟩
    · exact .inl absent
    · exact .inr ⟨id, there, (s.store.answer_defaultId w).trans
        ((coherent.pointed_eq_of_present there).trans names)⟩
  · exact (kept_runs apart more ⟨kept.names, coherent, id⟩).stays pointing
  · rw [FileStore.answer_defaultId] at named
    obtain ⟨t, rfl, -, gotten, resolved⟩ :=
      coherent.resolve_answer (FileStore.pointer_of_pointed named) s.validator
    exact ⟨t.sorted true, rfl, gotten, resolved⟩

/-- A service that may write to a store. -/
def writable : Settings := { store := ⟨["store"]⟩, writes := true }

/-- Storing a table. -/
def storing : ToolCall := .upsert (FileStore.tableTemplate ["name", "total"])

/-- The world after a table was stored. -/
def storedWorld : World := program.after (storing.program writable) {}

theorem writable_logsApart : writable.LogsApart := nofun

theorem names_empty : World.Names IsTemporary {} := fun _ => ⟨_, String.toList_append.symm⟩

theorem vacant_empty : writable.store.Vacant {} := by
  rintro q ⟨rest, rfl⟩ _
  rfl

theorem storing_proper : storing.Proper := by
  refine ⟨⟨_, FileStore.readFrom_of_names⟩, fun part member column inside => ?_⟩
  obtain rfl := List.mem_singleton.mp member
  obtain ⟨key, -, rfl⟩ := List.mem_map.mp inside
  have nothing : (Number.Double.zero false).toInt? = some 0 := by decide +kernel
  exact ⟨0, nothing⟩

theorem step_storedWorld : writable.Step {} storedWorld :=
  .call storing storing_proper (by decide +kernel)

/-- Storing the table on an empty store keeps it coherent. -/
theorem kept_storedWorld : writable.store.Kept False storedWorld :=
  kept_step writable_logsApart step_storedWorld ⟨names_empty, vacant_empty.coherent, False.elim⟩

/-- Then the table is there, and nothing points to it. -/
theorem storedWorld_holds : writable.store.Present storedWorld.tree "table" ∧
    storedWorld.tree.node? writable.store.pointerPath = none := by
  unfold FileStore.Present
  decide +kernel

theorem storedWorld_pointed : writable.store.pointed storedWorld.tree = .ok none := by
  obtain ⟨there, absent⟩ := storedWorld_holds
  rw [kept_storedWorld.coherent.pointed_eq_of_present there, FileStore.pointer, absent]

/-- The world when the store has pointed to the table. -/
def pointedWorld : World := program.after (writable.store.setDefault "table") storedWorld

theorem pointedWorld_holds : program.answer (writable.store.setDefault "table") storedWorld = .ok () ∧
    pointedWorld.tree.read writable.store.pointerPath = .ok (FileStore.pointerContent "table") := by
  rw [← Results.toOption_eq_some, ← Results.toOption_eq_some]
  decide +kernel

theorem pointedWorld_default : writable.store.pointed pointedWorld.tree = .ok (some "table") :=
  FileStore.pointed_of_pointerDocument pointedWorld_holds.2 (by decide)

/-- A call that names the table. -/
theorem normalId_table : Tools.normalId (.text "table") = .ok "table" := by decide

/-- The table is made the default by a call. -/
theorem pointing_runsTo : ∃ answer,
    RunsTo ((ToolCall.setDefault (.text "table")).program writable) storedWorld answer pointedWorld := by
  obtain ⟨t, -, storable, gotten⟩ := kept_storedWorld.coherent.get_answer storedWorld_holds.1
  exact ⟨_, Tools.runsTo_setDefaultTemplate rfl rfl normalId_table gotten
    (storable.isUsable_sorted _ _) storedWorld_pointed pointedWorld_holds.1⟩

/-- The world after that call. -/
def defaultWorld : World := program.after ((ToolCall.setDefault (.text "table")).program writable) storedWorld

/-- The world after a call that would delete the table. -/
def refusedWorld : World := program.after ((ToolCall.delete (.text "table")).program writable) defaultWorld

theorem refusing_runsTo : RunsTo ((ToolCall.delete (.text "table")).program writable) defaultWorld
    (.error (.refusal ("Template table is the default template and cannot be deleted. " ++
      "Set another default first."))) defaultWorld := by
  obtain ⟨_, points⟩ := pointing_runsTo
  exact Tools.runsTo_deleteTemplate_of_default rfl rfl normalId_table (points.tree ▸ pointedWorld_default)

theorem refusedWorld_tree : refusedWorld.tree = pointedWorld.tree :=
  pointing_runsTo.elim fun _ points => refusing_runsTo.tree.trans points.tree

/-- Of three calls the first one stores the table, the second one makes it the default, and the third one
is refused since it would delete the default. So the table is what is loaded and what resolving ends in,
and no call takes the default back. -/
theorem refused_deletion_reliable :
    writable.LogsApart ∧ World.Names IsTemporary {} ∧ writable.store.Vacant {} ∧
      writable.Runs {} refusedWorld ∧ writable.Reliable refusedWorld ∧
      program.answer ((ToolCall.delete (.text "table")).program writable) defaultWorld =
        .error (.refusal ("Template table is the default template and cannot be deleted. " ++
          "Set another default first.")) ∧
      program.answer writable.store.defaultId refusedWorld = .ok (some "table") ∧
      (∃ t : Template, t.id = "table" ∧
        program.answer (writable.store.get "table") refusedWorld = .ok (some t) ∧
        program.answer (writable.resolver.resolve none) refusedWorld = .ok ⟨t, .default⟩) ∧
      ∀ w, writable.Runs refusedWorld w → w.tree.node? writable.store.pointerPath ≠ none := by
  obtain ⟨_, points⟩ := pointing_runsTo
  have run : writable.Runs {} refusedWorld :=
    .tail (.tail (.single step_storedWorld) (.call (.setDefault (.text "table")) trivial points.calm))
      (.call (.delete (.text "table")) trivial refusing_runsTo.calm)
  have default : program.answer writable.store.defaultId refusedWorld = .ok (some "table") := by
    rw [FileStore.answer_defaultId, refusedWorld_tree]
    exact pointedWorld_default
  have pointing : refusedWorld.tree.node? writable.store.pointerPath ≠ none := by
    have found := FileTree.read_eq_ok_iff.mp pointedWorld_holds.2
    rw [refusedWorld_tree, FileTree.node?_of_find found]
    nofun
  have reliable := reliable_of_runs writable_logsApart names_empty vacant_empty run
  obtain ⟨t, own, gotten, resolved⟩ := reliable.resolves "table" default
  exact ⟨writable_logsApart, names_empty, vacant_empty, run, reliable, refusing_runsTo.answer, default,
    ⟨t, own, gotten, resolved⟩, reliable.stays pointing⟩

end Settings

end InvoiceForms
