import InvoiceForms.Proofs.Service.ToolDeeds
import InvoiceForms.Proofs.Store.Rights
import InvoiceForms.Proofs.Store.Turns

/-!
# Races between tools

Deleting a template looks for the pointer first, and removes the document later under a lock that does
not protect the pointer. So the default is never deleted by a call that nobody comes between, but it is
by one that another call overtakes: one that points to the template behind the look. That is the only
way, however many calls come between each other and whatever fails on the way.
-/

namespace InvoiceForms

namespace Settings

variable {s : Settings} {removes : String → Prop} {points : Prop} {α : Type} {action : Action α}
  {w : World} {id : String}

/-- Recording an attempt takes nothing away. -/
theorem Deed.unlinks (deed : s.Deed IsTemporary removes points action)
    (taken : action.Removes (s.store.templatePath id)) :
    removes id ∧ (⟨α, action⟩ : Sigma Action) = ⟨_, .unlink (s.store.templatePath id)⟩ := by
  rcases deed with records | deed
  · cases records with
    | look looks =>
      cases action with
      | unlink | rename => cases looks
      | _ => cases taken
    | ensure | append => cases taken
  · exact deed.unlinks taken

section Apart

variable (apart : s.LogsApart) (named : w.Names IsTemporary)
  (deed : s.Deed IsTemporary removes points action)

include apart named deed

theorem Deed.pointer_cases :
    (w.perform action).2.tree.node? s.store.pointerPath = w.tree.node? s.store.pointerPath ∨
      (w.perform action).2.tree.node? s.store.pointerPath = none ∨
      points ∧ (w.perform action).2.tree.Reached s.store.root := by
  rcases deed with records | deed
  · refine .inl ?_
    cases records with
    | look looks => rw [World.tree_perform_of_looks looks]
    | @ensure p given =>
      refine World.node?_perform named fun way => (apart p given).1 ?_
      exact List.IsPrefix.trans way (List.dropLast_prefix p)
    | @append p given content =>
      refine World.node?_perform named fun same => (apart p given).1 ?_
      exact same ▸ List.prefix_rfl
  · exact deed.pointer_cases named

theorem Deed.grounded (grounded : s.store.Grounded w.tree) :
    s.store.Grounded (w.perform action).2.tree := by
  intro there
  rcases deed.pointer_cases apart named with same | gone | ⟨-, reached⟩
  · rw [same] at there
    exact World.reached_perform (grounded there)
  · exact absurd gone there
  · exact reached

/-- Who makes the pointer name a template has the right to point. -/
theorem Deed.may_point (grounded : s.store.Grounded w.tree)
    (before : s.store.pointed w.tree ≠ .ok (some id))
    (after : s.store.pointed (w.perform action).2.tree = .ok (some id)) : points := by
  obtain ⟨content, there⟩ :=
    FileStore.file_of_namedBy? (FileStore.namedBy?_read_iff.mpr after)
  rcases deed.pointer_cases apart named with same | gone | ⟨may, -⟩
  · have reached := deed.grounded apart named grounded (by simp [there])
    exact absurd (FileStore.pointed_congr grounded reached same after) before
  · rw [gone] at there
    cases there
  · exact may

end Apart

end Settings

namespace ToolCall

variable {s : Settings} {id : String}

/-- Who looks for the pointer has only to take care where it names the template. -/
theorem checks_defaultId_bind {st : FileStore} {failure : StoreFault → Failure}
    {next : Option String → ServiceProgram Json} (named : (next (some id)).run.Checks st id) :
    (ServiceProgram.onStore failure st.defaultId >>= next).run.Checks st id := by
  obtain ⟨rest, same, ends⟩ := st.defaultId_eq
  unfold ServiceProgram.onStore Generator.onStore
  rw [same]
  refine ⟨nofun, fun w _ => ?_⟩
  by_cases told : FileStore.namedBy? (w.perform (.read st.pointerPath)).1 = some id
  · right
    dsimp only [Program.bind]
    rw [ends _ _ told]
    exact named
  · exact .inl ⟨rfl, told⟩

/-- A call takes away the document of a template only when it has seen that the pointer does not name
it. -/
theorem checks_program (s : Settings) (call : ToolCall) (id : String) :
    (call.program s).run.Checks s.store id := by
  by_cases targets : call.Targets id
  · cases call with
    | delete v =>
      by_cases writes : s.writes = true
      · have same : (delete v).program s = _ := Tools.start_of_named writes targets
        rw [same]
        have records : Only IsTemporary (s.Deed IsTemporary (fun _ => False) False)
            (Tools.recordAttempt s "delete_template" id) :=
          only_lift ((Audit.only_record s.audit _ _).mono .inl)
        refine Program.Checks.bind
          (Program.Only.checks records fun deed taken => (deed.unlinks taken).1) fun outcome => ?_
        cases outcome with
        | error e => trivial
        | ok _ =>
          refine checks_defaultId_bind ?_
          rw [if_pos rfl]
          trivial
      · have off : s.writes = false := Bool.not_eq_true _ ▸ writes
        have same : (delete v).program s = _ := Tools.start_of_off off
        rw [same]
        trivial
    | _ => cases targets
  · refine Program.Only.checks (deeds_program s call) fun deed taken => ?_
    exact targets (deed.unlinks taken).1

/-- What a call does, whatever it ends in. -/
def task (s : Settings) (call : ToolCall) : Program Unit := do
  let _ ← (call.program s).run
  return ()

theorem deeds_task (s : Settings) (call : ToolCall) :
    (call.task s).Only IsTemporary (s.Deed IsTemporary call.Targets call.Points) :=
  Program.Only.bind (deeds_program s call) fun _ => trivial

theorem checks_task (s : Settings) (call : ToolCall) (id : String) :
    (call.task s).Checks s.store id := (checks_program s call id).bind fun _ => trivial

end ToolCall

section Running

open Runner (program)

variable {s : Settings} {v : Value} {id : String} {w w' : World}

namespace Tools

theorem isValid_of_normalId (named : normalId v = .ok id) : TemplateId.isValid id = true := by
  rcases ite_eq_iff.mp named with ⟨-, refused⟩ | ⟨-, named⟩
  · cases refused
  rcases ite_eq_iff.mp named with ⟨-, refused⟩ | ⟨-, named⟩
  · cases refused
  rcases ite_eq_iff.mp named with ⟨valid, same⟩ | ⟨-, refused⟩
  · exact Except.ok.inj same ▸ valid
  · cases refused

end Tools

/-- Removing a template comes to its document once the lock of the template is taken. -/
theorem FileStore.delete_comesTo {st : FileStore} (valid : TemplateId.isValid id = true)
    (locks : program.outcome (st.takeLock (templateLock id)) w = (.ok (), w')) :
    ∃ next, Program.ComesTo ((st.delete id).run, w) (.act (.unlink (st.templatePath id)) next, w') := by
  unfold delete locked
  rw [if_pos valid]
  exact ⟨_, (Program.comesTo_of_ok locks _).bind _⟩

end Running

namespace Settings

open InvoiceForms.System
open Runner (program)

variable {ι : Type} [DecidableEq ι] {s : Settings} {σ₀ σ σ' : System ι ToolCall} {i : ι}
  {call : ToolCall} {rest : Program Unit} {id : String}

/-- Whether a process has seen, since it came to a call, that the pointer does not name a template. -/
def Seen (s : Settings) (σ₀ σ : System ι ToolCall) (i : ι) (call : ToolCall) (id : String) : Prop :=
  ∃ look next, Turns (ToolCall.task s) σ₀ look ∧
    look.running i = some (call, .act (.read s.store.pointerPath) next) ∧
    s.store.pointed look.world.tree ≠ .ok (some id) ∧ TurnsDuring (ToolCall.task s) i call look σ

theorem Seen.tail (seen : s.Seen σ₀ σ i call id) (turn : σ.Turn (ToolCall.task s) σ')
    (runs : σ'.running i = some (call, rest)) : s.Seen σ₀ σ' i call id := by
  obtain ⟨look, next, reaches, looks, unnamed, during⟩ := seen
  exact ⟨look, next, reaches, looks, unnamed, .tail during ⟨turn, rest, runs⟩⟩

/-- What is true of calls however they come between each other: all that a process has left to do is
what its tool may do, and it takes no document away unless it has seen that it is not the default. -/
structure Watched (s : Settings) (σ₀ σ : System ι ToolCall) : Prop where
  names : σ.world.Names IsTemporary
  grounded : s.store.Grounded σ.world.tree
  deeds : ∀ i call rest, σ.running i = some (call, rest) →
    rest.Only IsTemporary (s.Deed IsTemporary call.Targets call.Points)
  seen : ∀ i call rest id, σ.running i = some (call, rest) →
    rest.Checks s.store id ∨ s.Seen σ₀ σ i call id

/-- A turn keeps the invariant. -/
theorem Watched.turn (apart : s.LogsApart) (watched : s.Watched σ₀ σ)
    (reaches : Turns (ToolCall.task s) σ₀ σ) (turn : σ.Turn (ToolCall.task s) σ') :
    s.Watched σ₀ σ' where
  names := turn.names watched.names
  grounded := by
    rcases turn.tree_cases with same | ⟨j, call, α, action, next, runs, rfl⟩
    · unfold FileStore.Grounded
      rw [same]
      exact watched.grounded
    · have deed := (watched.deeds j call _ runs).1
      exact deed.grounded apart watched.names watched.grounded
  deeds i call rest runs := by
    rcases turn.running_cases runs with before | rfl | ⟨α, action, next, before, rfl⟩
    · exact watched.deeds i call rest before
    · exact call.deeds_task s
    · exact (watched.deeds i call _ before).2 _ watched.names
  seen i call rest id runs := by
    rcases turn.running_cases runs with before | rfl | ⟨α, action, next, before, rfl⟩
    · exact (watched.seen i call rest id before).imp_right fun seen => seen.tail turn runs
    · exact .inl (call.checks_task s id)
    · rcases watched.seen i call _ id before with checks | seen
      · rcases checks.2 _ watched.names with clears | checks
        · cases action with
          | read p =>
            obtain ⟨rfl, unnamed⟩ := clears
            refine .inr ⟨σ, next, reaches, before, fun names => unnamed ?_, .single ⟨turn, _, runs⟩⟩
            exact FileStore.namedBy?_read_iff.mpr names
          | _ => cases clears
        · exact .inl checks
      · exact .inr (seen.tail turn runs)

/-- The invariant holds wherever turns lead to from a system in which nobody is at work. -/
theorem watched_of_turns (apart : s.LogsApart) (idle : ∀ i, σ₀.running i = none)
    (named : σ₀.world.Names IsTemporary) (grounded : s.store.Grounded σ₀.world.tree)
    (reaches : Turns (ToolCall.task s) σ₀ σ) : s.Watched σ₀ σ := by
  induction reaches with
  | refl =>
    have nobody {i : ι} {work : ToolCall × Program Unit} (runs : σ₀.running i = some work) : False := by
      rw [idle i] at runs
      cases runs
    exact ⟨named, grounded, fun _ _ _ runs => (nobody runs).elim,
      fun _ _ _ _ runs => (nobody runs).elim⟩
  | tail before last ih => exact ih.turn apart before last

/-- Whether a deletion was overtaken: while it was at its call, and behind its look at the pointer, a
call of another process that may point to a template made the pointer name the one to delete. -/
inductive Overtaken (s : Settings) (σ₀ σ : System ι ToolCall) (i : ι) (v : Value) (id : String) : Prop
  | intro {look before : System ι ToolCall} {next : Except FileFault ByteArray → Program Unit}
    {j : ι} {call : ToolCall} {α : Type} {action : Action α} {more : α → Program Unit}
    (reaches : Turns (ToolCall.task s) σ₀ look)
    (looks : look.running i = some (.delete v, .act (.read s.store.pointerPath) next))
    (unnamed : s.store.pointed look.world.tree ≠ .ok (some id))
    (goes : TurnsDuring (ToolCall.task s) i (.delete v) look before)
    (other : j ≠ i) (points : call.Points) (acts : before.running j = some (call, .act action more))
    (still : s.store.pointed before.world.tree ≠ .ok (some id))
    (names : s.store.pointed (before.act j call action more).world.tree = .ok (some id))
    (on : TurnsDuring (ToolCall.task s) i (.delete v) (before.act j call action more) σ)

/-- Where the pointer names a template that a deletion has seen it not to name, the deletion was overtaken:
since the look some turn made the pointer name it, and that was one of another process. -/
theorem Seen.overtaken (apart : s.LogsApart) (idle : ∀ i, σ₀.running i = none)
    (named : σ₀.world.Names IsTemporary) (grounded : s.store.Grounded σ₀.world.tree) {v : Value}
    (seen : s.Seen σ₀ σ i (.delete v) id) (default : s.store.pointed σ.world.tree = .ok (some id)) :
    s.Overtaken σ₀ σ i v id := by
  obtain ⟨look, rest, reaches, looks, unnamed, during⟩ := seen
  obtain ⟨before, after, goes, turn, still, names, on⟩ :=
    during.exists_turn (p := fun σ => s.store.pointed σ.world.tree = .ok (some id)) unnamed default
  have watched := watched_of_turns apart idle named grounded
    (Relation.ReflTransGen.trans reaches goes.turns)
  rcases turn.tree_cases with same | ⟨j, other, α, action, more, acts, rfl⟩
  · rw [same] at names
    exact absurd names still
  · have deed := (watched.deeds j other _ acts).1
    have points : other.Points := deed.may_point apart watched.names watched.grounded still names
    refine .intro reaches looks unnamed goes ?_ points acts still names on
    -- The process itself is at its deletion all the time, and that does not point.
    rintro rfl
    obtain ⟨_, still⟩ := goes.running looks
    rw [acts] at still
    cases still
    exact points

section Overtaking

open Program (ComesTo comesTo_of_ok comesTo_run)

variable {v : Value} {w w' : World} {pointer : Option String}

/-- A call that deletes a template comes to where it has seen that the pointer does not name it, and
from there to the removal, whatever has become of the pointer. -/
theorem delete_looks (writes : s.writes = true) (unlogged : s.audit = none)
    (named : Tools.normalId v = .ok id) (told : s.store.pointed w.tree = .ok pointer)
    (other : pointer ≠ some id) :
    ∃ journal rest, ComesTo ((ToolCall.delete v).task s, w) (rest, { w with journal := journal }) ∧
      ∀ w₁ w₂, program.outcome (s.store.takeLock (FileStore.templateLock id)) w₁ = (.ok (), w₂) →
        ∃ next, ComesTo (rest, w₁) (.act (.unlink (s.store.templatePath id)) next, w₂) := by
  obtain ⟨journal₁, recorded⟩ := (Tools.runsTo_recordAttempt unlogged "delete_template" id w).ends
  -- What follows the look goes on to remove the document, whatever it has seen but the id.
  obtain ⟨failed, jump, start, removes⟩ : ∃ failed jump, (ToolCall.delete v).program s =
      (Tools.recordAttempt s "delete_template" id >>= fun _ =>
        ServiceProgram.onStore failed s.store.defaultId >>= jump) ∧
      ∃ more, jump pointer = (ServiceProgram.onStore failed (s.store.delete id) >>= more) :=
    ⟨_, _, Tools.start_of_named writes named, _, if_neg other⟩
  obtain ⟨journal₂, looked⟩ := (Tools.runsTo_onStore
    ((FileStore.runsTo_defaultId told).with_journal journal₁) failed).ends
  have looks := (comesTo_of_ok recorded fun _ => _).trans (comesTo_of_ok looked jump)
  refine ⟨journal₂, _, start ▸ looks.bind _, fun w₁ w₂ locks => ?_⟩
  obtain ⟨more, same⟩ := removes
  obtain ⟨next, comes⟩ := FileStore.delete_comesTo (Tools.isValid_of_normalId named) locks
  rw [same]
  exact ⟨_, (((comes.bind _).bind _).bind _).bind _⟩

/-- A call that makes a template the default comes to where the store has pointed to it. -/
theorem setDefault_points (writes : s.writes = true) (unlogged : s.audit = none)
    (named : Tools.normalId v = .ok id) (told : s.store.pointed w.tree = .ok pointer) {t : Template}
    (gotten : program.answer (s.store.get id) w = .ok (some t))
    (usable : s.validator.isUsable t = true)
    (sets : program.answer (s.store.setDefault id) w = .ok ()) (journal : List JournalEntry) :
    ∃ journal' rest, ComesTo ((ToolCall.setDefault v).task s, { w with journal := journal })
      (rest, { program.after (s.store.setDefault id) w with journal := journal' }) := by
  have runs := Tools.runsTo_setDefaultTemplate writes unlogged named gotten usable told sets
  obtain ⟨journal', ends⟩ := (runs.with_journal journal).ends
  have comes := comesTo_run ((ToolCall.setDefault v).program s).run { w with journal := journal }
  change ((ToolCall.setDefault v).program s).run.run _ = _ at ends
  rw [ends] at comes
  exact ⟨journal', _, comes.bind _⟩

end Overtaking

/-- A system in which nobody is at work on a store with one template. -/
def storedSystem : System Bool ToolCall := ⟨storedWorld, fun _ => none, fun _ => []⟩

/-- The world when the lock of the template is taken behind that. -/
def takenWorld : World :=
  program.after (writable.store.takeLock (FileStore.templateLock "table")) pointedWorld

/-- Then the pointer names the template, which is there until its document is removed. -/
theorem takenWorld_holds :
    program.answer (writable.store.takeLock (FileStore.templateLock "table")) pointedWorld = .ok () ∧
      takenWorld.tree.read writable.store.pointerPath = .ok (FileStore.pointerContent "table") ∧
      writable.store.Present takenWorld.tree "table" ∧ ¬ writable.store.Present
        (takenWorld.perform (.unlink (writable.store.templatePath "table"))).2.tree "table" := by
  rw [← Results.toOption_eq_some, ← Results.toOption_eq_some]
  unfold FileStore.Present
  decide +kernel

theorem takenWorld_default : writable.store.pointed takenWorld.tree = .ok (some "table") :=
  FileStore.pointed_of_pointerDocument takenWorld_holds.2.1 (by decide)

theorem takenWorld_removes (journal : List JournalEntry) : ¬ writable.store.Present
    ({ takenWorld with journal := journal }.perform
      (.unlink (writable.store.templatePath "table"))).2.tree "table" := by
  obtain ⟨_, performed⟩ := takenWorld.perform_with_journal journal
    (.unlink (writable.store.templatePath "table"))
  rw [performed]
  exact takenWorld_holds.2.2.2

/-- One process comes to delete the template and looks for the pointer, the other one makes it the
default, and the first one goes on and takes the document away. -/
theorem turns_overtaken : ∃ σ σ', Turns (ToolCall.task writable) storedSystem σ ∧
    σ.Turn (ToolCall.task writable) σ' ∧ writable.store.pointed σ.world.tree = .ok (some "table") ∧
    writable.store.Present σ.world.tree "table" ∧ ¬ writable.store.Present σ'.world.tree "table" := by
  obtain ⟨t, -, storable, gotten⟩ := kept_storedWorld.coherent.get_answer storedWorld_holds.1
  obtain ⟨taken, -, there, -⟩ := takenWorld_holds
  obtain ⟨journal₁, rest, looks, removes⟩ := delete_looks rfl rfl normalId_table storedWorld_pointed nofun
  obtain ⟨journal₂, rest', points⟩ := setDefault_points rfl rfl normalId_table storedWorld_pointed gotten
    (storable.isUsable_sorted _ _) pointedWorld_holds.1 journal₁
  obtain ⟨journal₃, locks⟩ := Program.outcome_with_journal
    (writable.store.takeLock (FileStore.templateLock "table")) pointedWorld journal₂
  rw [taken] at locks
  obtain ⟨next, removes⟩ := removes _ _ locks
  let deletion : ToolCall := .delete (.text "table")
  let running₁ := Function.update storedSystem.running true (some (deletion, rest))
  let running₂ := Function.update running₁ false (some (.setDefault (.text "table"), rest'))
  obtain ⟨held₁, looks⟩ := turns_of_start (σ := storedSystem) (i := true) rfl looks
  have idle : running₁ false = none := rfl
  obtain ⟨held₂, points⟩ := turns_of_start (σ := ⟨_, running₁, held₁⟩) (i := false) idle points
  have still : running₂ true = some (deletion, rest) := rfl
  obtain ⟨held₃, removes⟩ := turns_of_comesTo (σ := ⟨_, running₂, held₂⟩) (i := true) still removes
  exact ⟨_, _, (looks.trans points).trans removes, .act true rfl, takenWorld_default, there,
    takenWorld_removes journal₃⟩

/-- Whether a turn is the one in which a call that deletes a template takes its document away. -/
def RemovedBy (s : Settings) (σ σ' : System ι ToolCall) (i : ι) (v : Value) (id : String) : Prop :=
  Tools.normalId v = .ok id ∧ ∃ next,
    σ.running i = some (.delete v, .act (.unlink (s.store.templatePath id)) next) ∧
    (σ.world.perform (.unlink (s.store.templatePath id))).1 = .ok () ∧
    σ' = σ.act i (.delete v) (.unlink (s.store.templatePath id)) next

theorem RemovedBy.gone {v : Value} (removed : s.RemovedBy σ σ' i v id) :
    ¬ s.store.Present σ'.world.tree id := by
  obtain ⟨-, next, -, done, rfl⟩ := removed
  obtain ⟨tree, removes, after⟩ := World.change_eq_ok done
  obtain ⟨content, -, rfl⟩ := FileTree.unlink_eq_ok removes
  show ¬ ((σ.world.change _).2.tree.node? _).isSome = true
  rw [after]
  show ¬ ((σ.world.tree.remove _).node? _).isSome = true
  rw [FileTree.node?_remove_self (by simp [FileStore.templatePath])]
  exact Bool.false_ne_true

/-- However calls of the tools that write come between each other, and whatever fails on the way: a turn
takes the document of the default away just when it is the removal of a call that deletes the template,
and that call was overtaken by one of another process that made the template the default. -/
theorem default_removed_iff_overtaken (apart : s.LogsApart) (idle : ∀ i, σ₀.running i = none)
    (named : σ₀.world.Names IsTemporary) (grounded : s.store.Grounded σ₀.world.tree)
    (reaches : Turns (ToolCall.task s) σ₀ σ) (turn : σ.Turn (ToolCall.task s) σ')
    (default : s.store.pointed σ.world.tree = .ok (some id))
    (there : s.store.Present σ.world.tree id) : ¬ s.store.Present σ'.world.tree id ↔
      ∃ i v, s.RemovedBy σ σ' i v id ∧ s.Overtaken σ₀ σ i v id := by
  refine ⟨fun gone => ?_, fun ⟨i, v, removed, _⟩ => removed.gone⟩
  have watched := watched_of_turns apart idle named grounded reaches
  rcases turn.tree_cases with same | ⟨i, call, α, action, next, runs, rfl⟩
  · unfold FileStore.Present at there gone
    rw [same] at gone
    exact absurd there gone
  -- The action that takes the document away is one of a deletion that has looked for the pointer.
  have taken : action.Removes (s.store.templatePath id) :=
    by_contra fun keeps => gone (World.isSome_perform keeps there)
  obtain ⟨targets, same⟩ := (watched.deeds i call _ runs).1.unlinks taken
  cases call with
  | delete v =>
    cases same
    refine ⟨i, v, ⟨targets, next, runs, ?_, rfl⟩, ?_⟩
    · cases removed : σ.world.tree.unlink (s.store.templatePath id) with
      | ok tree =>
        show (σ.world.change _).1 = _
        rw [removed]
        rfl
      | error e =>
        refine absurd ?_ gone
        show s.store.Present (σ.world.change _).2.tree id
        rw [removed]
        exact there
    · rcases watched.seen i _ _ id runs with checks | seen
      · exact absurd taken checks.1
      · exact seen.overtaken apart idle named grounded default
  | _ => cases targets

/-- One deletion and one call of another process are enough to take the default away. -/
theorem default_removed_by_race : ¬ ∀ (σ σ' : System Bool ToolCall) (id : String),
    Turns (ToolCall.task writable) storedSystem σ → σ.Turn (ToolCall.task writable) σ' →
    writable.store.pointed σ.world.tree = .ok (some id) → writable.store.Present σ.world.tree id →
    writable.store.Present σ'.world.tree id := by
  intro kept
  obtain ⟨σ, σ', reaches, turn, default, there, gone⟩ := turns_overtaken
  exact gone (kept σ σ' "table" reaches turn default there)

/-- The deletion that takes the default away there was overtaken. -/
theorem removed_table_overtaken : writable.LogsApart ∧ (∀ i, storedSystem.running i = none) ∧
    storedSystem.world.Names IsTemporary ∧ writable.store.Grounded storedSystem.world.tree ∧
    ∃ σ σ', Turns (ToolCall.task writable) storedSystem σ ∧ σ.Turn (ToolCall.task writable) σ' ∧
      writable.store.pointed σ.world.tree = .ok (some "table") ∧
      writable.store.Present σ.world.tree "table" ∧ ¬ writable.store.Present σ'.world.tree "table" ∧
      ∃ i v, writable.RemovedBy σ σ' i v "table" ∧ writable.Overtaken storedSystem σ i v "table" := by
  have grounded : writable.store.Grounded storedSystem.world.tree := by
    intro there
    exact absurd (by decide +kernel) there
  obtain ⟨σ, σ', reaches, turn, default, there, gone⟩ := turns_overtaken
  have overtaken := (default_removed_iff_overtaken writable_logsApart (fun _ => rfl)
    kept_storedWorld.names grounded reaches turn default there).mp gone
  exact ⟨writable_logsApart, fun _ => rfl, kept_storedWorld.names, grounded, σ, σ', reaches, turn,
    default, there, gone, overtaken⟩

end Settings

end InvoiceForms
