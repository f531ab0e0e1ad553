import InvoiceForms.Proofs.Store.Access
import InvoiceForms.Proofs.Template.Alike

/-!
# Calls of stores

A call is one use of an operation of a store, and a reply is what it gives. Calls are made one after
another; one that fails does not keep the next one from being made. Replies are compared up to the order
in which templates name their parts and in which lists name templates.
-/

namespace InvoiceForms

open InvoiceForms.Results
open Runner (program session)

universe u v

/-- A call of a store. -/
inductive StoreCall
  | upsert (t : Template)
  | get (id : String)
  | getDefault
  | defaultId
  | setDefault (id : String)
  | delete (id : String)
  | list

/-- What a call gives. -/
inductive StoreReply
  | template (t : Option Template)
  | id (id : Option String)
  | removed (there : Bool)
  | done
  | templates (ts : List Template)

/-- A call, with the names that temporary files get while it is made. -/
structure StoreTurn where
  call : StoreCall
  temporaryName : String → String := fun stem => "." ++ stem ++ ".tmp"

/-- The world in which a call is made. -/
def StoreTurn.enter (turn : StoreTurn) (w : World) : World :=
  { w with temporaryName := turn.temporaryName }

/-- What a call does. -/
def StoreCall.perform {m : Type → Type u} [Monad m] (store : TemplateStore m) :
    StoreCall → ExceptT StoreFault m StoreReply
  | upsert t => do return .template (some (← store.upsert t))
  | get id => do return .template (← store.get id)
  | getDefault => do return .template (← store.getDefault)
  | defaultId => do return .id (← store.defaultId)
  | setDefault id => do
    store.setDefault id
    return .done
  | delete id => do return .removed (← store.delete id)
  | list => do return .templates (← store.list)

namespace Runner

variable {m : Type → Type u} [Monad m] {σ : Type v}

/-- What calls made one after another are answered, whatever it takes to enter the next one. -/
def answers (I : Runner m σ) (store : TemplateStore m) (enter : StoreTurn → σ → σ) :
    List StoreTurn → σ → List (Except StoreFault StoreReply)
  | [], _ => []
  | turn :: rest, w =>
    I.answer (turn.call.perform store) (enter turn w) ::
      answers I store enter rest (I.after (turn.call.perform store) (enter turn w))

end Runner

/-- Whether two replies say the same: templates up to order, lists of them as sets. -/
inductive StoreReply.Alike : StoreReply → StoreReply → Prop
  | template {t u : Option Template} (same : Option.Rel Template.Alike t u) :
    Alike (.template t) (.template u)
  | id (id : Option String) : Alike (.id id) (.id id)
  | removed (there : Bool) : Alike (.removed there) (.removed there)
  | done : Alike .done .done
  | templates {ts us : List Template}
    (same : ∀ t, t ∈ ts.map (·.arrange .sorted) ↔ t ∈ us.map (·.arrange .sorted)) :
    Alike (.templates ts) (.templates us)

namespace MemoryStore

/-- What a store in memory replies to a call, and what it is then. -/
def reply (s : MemoryStore) : StoreCall → Except StoreFault StoreReply × MemoryStore
  | .upsert t => (.ok (.template (some (s.materialize t))), s.upsert t)
  | .get id => (.ok (.template (s.get id)), s)
  | .getDefault => (.ok (.template s.getDefault), s)
  | .defaultId => (.ok (.id s.pointer), s)
  | .setDefault id => ((s.setDefault id).map fun _ => .done, (s.setDefault id).toOption.getD s)
  | .delete id => (.ok (.removed (s.delete id).1), (s.delete id).2)
  | .list => (.ok (.templates s.list), s)

/-- A store in memory points to a stored template only. -/
theorem outcome_point (s : MemoryStore) (journal : List JournalEntry) (id : String) :
    session.outcome (operations.setDefault id) (s, journal) =
      match s.setDefault id with
      | .ok s' => (.ok (), s', journal)
      | .error e => (.error e, s, journal) := by
  have looked : session.outcome (ε := StoreFault) MonadState.get (s, journal) =
    (.ok (s, journal), s, journal) := rfl
  unfold operations
  dsimp only
  rw [Runner.outcome_bind, looked]
  dsimp only
  cases s.setDefault id <;> rfl

theorem outcome_perform (s : MemoryStore) (journal : List JournalEntry) (call : StoreCall) :
    session.outcome (call.perform operations) (s, journal) =
      ((s.reply call).1, (s.reply call).2, journal) := by
  cases call with
  | setDefault id =>
    unfold StoreCall.perform reply
    rw [Runner.outcome_bind, outcome_point]
    dsimp only
    cases s.setDefault id <;> rfl
  | _ => rfl

/-- All that a store in memory refuses is to point to a template that is not there. -/
theorem not_access_of_reply {s : MemoryStore} {call : StoreCall} {e : StoreFault}
    (failed : (s.reply call).1 = .error e) : ¬ e.OfAccess := by
  cases call with
  | setDefault id =>
    change (s.setDefault id).map _ = _ at failed
    unfold setDefault at failed
    split at failed
    · cases failed
    · cases failed
      exact nofun
  | _ => cases failed

end MemoryStore

namespace FileStore

open StoreProgram

variable {s : FileStore}

/-- Whether all actions of calls made one after another succeed. -/
def CalmThroughout (s : FileStore) : List StoreTurn → World → Prop
  | [], _ => True
  | turn :: rest, w => Calm (turn.call.perform s.operations) (turn.enter w) ∧
    s.CalmThroughout rest (program.after (turn.call.perform s.operations) (turn.enter w))

instance decidableCalmThroughout (s : FileStore) : (turns : List StoreTurn) → (w : World) →
    Decidable (s.CalmThroughout turns w)
  | [], _ => .isTrue trivial
  | turn :: rest, w =>
    have := decidableCalmThroughout s rest
      (program.after (turn.call.perform s.operations) (turn.enter w))
    inferInstanceAs (Decidable (_ ∧ _))

theorem candid_perform (call : StoreCall) : Candid (call.perform s.operations) := by
  cases call with
  | upsert t => exact (candid_upsert t).bind fun _ => candid_pure _
  | get id => exact (candid_get id).bind fun _ => candid_pure _
  | getDefault => exact candid_getDefault.bind fun _ => candid_pure _
  | defaultId => exact candid_defaultId.bind fun _ => candid_pure _
  | setDefault id => exact (candid_setDefault id).bind fun _ => candid_pure _
  | delete id => exact (candid_delete id).bind fun _ => candid_pure _
  | list => exact candid_list.bind fun _ => candid_pure _

end FileStore

end InvoiceForms
