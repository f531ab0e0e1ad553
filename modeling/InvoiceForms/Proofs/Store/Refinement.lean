import InvoiceForms.Proofs.Store.Mirroring
import InvoiceForms.Proofs.Store.Rendering

/-!
# Which store is used does not show

Whether templates are kept in a directory or in memory does not show in what calls are answered, as long
as the files can be worked with and no integer is too long to be written. Each call is answered alike
and keeps the directory a mirror of the store in memory, and so any sequence of calls does.
-/

namespace InvoiceForms

open InvoiceForms.Results
open Runner (program session)

/-- Whether the template of a call, if it has one, was read from data. -/
def StoreCall.Proper : StoreCall → Prop
  | upsert t => ∃ payload, t.ReadFrom payload
  | _ => True

/-- Whether the template of a call, if it has one, has no integer that is too long to be written. -/
def StoreCall.Writable : StoreCall → Prop
  | upsert t => t.toDocument.hasReadableIntegers = true
  | _ => True

/-- A turn of a call whose template was read from data, with names for temporary files. -/
structure StoreTurn.Proper (turn : StoreTurn) : Prop where
  named : ∀ stem, IsTemporary (turn.temporaryName stem)
  call : turn.call.Proper

namespace FileStore

open StoreProgram

variable {s : FileStore} {w : World} {tree : FileTree} {m : MemoryStore} {t : Template} {id : String}
  {call : StoreCall}

/-- A template in memory is alike to what is shown of its document. -/
theorem Mirrors.alike (mirrors : s.Mirrors tree m) (found : Entries.get? id m.templates = some t) :
    (t.sorted (m.pointer = some id)).Alike (m.materialize t) := by
  obtain ⟨rfl, filed⟩ := mirrors.filed id t found
  exact filed.accepted.alike_sorted _

theorem Mirrors.shown_alike (mirrors : s.Mirrors tree m) (id : String) :
    Option.Rel Template.Alike (shown m m.pointer id) (m.get id) := by
  unfold shown MemoryStore.get
  cases found : Entries.get? id m.templates with
  | none => exact .none
  | some t => exact .some (mirrors.alike found)

/-- The templates that a store in memory lists are those under its ids. -/
theorem Mirrors.mem_list_iff (mirrors : s.Mirrors tree m) : t ∈ m.list ↔
    ∃ id u, Entries.get? id m.templates = some u ∧ m.materialize u = t := by
  unfold MemoryStore.list
  rw [List.mem_map]
  constructor
  · rintro ⟨⟨id, u⟩, inside, rfl⟩
    exact ⟨id, u, Entries.get?_of_mem mirrors.distinct ((Arrangement.mem_of .sorted).mp inside), rfl⟩
  · rintro ⟨id, u, held, rfl⟩
    exact ⟨(id, u), (Arrangement.mem_of .sorted).mpr (Entries.mem_of_get? held), rfl⟩

/-- What is listed of the documents is what is listed in memory, up to order. -/
theorem Mirrors.list_alike {ts : List Template} (mirrors : s.Mirrors tree m)
    (listed : ∀ t, t ∈ ts ↔ ∃ id, shown m m.pointer id = some t) :
    StoreReply.Alike (.templates ts) (.templates m.list) := by
  refine .templates fun v => ?_
  simp only [List.mem_map, listed, mirrors.mem_list_iff]
  constructor
  · rintro ⟨t, ⟨id, here⟩, rfl⟩
    obtain ⟨u, held, rfl⟩ := Option.map_eq_some_iff.mp here
    exact ⟨m.materialize u, ⟨id, u, held, rfl⟩, (mirrors.alike held).symm⟩
  · rintro ⟨t, ⟨id, u, held, rfl⟩, rfl⟩
    exact ⟨u.sorted (m.pointer = some id), ⟨id, by rw [shown, held]; rfl⟩, mirrors.alike held⟩

/-- A call that can be written is answered as in memory, and keeps the mirrored store. -/
theorem tracks_perform (proper : call.Proper) (writable : call.Writable) :
    s.Tracks m (call.perform s.operations) fun r m' =>
      Agree StoreReply.Alike r (m.reply call).1 ∧ m' = (m.reply call).2 := by
  refine Tracks.of_mirrors fun tree mirrors => ?_
  cases call with
  | upsert t =>
    obtain ⟨payload, given⟩ := proper
    refine Tracks.map ((tracks_upsert given.accepted writable).mono ?_)
    rintro _ _ ⟨rfl, rfl⟩
    exact ⟨.result (.template (.some (.refl _))), rfl⟩
  | get id =>
    refine Tracks.map ((tracks_get id).mono ?_)
    rintro _ _ ⟨rfl, rfl⟩
    exact ⟨.result (.template (mirrors.shown_alike id)), rfl⟩
  | getDefault =>
    refine Tracks.map (tracks_getDefault.mono ?_)
    rintro _ m' ⟨rfl, rfl⟩
    refine ⟨.result (.template ?_), rfl⟩
    have alike := mirrors.shown_alike
    unfold MemoryStore.getDefault
    cases named : m'.pointer with
    | none => exact .none
    | some id =>
      rw [named] at alike
      exact alike id
  | defaultId =>
    refine Tracks.map (tracks_defaultId.mono ?_)
    rintro _ _ ⟨rfl, rfl⟩
    exact ⟨.result (.id _), rfl⟩
  | setDefault id =>
    refine Tracks.map ((tracks_setDefault id).mono ?_)
    rintro _ _ ⟨rfl, rfl⟩
    refine ⟨?_, rfl⟩
    show Agree StoreReply.Alike _ ((m.setDefault id).map _)
    cases m.setDefault id with
    | ok m' => exact .result .done
    | error e => exact .fault e
  | delete id =>
    refine Tracks.map ((tracks_delete id).mono ?_)
    rintro _ _ ⟨rfl, rfl⟩
    exact ⟨.result (.removed _), rfl⟩
  | list =>
    refine Tracks.map (tracks_list.mono ?_)
    rintro _ m' ⟨ts, rfl, listed, rfl⟩
    exact ⟨.result (mirrors.list_alike listed), rfl⟩

/-- Where the store in memory is mirrored, a call is answered alike when nothing about the files fails and
what it stores can be written. -/
theorem agree_iff (named : w.Names IsTemporary) (mirrors : s.Mirrors w.tree m) (proper : call.Proper) :
    Agree StoreReply.Alike (program.answer (call.perform s.operations) w) (m.reply call).1 ↔
      Calm (call.perform s.operations) w ∧ call.Writable := by
  constructor
  · intro agree
    have calm : Calm (call.perform s.operations) w := by
      refine (candid_perform call w).resolve_right ?_
      rintro ⟨e, failed, access⟩
      rw [failed] at agree
      generalize given : (m.reply call).1 = reply at agree
      cases agree
      exact MemoryStore.not_access_of_reply given access
    refine ⟨calm, ?_⟩
    cases call with
    | upsert t =>
      by_contra many
      obtain ⟨payload, given⟩ := proper
      have accepted : t.Accepted .sorted Json.distinctHere := given.accepted
      obtain ⟨w', refused⟩ := outcome_upsert_of_many accepted.undecodable? many calm.of_bind.1
      have failed : program.answer ((StoreCall.upsert t).perform s.operations) w =
          .error (.oversizedInteger none) := congrArg Prod.fst (outcome_bind_of_error refused _)
      rw [failed] at agree
      cases agree
    | _ => trivial
  · rintro ⟨calm, writable⟩
    obtain ⟨m', -, agree, -⟩ := tracks_perform proper writable w named mirrors calm
    exact agree

/-- The same for calls made one after another. The induction is on the calls, and what is mirrored is
handed on from each to the next. -/
theorem answers_agree_iff {turns : List StoreTurn} (journal : List JournalEntry)
    (mirrors : s.Mirrors w.tree m) (proper : ∀ turn ∈ turns, turn.Proper) :
    List.Forall₂ (Agree StoreReply.Alike) (program.answers s.operations StoreTurn.enter turns w)
        (session.answers MemoryStore.operations (fun _ state => state) turns (m, journal)) ↔
      s.CalmThroughout turns w ∧ ∀ turn ∈ turns, turn.call.Writable := by
  induction turns generalizing w m with
  | nil => exact iff_of_true .nil ⟨trivial, List.forall_mem_nil _⟩
  | cons turn rest ih =>
    obtain ⟨first, later⟩ := List.forall_mem_cons.mp proper
    have answered : session.answer (turn.call.perform MemoryStore.operations) (m, journal) =
        (m.reply turn.call).1 := congrArg Prod.fst (m.outcome_perform journal turn.call)
    have left : session.after (turn.call.perform MemoryStore.operations) (m, journal) =
        ((m.reply turn.call).2, journal) := congrArg Prod.snd (m.outcome_perform journal turn.call)
    have here : s.Mirrors (turn.enter w).tree m := mirrors
    have named : (turn.enter w).Names IsTemporary := first.named
    have next (calm : Calm (turn.call.perform s.operations) (turn.enter w))
        (writable : turn.call.Writable) :
        s.Mirrors (program.after (turn.call.perform s.operations) (turn.enter w)).tree
          (m.reply turn.call).2 := by
      obtain ⟨m', kept, -, rfl⟩ := tracks_perform first.call writable _ named here calm
      exact kept
    unfold Runner.answers CalmThroughout
    rw [List.forall₂_cons, List.forall_mem_cons, answered, left,
      agree_iff named here first.call]
    constructor
    · rintro ⟨⟨calm, writable⟩, tail⟩
      obtain ⟨calms, writables⟩ := (ih (next calm writable) later).mp tail
      exact ⟨⟨calm, calms⟩, writable, writables⟩
    · rintro ⟨⟨calm, calms⟩, writable, writables⟩
      exact ⟨⟨calm, writable⟩, (ih (next calm writable) later).mpr ⟨calms, writables⟩⟩

/-- From an empty store on, calls that store templates which were read from data are answered alike by a
store in a directory and one in memory exactly when nothing about the files fails and no template has an
integer that is too long to be written. -/
theorem answers_alike_iff (empty : s.Vacant w.tree) {turns : List StoreTurn}
    (proper : ∀ turn ∈ turns, turn.Proper) :
    List.Forall₂ (Agree StoreReply.Alike) (program.answers s.operations StoreTurn.enter turns w)
        (session.answers MemoryStore.operations (fun _ state => state) turns ({}, [])) ↔
      s.CalmThroughout turns w ∧ ∀ turn ∈ turns, turn.call.Writable :=
  answers_agree_iff [] empty.mirrors proper

theorem vacant_nil (s : FileStore) : s.Vacant {} := by
  rintro q ⟨rest, rfl⟩ other
  exact if_neg fun top => other (by rw [top, (List.append_eq_nil_iff.mp top).1])

theorem named_usual (stem : String) : IsTemporary ("." ++ stem ++ ".tmp") :=
  ⟨("." ++ stem).toList, String.toList_append.symm⟩

/-- Pointing to a table that is not there, storing it, deleting another one, and looking for it. -/
def tableTurns : List StoreTurn := [
  { call := .setDefault "table" }, { call := .upsert (tableTemplate ["title", "price"]) },
  { call := .delete "chair" }, { call := .defaultId }, { call := .get "table" }]

/-- Both stores give the table alike, though its columns come back from a document in another order. -/
theorem tableTurns_answered_alike :
    (∀ turn ∈ tableTurns, turn.Proper) ∧
    List.Forall₂ (Agree StoreReply.Alike)
      (program.answers (operations ⟨["store"]⟩) StoreTurn.enter tableTurns {})
      (session.answers MemoryStore.operations (fun _ state => state) tableTurns ({}, [])) := by
  have proper : ∀ turn ∈ tableTurns, turn.Proper := by
    unfold tableTurns
    simp only [List.forall_mem_cons]
    exact ⟨⟨named_usual, trivial⟩, ⟨named_usual, _, readFrom_of_titles⟩, ⟨named_usual, trivial⟩,
      ⟨named_usual, trivial⟩, ⟨named_usual, trivial⟩, List.forall_mem_nil _⟩
  have calm : CalmThroughout ⟨["store"]⟩ tableTurns {} := by
    refine ⟨by decide, by decide, by decide, by decide, ?_, trivial⟩
    exact Calm.bind (Calm.bind (by decide) fun _ => calm_load (by decide))
      fun _ => trivial
  have writable : (tableTemplate ["title", "price"]).toDocument.hasReadableIntegers = true := by
    decide
  refine ⟨proper, (answers_alike_iff (vacant_nil _) proper).mpr ⟨calm, ?_⟩⟩
  unfold tableTurns
  simp only [List.forall_mem_cons]
  exact ⟨trivial, writable, trivial, trivial, trivial, List.forall_mem_nil _⟩

/-- Data of a template with a section that stands very far down. -/
def farPayload : Entries Json := [
  ("id", .text "far"), ("name", .text "Far"), ("companyInfo", .object [("name", .text "Meadow")]),
  ("sections", .object [("header", .object [("position", .int (10 ^ 4300))])])]

/-- The template of this data. -/
def farTemplate : Template where
  id := "far"
  name := "Far"
  company := { name := "Meadow" }
  sections := [{ variant := .plain .header, position := 10 ^ 4300 }]

/-- A store in a directory refuses to write the template, though nothing about the files fails; one in
memory takes it. -/
theorem farTemplate_not_alike :
    farTemplate.ReadFrom farPayload ∧ Calm (upsert ⟨["store"]⟩ farTemplate) {} ∧
    program.answer (upsert ⟨["store"]⟩ farTemplate) {} = .error (.oversizedInteger none) ∧
    session.answer (MemoryStore.operations.upsert farTemplate) ({}, []) = .ok farTemplate := by
  have calm : Calm (upsert ⟨["store"]⟩ farTemplate) {} := by decide +kernel
  obtain ⟨w', refused⟩ := outcome_upsert_of_many (by decide +kernel) (by decide +kernel) calm
  refine ⟨⟨by decide +kernel, by decide +kernel, by decide +kernel,
    toOption_eq_some.mp (by decide +kernel)⟩, calm, congrArg Prod.fst refused, rfl⟩

end FileStore

end InvoiceForms
