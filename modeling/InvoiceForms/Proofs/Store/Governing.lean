import InvoiceForms.Proofs.Json.Arrangement
import InvoiceForms.Proofs.Store.Calls
import InvoiceForms.Proofs.Store.Flags
import InvoiceForms.Proofs.Validation.Refusals
import InvoiceForms.Store.Governor

/-!
# Governed stores in memory

Whatever calls of a store in memory and of its governors were made, the pointer names a stored template
(`MemoryStore.Sound`). From every such state a governor refuses before anything is written, and where it
does not refuse, it writes one template and moves the pointer. It refuses templates with errors, and those
that cannot be validated.
-/

namespace InvoiceForms

open Runner (session)

/-- A call of a store, or of a governor that holds templates to something. -/
inductive GovernedCall
  | store (call : StoreCall)
  | setDefault (v : Validator) (id : String)
  | save (v : Validator) (t : Template)

namespace Validator

/-- There is an error among the issues of a template. -/
def FindsError (v : Validator) (t : Template) : Prop :=
  ∃ issues, v.validate t = .ok issues ∧ ∃ issue ∈ issues, issue.severity = .error

/-- What a governor refuses a template with, if it does. -/
def refusal? (v : Validator) (t : Template) : Option StoreFault :=
  match v.validate t with
  | .error e => some (.unchecked e)
  | .ok issues => if Issue.hasErrors issues then some (.configuration (.notUsable t.id issues)) else none

/-- Whether a template is refused is no matter of its flag. -/
theorem refusal?_flag (v : Validator) (t : Template) (flag : Bool) :
    v.refusal? { t with isDefault := flag } = v.refusal? t := rfl

/-- What a refusal says about the template. -/
inductive Refuses (v : Validator) (t : Template) : Option StoreFault → Prop
  | unchecked (shares : t.SharesUnwritable) (silent : ¬ v.FindsError t) :
    Refuses v t (some (.unchecked .unwritablePosition))
  | configuration (cause : ConfigurationFault) (finds : v.FindsError t)
    (writable : ¬ t.SharesUnwritable) : Refuses v t (some (.configuration cause))
  | accepted (clean : ¬ v.FindsError t) (writable : ¬ t.SharesUnwritable) : Refuses v t none

theorem refuses_refusal? (v : Validator) (t : Template) : v.Refuses t (v.refusal? t) := by
  unfold refusal?
  cases validated : v.validate t with
  | error e =>
    cases e
    refine .unchecked (validate_eq_error_iff.mp validated) ?_
    rintro ⟨issues, given, -⟩
    cases validated.symm.trans given
  | ok issues =>
    have writable := (validate_eq_ok_iff.mp validated).1
    have finds : Issue.hasErrors issues = true ↔ v.FindsError t := by
      rw [Issue.hasErrors, List.any_eq_true, FindsError, validated]
      simp [Issue.isError]
    dsimp only
    split
    · next errors => exact .configuration _ (finds.mp errors) writable
    · next clean => exact .accepted (fun given => clean (finds.mpr given)) writable

end Validator

namespace MemoryStore

variable {s : MemoryStore} {t : Template} {id other : String} {journal : List JournalEntry}

/-- The governor of a store in memory. -/
def governor (v : Validator) : Governor Session := ⟨operations, v⟩

/-- What a call does. -/
def perform : GovernedCall → ExceptT StoreFault Session StoreReply
  | .store call => call.perform operations
  | .setDefault v id => do
    (governor v).setDefault id
    return .done
  | .save v t => do return .template (some (← (governor v).save t))

/-- The store and its journal behind calls made one after another. One that fails does not keep the next
one from being made. -/
def afterCalls (calls : List GovernedCall) (w : MemoryStore × List JournalEntry) :
    MemoryStore × List JournalEntry :=
  calls.foldl (fun w call => session.after (perform call) w) w

/-- Every template is stored once, under its own id and without a flag, and the pointer names one of
them. -/
structure Sound (s : MemoryStore) : Prop where
  once : (Entries.keys s.templates).Nodup
  own : ∀ e ∈ s.templates, e.2.id = e.1 ∧ e.2.isDefault = false
  pointed : ∀ id, s.pointer = some id → id ∈ Entries.keys s.templates

theorem mem_keys_set (key : String) (m : Entries Template) :
    other ∈ Entries.keys (Entries.set key t m) ↔ other = key ∨ other ∈ Entries.keys m := by
  rw [Entries.keys_set]
  split
  · next inside => exact ⟨.inr, fun given => given.elim (fun same => same ▸ inside) id⟩
  · rw [List.mem_append, List.mem_singleton, or_comm]

theorem isSome_get?_iff {m : Entries Template} :
    (Entries.get? id m).isSome = true ↔ id ∈ Entries.keys m := by
  rw [← Option.ne_none_iff_isSome, ne_eq, Entries.get?_eq_none_iff, not_not]

theorem Sound.upsert (sound : s.Sound) (t : Template) : (s.upsert t).Sound where
  once := Entries.nodup_keys_set sound.once _ _
  own e member := by
    rcases Entries.mem_set member with rfl | inside
    · exact ⟨rfl, rfl⟩
    · exact sound.own e inside
  pointed id named := (mem_keys_set _ _).mpr (.inr (sound.pointed id named))

theorem Sound.pointTo (sound : s.Sound) (there : id ∈ Entries.keys s.templates) :
    Sound { s with pointer := some id } where
  once := sound.once
  own := sound.own
  pointed := by
    rintro _ ⟨⟩
    exact there

/-- A removed template takes the pointer to it back. -/
theorem Sound.delete (sound : s.Sound) (id : String) : (s.delete id).2.Sound := by
  unfold MemoryStore.delete
  split
  · refine ⟨Entries.nodup_keys_erase sound.once id, fun e member => ?_, fun named points => ?_⟩
    · exact sound.own e ((Entries.erase_sublist id _).subset member)
    · dsimp only at points ⊢
      split at points
      · cases points
      · next elsewhere =>
        have distinct : named ≠ id := fun same => elsewhere (same ▸ points)
        rw [← isSome_get?_iff, Entries.get?_erase_of_ne distinct]
        exact isSome_get?_iff.mpr (sound.pointed named points)
  · exact sound

theorem Sound.setDefault (sound : s.Sound) {s' : MemoryStore} (points : s.setDefault id = .ok s') :
    s'.Sound := by
  unfold MemoryStore.setDefault at points
  split at points
  · next there =>
    cases points
    exact sound.pointTo (isSome_get?_iff.mp there)
  · cases points

theorem Sound.reply (sound : s.Sound) (call : StoreCall) : (s.reply call).2.Sound := by
  cases call with
  | upsert t => exact sound.upsert t
  | setDefault id =>
    show ((s.setDefault id).toOption.getD s).Sound
    cases points : s.setDefault id with
    | ok s' => exact sound.setDefault points
    | error e => exact sound
  | delete id => exact sound.delete id
  | get | getDefault | defaultId | list => exact sound

theorem mem_keys_upsert (s : MemoryStore) (t : Template) : t.id ∈ Entries.keys (s.upsert t).templates :=
  (mem_keys_set _ _).mpr (.inl rfl)

theorem sound_ofList (ts : List Template) : (ofList ts).Sound := by
  have added (ts : List Template) (s : MemoryStore) (sound : s.Sound) : (ts.foldl add s).Sound := by
    induction ts generalizing s with
    | nil => exact sound
    | cons t ts ih =>
      refine ih _ ?_
      unfold add
      dsimp only
      split
      · exact (sound.upsert t).pointTo (mem_keys_upsert s t)
      · exact sound.upsert t
  exact added ts {} ⟨List.nodup_nil, by simp, by simp⟩

section Governor

variable (v : Validator) (t : Template) (id : String) (s : MemoryStore) (journal : List JournalEntry)

/-- What is reported of a new default. -/
def announcement (previous : Option String) (id : String) : JournalEntry where
  level := .info
  origin := "invoice_templates.rendering.governor"
  message := "Default invoice template changed"
  details := [("previous", .ofText? previous), ("template", .text id)]

theorem outcome_checkUsable (w : MemoryStore × List JournalEntry) :
    session.outcome ((governor v).checkUsable t) w =
      match v.refusal? t with
      | some e => (.error e, w)
      | none => (.ok (), w) := by
  unfold Governor.checkUsable Validator.refusal?
  show session.outcome (match v.validate t with | .error e => _ | .ok issues => _) w = _
  cases v.validate t with
  | error e => rfl
  | ok issues =>
    dsimp only
    split <;> rfl

/-- Making a template the default refuses, or moves the pointer and says so. -/
theorem outcome_setDefault : session.outcome ((governor v).setDefault id) (s, journal) =
    match s.get id with
    | none => (.error (.notFound id), s, journal)
    | some t =>
      match v.refusal? t with
      | some e => (.error e, s, journal)
      | none => (.ok (), { s with pointer := some id }, journal ++ [announcement s.pointer id]) := by
  have looked : session.outcome ((governor v).store.get id) (s, journal) = (.ok (s.get id), s, journal) := rfl
  unfold Governor.setDefault
  rw [Runner.outcome_bind, looked]
  cases found : s.get id with
  | none => rfl
  | some t =>
    dsimp only
    rw [Runner.outcome_bind, outcome_checkUsable]
    cases v.refusal? t with
    | some e => rfl
    | none =>
      obtain ⟨u, stored, -⟩ := Option.map_eq_some_iff.mp found
      have points : session.outcome ((governor v).store.setDefault id) (s, journal) =
          (.ok (), { s with pointer := some id }, journal) := by
        refine (outcome_point s journal id).trans ?_
        rw [MemoryStore.setDefault, stored]
        rfl
      have previous : session.outcome (governor v).store.defaultId (s, journal) =
        (.ok s.pointer, s, journal) := rfl
      dsimp only
      rw [Runner.outcome_bind, previous]
      dsimp only
      rw [Runner.outcome_bind, points]
      rfl

/-- Saving a template refuses before anything is written, or stores it and then points to it. The second
look for errors, behind the writing, finds what the first one did. -/
theorem outcome_save : session.outcome ((governor v).save t) (s, journal) =
    if t.isDefault then
      match v.refusal? t with
      | some e => (.error e, s, journal)
      | none => (.ok { t with isDefault := true }, { s.upsert t with pointer := some t.id },
          journal ++ [announcement s.pointer t.id])
    else (.ok { t with isDefault := s.pointer = some t.id }, s.upsert t, journal) := by
  have stores : session.outcome ((governor v).store.upsert t) (s, journal) =
      (.ok ((s.upsert t).materialize t), s.upsert t, journal) := rfl
  have stored : Entries.get? t.id (s.upsert t).templates = some { t with isDefault := false } :=
    Entries.get?_set_self _ _ _
  unfold Governor.save
  by_cases flagged : t.isDefault = true
  · rw [if_pos flagged, if_pos flagged, Runner.outcome_bind, outcome_checkUsable]
    cases refused : v.refusal? t with
    | some e => rfl
    | none =>
      dsimp only
      have there : (s.upsert t).get t.id =
          some ((s.upsert t).materialize { t with isDefault := false }) := by
        rw [MemoryStore.get, stored]
        rfl
      have points : session.outcome ((governor v).setDefault t.id) (s.upsert t, journal) =
          (.ok (), { s.upsert t with pointer := some t.id }, journal ++ [announcement s.pointer t.id]) := by
        rw [outcome_setDefault, there]
        dsimp only
        rw [materialize, Validator.refusal?_flag, Validator.refusal?_flag, refused]
        rfl
      rw [Runner.outcome_bind, stores]
      dsimp only
      rw [if_pos flagged, Runner.outcome_bind, points]
      dsimp only
      have fetched : MemoryStore.get { s.upsert t with pointer := some t.id } t.id =
          some { t with isDefault := true } := by
        rw [MemoryStore.get, stored]
        simp [materialize]
      have looked (w : MemoryStore × List JournalEntry) :
        session.outcome ((governor v).store.get t.id) w = (.ok (w.1.get t.id), w) := rfl
      rw [Runner.outcome_bind, looked, fetched]
      rfl
  · rw [if_neg flagged, if_neg flagged]
    dsimp only
    rw [Runner.outcome_bind, stores]
    dsimp only
    rw [if_neg flagged]
    rfl

end Governor

/-- No call takes soundness away. -/
theorem Sound.after_perform (sound : s.Sound) (call : GovernedCall) :
    (session.after (perform call) (s, journal)).1.Sound := by
  cases call with
  | store call =>
    rw [perform, Runner.after, outcome_perform]
    exact sound.reply call
  | setDefault v id =>
    have whole : session.after (perform (.setDefault v id)) (s, journal) =
        (session.outcome ((governor v).setDefault id) (s, journal)).2 :=
      congrArg Prod.snd (Runner.outcome_bind_pure session _ (fun _ => StoreReply.done) _)
    rw [whole, outcome_setDefault]
    cases found : s.get id with
    | none => exact sound
    | some t =>
      dsimp only
      split
      · exact sound
      · obtain ⟨u, stored, -⟩ := Option.map_eq_some_iff.mp found
        exact sound.pointTo (isSome_get?_iff.mp (Option.isSome_of_eq_some stored))
  | save v t =>
    have whole : session.after (perform (.save v t)) (s, journal) =
        (session.outcome ((governor v).save t) (s, journal)).2 :=
      congrArg Prod.snd (Runner.outcome_bind_pure session _ (fun u => StoreReply.template (some u)) _)
    rw [whole, outcome_save]
    split
    · split
      · exact sound
      · exact (sound.upsert t).pointTo (mem_keys_upsert s t)
    · exact sound.upsert t

/-- Calls lead from sound stores to sound stores. -/
theorem Sound.afterCalls (sound : s.Sound) (calls : List GovernedCall) :
    (afterCalls calls (s, journal)).1.Sound := by
  induction calls generalizing s journal with
  | nil => exact sound
  | cons call rest ih => exact ih (sound.after_perform call)

/-- In a sound store the template under an id is shown as the default when the pointer names that id. -/
theorem Sound.isDefault_iff_of_get (sound : s.Sound) (shown : s.get id = some t) :
    t.isDefault = true ↔ s.pointer = some id := by
  obtain ⟨u, stored, rfl⟩ := Option.map_eq_some_iff.mp shown
  obtain ⟨own, -⟩ := sound.own _ (Entries.mem_of_get? stored)
  dsimp only at own
  rw [← own]
  exact decide_eq_true_iff

/-- A listing shows each template as it is got. -/
theorem Sound.list_eq (sound : s.Sound) :
    s.list = (Entries.keys (Json.sortEntries s.templates)).filterMap s.get := by
  have each : ∀ e ∈ Json.sortEntries s.templates, s.get e.1 = some (s.materialize e.2) := by
    intro e member
    have stored : e ∈ s.templates := (List.mergeSort_perm s.templates _).mem_iff.mp member
    rw [MemoryStore.get, Entries.get?_of_mem sound.once stored]
    rfl
  rw [list, Entries.keys, List.filterMap_map, ← List.filterMap_eq_map]
  exact List.filterMap_congr fun e member => (each e member).symm

/-- At most one template of a listing is the default. -/
theorem Sound.one_default (sound : s.Sound) : (s.list.filter (·.isDefault)).length ≤ 1 := by
  have once : (Entries.keys (Json.sortEntries s.templates)).Nodup :=
    ((List.mergeSort_perm s.templates _).map Prod.fst).nodup_iff.mpr sound.once
  rw [sound.list_eq]
  exact FileStore.length_filter_filterMap_le_one once fun id t shown flagged =>
    (sound.isDefault_iff_of_get shown).mp flagged

/-- How a store in memory stands, and what its governors do from there. -/
structure Governs (w : MemoryStore × List JournalEntry) : Prop where
  pointed : ∀ id, w.1.pointer = some id → (w.1.get id).isSome
  one : (w.1.list.filter (·.isDefault)).length ≤ 1
  /-- Saving refuses flagged templates with errors as what they are. -/
  refuses_iff : ∀ v t, (∃ cause, session.answer ((governor v).save t) w = .error (.configuration cause)) ↔
    t.isDefault = true ∧ v.FindsError t
  /-- Validation itself fails on flagged templates that share a position which cannot be written out. -/
  breaks_iff : ∀ v t, session.answer ((governor v).save t) w = .error (.unchecked .unwritablePosition) ↔
    t.isDefault = true ∧ t.SharesUnwritable
  /-- It fails in no other way, and a failure leaves everything as it is. -/
  refuses : ∀ v t e, session.answer ((governor v).save t) w = .error e →
    ((∃ cause, e = .configuration cause) ∨ e = .unchecked .unwritablePosition) ∧
      session.after ((governor v).save t) w = w
  /-- Otherwise it stores the template without its flag, moves the pointer if there is a flag, and gives the
  template with the flag that the pointer gives it. -/
  saves : ∀ v t stored, session.answer ((governor v).save t) w = .ok stored →
    let s := (session.after ((governor v).save t) w).1
    Entries.get? t.id s.templates = some { t with isDefault := false } ∧
      (∀ other, other ≠ t.id → Entries.get? other s.templates = Entries.get? other w.1.templates) ∧
      s.pointer = (if t.isDefault then some t.id else w.1.pointer) ∧
      stored = { t with isDefault := s.pointer = some t.id }
  /-- Making a template the default finds none, or refuses one with errors or that cannot be validated, or
  moves nothing but the pointer. -/
  sets : ∀ v id,
    (w.1.get id = none ∧ session.outcome ((governor v).setDefault id) w = (.error (.notFound id), w)) ∨
    ∃ t, w.1.get id = some t ∧
      ((v.FindsError t ∧ ∃ cause,
          session.outcome ((governor v).setDefault id) w = (.error (.configuration cause), w)) ∨
        (t.SharesUnwritable ∧
          session.outcome ((governor v).setDefault id) w = (.error (.unchecked .unwritablePosition), w)) ∨
        (¬ v.FindsError t ∧ ¬ t.SharesUnwritable ∧ ∃ journal,
          session.outcome ((governor v).setDefault id) w = (.ok (), { w.1 with pointer := some id }, journal)))

theorem Sound.governs (sound : s.Sound) : Governs (s, journal) where
  pointed id named := by
    rw [MemoryStore.get, Option.isSome_map]
    exact isSome_get?_iff.mpr (sound.pointed id named)
  one := sound.one_default
  refuses_iff v t := by
    rw [Runner.answer, outcome_save]
    have refuses := v.refuses_refusal? t
    generalize v.refusal? t = refusal at refuses
    by_cases flagged : t.isDefault = true <;> cases refuses <;> simp_all
  breaks_iff v t := by
    rw [Runner.answer, outcome_save]
    have refuses := v.refuses_refusal? t
    generalize v.refusal? t = refusal at refuses
    by_cases flagged : t.isDefault = true <;> cases refuses <;> simp_all
  refuses v t e failed := by
    rw [Runner.answer, outcome_save] at failed
    rw [Runner.after, outcome_save]
    split at failed
    · next flagged =>
      rw [if_pos flagged]
      have refuses := v.refuses_refusal? t
      generalize v.refusal? t = refusal at refuses failed
      cases refuses with
      | unchecked =>
        cases failed
        exact ⟨.inr rfl, rfl⟩
      | configuration cause =>
        cases failed
        exact ⟨.inl ⟨cause, rfl⟩, rfl⟩
      | accepted => cases failed
    · cases failed
  saves v t stored given := by
    have own : Entries.get? t.id (s.upsert t).templates = some { t with isDefault := false } :=
      Entries.get?_set_self _ _ _
    have others (other : String) (distinct : other ≠ t.id) :
        Entries.get? other (s.upsert t).templates = Entries.get? other s.templates :=
      Entries.get?_set_of_ne distinct _ _
    rw [Runner.answer, outcome_save] at given
    rw [Runner.after, outcome_save]
    split at given
    · next flagged =>
      rw [if_pos flagged, if_pos flagged]
      cases refused : v.refusal? t with
      | some e =>
        rw [refused] at given
        cases given
      | none =>
        rw [refused] at given
        cases given
        exact ⟨own, others, rfl, by simp⟩
    · next plain =>
      cases given
      rw [if_neg plain, if_neg plain]
      exact ⟨own, others, rfl, rfl⟩
  sets v id := by
    rw [outcome_setDefault]
    cases found : s.get id with
    | none => exact .inl ⟨rfl, rfl⟩
    | some t =>
      refine .inr ⟨t, rfl, ?_⟩
      dsimp only
      have refuses := v.refuses_refusal? t
      generalize v.refusal? t = refusal at refuses
      cases refuses with
      | unchecked shares => exact .inr (.inl ⟨shares, rfl⟩)
      | configuration cause finds => exact .inl ⟨finds, cause, rfl⟩
      | accepted clean writable => exact .inr (.inr ⟨clean, writable, _, rfl⟩)

/-- From whatever templates a store in memory is made, and whatever calls of it and of its governors come
before, its pointer names a stored template or none, at most one template that is listed is the default, and
its governors refuse without a trace or do what they say. What they refuse has errors, or shares a position
that cannot be written out, on which validation itself fails. -/
theorem governs_of_calls (ts : List Template) (journal : List JournalEntry) (calls : List GovernedCall) :
    Governs (afterCalls calls (ofList ts, journal)) :=
  ((sound_ofList ts).afterCalls calls).governs

/-- A flagged template whose header and footer are so far down that their position cannot be written out is
neither refused for its errors nor stored, though its data is accepted; and where it is stored, making it the
default is refused for another reason than that it is missing or in error. -/
theorem far_stacked_neither_refused_nor_saved :
    Template.schema.validate (.ofJson (.object (Template.stackedPayload (10 ^ 4300)))) =
      .ok (.stacked (10 ^ 4300)) ∧
    session.outcome ((governor {}).save { Template.stacked (10 ^ 4300) with isDefault := true })
      (ofList [], []) = (.error (.unchecked .unwritablePosition), ofList [], []) ∧
    session.outcome ((governor {}).setDefault "stacked") (ofList [.stacked (10 ^ 4300)], []) =
      (.error (.unchecked .unwritablePosition), ofList [.stacked (10 ^ 4300)], []) := by
  have refused : Validator.refusal? {} (.stacked (10 ^ 4300)) =
      some (.unchecked .unwritablePosition) := by
    rw [Validator.refusal?, Validator.validate_of_unwritable Template.sharesUnwritable_far]
  have stored : (ofList [.stacked (10 ^ 4300)]).get "stacked" = some (.stacked (10 ^ 4300)) := rfl
  refine ⟨Template.validate_stackedPayload, ?_, ?_⟩
  · rw [outcome_save, if_pos rfl, Validator.refusal?_flag, refused]
  · rw [outcome_setDefault, stored]
    dsimp only
    rw [refused]

end MemoryStore

end InvoiceForms
