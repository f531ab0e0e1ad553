import InvoiceForms.Proofs.Store.Reading

/-!
# Faults of access

The operations of a store do not hide that files cannot be read or written: a run that is not calm ends
in a fault that says so. So whatever else comes out, a result or another fault, comes from a calm run.
-/

namespace InvoiceForms

open InvoiceForms.Text
open Runner (program)

/-- The faults that say that files cannot be read or written. -/
inductive StoreFault.OfAccess : StoreFault → Prop
  | unavailable (cause : Unavailability) : OfAccess (.unavailable cause)
  | file (cause : FileFault) : OfAccess (.file cause)

namespace Program

variable {α β : Type}

/-- Whether every run of a program that gives a result of its own is calm or gives a fault. -/
def Candid (p : Program (Except FileFault α)) : Prop :=
  ∀ w, p.Calm w ∨ ∃ e, (p.run w).1 = .error e

/-- An action may fail where what follows its failure gives a fault. -/
theorem candid_perform_bind {action : Action β} {f : β → Program (Except FileFault α)}
    (rest : ∀ r, action.Succeeds r → (f r).Candid)
    (fails : ∀ r, ¬ action.Succeeds r → ∀ w, ∃ e, ((f r).run w).1 = .error e) :
    (perform action >>= f).Candid := by
  intro w
  rw [run_perform_bind]
  by_cases succeeds : action.Succeeds (w.perform action).1
  · rcases rest _ succeeds (w.perform action).2 with calm | failed
    · exact .inl ⟨succeeds, calm⟩
    · exact .inr failed
  · exact .inr (fails _ succeeds _)

end Program

namespace StoreProgram

open Program (calm_bind_of_ok calm_bind_of_error)

variable {α β : Type} {w : World} {x : StoreProgram α} {f : α → StoreProgram β}

/-- Whether every run of a program is calm or ends in a fault of access. -/
def Candid (x : StoreProgram α) : Prop :=
  ∀ w, Calm x w ∨ ∃ e, program.answer x w = .error e ∧ e.OfAccess

theorem candid_pure (a : α) : Candid (pure a : StoreProgram α) := fun _ => .inl trivial

theorem candid_throw (e : StoreFault) : Candid (throw e : StoreProgram α) := fun _ => .inl trivial

theorem Candid.calm_of_ok (candid : Candid x) {a : α} (given : program.answer x w = .ok a) :
    Calm x w := by
  rcases candid w with calm | ⟨e, failed, -⟩
  · exact calm
  · rw [given] at failed
    cases failed

theorem Candid.bind (first : Candid x) (rest : ∀ a, Candid (f a)) : Candid (x >>= f) := by
  intro w
  rcases given : program.outcome x w with ⟨e | a, w'⟩
  · rcases first w with calm | ⟨e', failed, access⟩
    · exact .inl (calm_bind_of_error calm given)
    · refine .inr ⟨e', ?_, access⟩
      rw [Runner.answer, given] at failed
      cases failed
      rw [Runner.answer, outcome_bind_of_error given]
  · have calm := first.calm_of_ok (congrArg Prod.fst given)
    rcases rest a w' with calm' | ⟨e, failed, access⟩
    · exact .inl (calm_bind_of_ok calm given calm')
    · refine .inr ⟨e, ?_, access⟩
      rw [Runner.answer, outcome_bind_of_ok given]
      exact failed

/-- An action may fail where what follows its failure is a fault of access. -/
theorem candid_perform_bind {action : Action α} {f : α → StoreProgram β}
    (rest : ∀ r, action.Succeeds r → Candid (f r))
    (fails : ∀ r, ¬ action.Succeeds r → ∃ e, f r = throw e ∧ e.OfAccess) :
    Candid (perform action >>= f) := by
  intro w
  have given := outcome_perform action w
  by_cases succeeds : action.Succeeds (w.perform action).1
  · rcases rest _ succeeds (w.perform action).2 with calm | ⟨e, failed, access⟩
    · exact .inl (calm_bind_of_ok (calm_perform.mpr succeeds) given calm)
    · refine .inr ⟨e, ?_, access⟩
      rw [Runner.answer, outcome_bind_of_ok given]
      exact failed
  · obtain ⟨e, thrown, access⟩ := fails _ succeeds
    refine .inr ⟨e, ?_, access⟩
    rw [Runner.answer, outcome_bind_of_ok given, thrown, Runner.outcome_throw]

theorem candid_attempt {fault : FileFault → StoreFault} (access : ∀ e, (fault e).OfAccess)
    {action : Action (Except FileFault α)} (succeeds : ∀ a, action.Succeeds (.ok a)) :
    Candid (attempt fault action) := by
  refine candid_perform_bind (fun r _ => ?_) fun r fails => ?_
  · cases r with
    | ok a => exact candid_pure a
    | error e => exact candid_throw _
  · cases r with
    | ok a => exact absurd (succeeds a) fails
    | error e => exact ⟨_, rfl, access e⟩

theorem calm_report (entry : JournalEntry) (w : World) : Calm (report entry) w :=
  calm_perform.mpr trivial

theorem candid_report (entry : JournalEntry) : Candid (report entry) := fun w =>
  .inl (calm_report entry w)

theorem candid_has (p : Path) : Candid (perform (.has p)) := fun _ => .inl (calm_perform.mpr trivial)

theorem candid_hasFile (p : Path) : Candid (perform (.hasFile p)) := fun _ =>
  .inl (calm_perform.mpr trivial)

end StoreProgram

namespace FileStore

open StoreProgram StoreFault
open Program (calm_bind_of_ok)

variable {s : FileStore} {α : Type}

theorem candid_takeLock (name : String) : Candid (s.takeLock name) := by
  have access (e : FileFault) : (noAccess e).OfAccess := .unavailable _
  unfold takeLock
  refine (candid_attempt access ?_).bind fun _ => (candid_attempt access ?_).bind fun _ =>
    (candid_attempt access ?_).bind fun _ => candid_perform_bind (fun r succeeds => ?_) fun r fails => ?_
  · exact fun _ => rfl
  · exact fun _ => rfl
  · exact fun _ => rfl
  · obtain rfl : r = .acquired := succeeds
    exact candid_pure ()
  · cases r with
    | acquired => exact absurd rfl fails
    | busy => exact ⟨_, rfl, .unavailable _⟩
    | failed e => exact ⟨_, rfl, access e⟩

theorem candid_locked {name : String} {body : StoreProgram α} (inside : Candid body) :
    Candid (s.locked name body) := by
  refine (candid_takeLock name).bind fun _ w => ?_
  have lifted := Runner.outcome_lift (ε := StoreFault) program body.run w
  rcases inside w with calm | ⟨e, failed, access⟩
  · left
    refine calm_bind_of_ok (Program.calm_bind.mpr ⟨calm, trivial⟩) lifted ?_
    have released : Calm (perform (.release (s.lockPath name))) (program.run body.run w).2 :=
      calm_perform.mpr trivial
    refine released.bind fun _ => ?_
    cases (program.run body.run w).1 <;> trivial
  · right
    have ended : (program.run body.run w).1 = .error e := failed
    refine ⟨e, ?_, access⟩
    rw [Runner.answer, outcome_bind_of_ok lifted, outcome_bind_of_ok (outcome_perform _ _), ended]
    rfl

/-- Each action on the way to a replaced file may fail, and the last one cleans up. -/
theorem candid_replaceFile (directory target : Path) (stem : String) (content : ByteArray) :
    (replaceFile directory stem target content).Candid := by
  have cleaned {temporary : Path} {e : FileFault} (w : World) : ∃ e', ((do
      let _ ← Program.perform (.unlink temporary)
      return .error e : Program (Except FileFault Unit)).run w).1 = .error e' := ⟨e, rfl⟩
  unfold replaceFile
  refine Program.candid_perform_bind (fun made succeeds => ?_) fun made fails w => ?_
  · obtain rfl : made = .ok () := succeeds
    refine Program.candid_perform_bind (fun named succeeds => ?_) fun named fails w => ?_
    · obtain ⟨temporary, rfl⟩ := succeeds
      refine Program.candid_perform_bind (fun written succeeds => ?_) fun written fails w => ?_
      · obtain rfl : written = .ok () := succeeds
        refine Program.candid_perform_bind (fun moved succeeds => ?_) fun moved fails w => ?_
        · obtain rfl : moved = .ok () := succeeds
          exact fun _ => .inl trivial
        · cases moved with
          | ok _ => exact absurd rfl fails
          | error e => exact cleaned w
      · cases written with
        | ok _ => exact absurd rfl fails
        | error e => exact cleaned w
    · cases named with
      | ok temporary => exact absurd ⟨temporary, rfl⟩ fails
      | error e => exact ⟨e, rfl⟩
  · cases made with
    | ok _ => exact absurd rfl fails
    | error e => exact ⟨e, rfl⟩

theorem candid_replaceDocument {fault : FileFault → StoreFault} (access : ∀ e, (fault e).OfAccess)
    (directory target : Path) (stem : String) (document : Json) :
    Candid (replaceDocument fault directory stem target document) := by
  intro w
  unfold replaceDocument
  have lifted := Runner.outcome_lift (ε := StoreFault) program
    (replaceFile directory stem target (encode (documentText document))) w
  rcases candid_replaceFile directory target stem (encode (documentText document)) w with
    calm | ⟨e, failed⟩
  · left
    refine calm_bind_of_ok (Program.calm_bind.mpr ⟨calm, trivial⟩) lifted ?_
    cases (program.run (replaceFile directory stem target (encode (documentText document))) w).1 <;>
      trivial
  · right
    refine ⟨fault e, ?_, access e⟩
    change (program.run (replaceFile directory stem target (encode (documentText document))) w).1 =
      .error e at failed
    rw [Runner.answer, outcome_bind_of_ok lifted, failed]
    rfl

theorem candid_writeTemplate (t : Template) : Candid (s.writeTemplate t) := by
  unfold writeTemplate
  split
  · exact candid_throw _
  · split
    · exact candid_replaceDocument (fun _ => .unavailable _) _ _ _ _
    · exact candid_throw _

theorem calm_readDocument {p : Path} {w : World}
    (readable : ∀ e, w.tree.read p = .error e → e.cause = .missing) : Calm (readDocument p) w := by
  have reads : Calm (perform (.read p)) w := calm_perform.mpr readable
  refine reads.bind fun result => ?_
  cases result with
  | ok content => exact calm_ofExcept _
  | error e => trivial

theorem readingAt_of_unreadable {tree : FileTree} {p : Path}
    (fails : ¬ ∀ e, tree.read p = .error e → e.cause = .missing) :
    ∃ e, readingAt tree p = .ok (.unreadable e) := by
  rw [not_forall] at fails
  obtain ⟨e, fails⟩ := fails
  obtain ⟨failed, other⟩ := Classical.not_imp.mp fails
  refine ⟨e, ?_⟩
  rw [readingAt, failed]
  exact congrArg _ (if_neg other)

/-- Looking for the pointer is calm as long as its file can be read or is missing. -/
theorem candid_defaultId : Candid s.defaultId := by
  intro w
  by_cases readable : ∀ e, w.tree.read s.pointerPath = .error e → e.cause = .missing
  · left
    refine (calm_readDocument readable).bind fun reading => ?_
    have reported (entry : JournalEntry) : Calm (do report entry; return none : StoreProgram
        (Option String)) (program.after (readDocument s.pointerPath) w) :=
      (calm_report entry _).bind fun _ => trivial
    cases reading with
    | found document =>
      cases document with
      | object members => trivial
      | _ => exact reported _
    | malformed e => exact reported _
    | _ => trivial
  · right
    obtain ⟨e, unreadable⟩ := readingAt_of_unreadable readable
    refine ⟨_, ?_, .unavailable (.readPointer e)⟩
    rw [answer_defaultId, pointed, unreadable]
    rfl

/-- Loading a template is calm as long as its document can be read or is missing. -/
theorem candid_load (id : String) (isDefault : Bool) : Candid (s.load id isDefault) := by
  intro w
  by_cases valid : TemplateId.isValid id = true
  · by_cases readable : ∀ e, w.tree.read (s.templatePath id) = .error e → e.cause = .missing
    · left
      unfold load
      rw [if_pos valid]
      refine (calm_readDocument readable).bind fun reading => ?_
      cases reading with
      | found document =>
        cases document with
        | object members => exact (calm_ofExcept _).bind fun _ => trivial
        | _ => trivial
      | _ => trivial
    · right
      obtain ⟨e, unreadable⟩ := readingAt_of_unreadable readable
      refine ⟨_, ?_, .unavailable (.readTemplate id e)⟩
      rw [Runner.answer, outcome_load, loaded, if_pos valid, unreadable]
      rfl
  · left
    unfold load
    rw [if_neg valid]
    trivial

theorem candid_get (id : String) : Candid (s.get id) := candid_defaultId.bind fun _ => candid_load _ _

theorem candid_getDefault : Candid s.getDefault := by
  refine candid_defaultId.bind fun pointer => ?_
  cases pointer with
  | none => exact candid_pure _
  | some id =>
    refine (candid_load id true).bind fun t => ?_
    dsimp only
    split
    · exact (candid_report _).bind fun _ => candid_pure _
    · exact candid_pure _

theorem candid_filesAmong (names : List String) : Candid (s.filesAmong names) := by
  induction names with
  | nil => exact candid_pure _
  | cons name rest ih =>
    exact (candid_hasFile _).bind fun _ => ih.bind fun _ => candid_pure _

theorem candid_storedIds : Candid s.storedIds := by
  refine (candid_has _).bind fun there => ?_
  split
  · have lists : Candid (attempt .file (.list s.templatesPath)) :=
      candid_attempt .file fun names => (⟨names, rfl⟩ : ∃ names', Except.ok names = Except.ok names')
    exact lists.bind fun names => (candid_filesAmong names).bind fun _ => candid_pure _
  · exact candid_pure _

/-- Only faults of configuration are passed over, and none of them is one of access. -/
theorem candid_loadAll (pointer : Option String) (ids : List String) :
    Candid (s.loadAll pointer ids) := by
  induction ids with
  | nil => exact candid_pure _
  | cons id rest ih =>
    intro w
    have lifted := Runner.outcome_lift (ε := StoreFault) program (s.load id (pointer = some id)).run w
    have ran : (program.run (s.load id (pointer = some id)).run w) =
        (s.loaded w.tree id (pointer = some id), w) := outcome_load s id _ w
    rw [ran] at lifted
    unfold loadAll
    rcases candid_load (s := s) id (pointer = some id) w with calm | ⟨e, failed, access⟩
    · have calm' : Calm (ExceptT.lift (s.load id (pointer = some id)).run : StoreProgram _) w :=
        Program.calm_bind.mpr ⟨calm, trivial⟩
      have goes (f : Except StoreFault (Option Template) → StoreProgram (List Template))
          (candid : Candid (f (s.loaded w.tree id (pointer = some id)))) :
          Calm (ExceptT.lift (s.load id (pointer = some id)).run >>= f) w ∨ ∃ e,
            program.answer (ExceptT.lift (s.load id (pointer = some id)).run >>= f) w = .error e ∧
              e.OfAccess := by
        rcases candid w with rest | ⟨e, failed, access⟩
        · exact .inl (calm_bind_of_ok calm' lifted rest)
        · refine .inr ⟨e, ?_, access⟩
          rw [Runner.answer, outcome_bind_of_ok lifted]
          exact failed
      refine goes _ ?_
      rcases s.loaded w.tree id (pointer = some id) with e | t
      · cases e with
        | configuration cause => exact (candid_report _).bind fun _ => ih
        | _ => exact candid_throw _
      · cases t with
        | none => exact ih
        | some t => exact ih.bind fun _ => candid_pure _
    · right
      have ended : s.loaded w.tree id (pointer = some id) = .error e := by
        rw [Runner.answer, outcome_load] at failed
        exact failed
      rw [ended] at lifted
      refine ⟨e, ?_, access⟩
      rw [Runner.answer, outcome_bind_of_ok lifted]
      cases access <;> rfl

theorem candid_list : Candid s.list :=
  candid_defaultId.bind fun _ => candid_storedIds.bind fun _ => candid_loadAll _ _

theorem candid_upsert (t : Template) : Candid (s.upsert t) :=
  (candid_locked (candid_writeTemplate t)).bind fun _ =>
    (candid_report _).bind fun _ => candid_defaultId.bind fun _ => candid_pure _

theorem candid_setDefault (id : String) : Candid (s.setDefault id) := by
  unfold setDefault
  split
  · refine candid_locked (candid_locked ((candid_has _).bind fun there => ?_))
    split
    · exact candid_replaceDocument (fun _ => .unavailable _) _ _ _ _
    · exact candid_throw _
  · exact candid_throw _

/-- Removing a file that is missing is no failure. -/
theorem candid_unlink_bind {p : Path} {f : Except FileFault Unit → StoreProgram α}
    (rest : ∀ r, Candid (f r))
    (fails : ∀ e, e.cause ≠ .missing → ∃ e', f (.error e) = throw e' ∧ e'.OfAccess) :
    Candid (perform (.unlink p) >>= f) := by
  refine candid_perform_bind (fun r _ => rest r) fun r failed => ?_
  cases r with
  | ok _ => exact absurd nofun failed
  | error e =>
    refine fails e fun missing => failed fun e' same => ?_
    cases same
    exact missing

theorem candid_clearPointer (id : String) : Candid (s.clearPointer id) := by
  refine candid_locked (candid_defaultId.bind fun pointer => ?_)
  split
  · refine candid_unlink_bind (fun r => ?_) fun e other => ?_
    · cases r with
      | ok _ => exact candid_pure _
      | error e =>
        dsimp only
        split
        · exact candid_pure _
        · exact candid_throw _
    · exact ⟨_, if_neg other, .file e⟩
  · exact candid_pure _

theorem candid_removeTemplate (id : String) : Candid (s.removeTemplate id) := by
  refine candid_unlink_bind (fun r => ?_) fun e other => ?_
  · cases r with
    | ok _ => exact (candid_clearPointer id).bind fun _ => candid_pure _
    | error e =>
      dsimp only
      split
      · exact candid_pure _
      · exact candid_throw _
  · exact ⟨_, if_neg other, .unavailable _⟩

theorem candid_delete (id : String) : Candid (s.delete id) := by
  unfold delete
  split
  · refine (candid_locked (candid_removeTemplate id)).bind fun removed => ?_
    split
    · exact (candid_report _).bind fun _ => candid_pure _
    · exact candid_pure _
  · exact candid_pure _

end FileStore

end InvoiceForms
