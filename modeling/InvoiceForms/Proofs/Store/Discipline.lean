import InvoiceForms.Proofs.Store.Interleaving
import InvoiceForms.Proofs.Store.Persistence

/-!
# The locking discipline of stores

A `Phase` says which locks a process holds and what it may rely on because of them. A `Move` is an
action that a process may take in a phase, with the phase that its result leads to; a program follows
the discipline when all it does are moves. The programs that store templates, point to them and remove
them do.
-/

namespace InvoiceForms

open InvoiceForms.Text

/-- Where a process is with its locks: it holds none, that of a template, or that of a template and
that of the pointer. -/
inductive Phase
  /-- No lock is held. -/
  | free
  /-- The lock of a template is held. -/
  | holding (id : String)
  /-- The lock of a template is held, and its document was removed. -/
  | removed (id : String)
  /-- Both locks are held, and the document of the template was removed. -/
  | clearing (id : String)
  /-- Both locks are held, the document was removed, and the pointer still names it. -/
  | naming (id : String)
  /-- Both locks are held. -/
  | both (id : String)
  /-- Both locks are held, and the document of the template is there. -/
  | stored (id : String)
  /-- Both locks are held, the document of the template is there, and so is a file with a given name
  that would point to it. -/
  | drafted (id name : String)
deriving DecidableEq

namespace FileStore

/-- What the result of reading a file says of the document in it. -/
def readingFrom : Except FileFault ByteArray → Except StoreFault Reading
  | .ok content => readingOf content
  | .error e => .ok (if e.cause = .missing then .absent else .unreadable e)

/-- The template that the result of reading the pointer's file names. -/
def namedBy? (result : Except FileFault ByteArray) : Option String :=
  match (readingFrom result).bind pointerOf with
  | .ok id => id
  | .error _ => none

/-- The actions that a process may take in a phase, with the phase that their results lead to. Only
documents of some templates may be removed. -/
inductive Move (s : FileStore) (removes : String → Prop) :
    {β : Type} → Phase → Action β → (β → Phase) → Prop
  | read (phase : Phase) (p : Path) : Move s removes phase (.read p) fun _ => phase
  | report (phase : Phase) (e : JournalEntry) : Move s removes phase (.report e) fun _ => phase
  | ensureTemplates (phase : Phase) :
    Move s removes phase (.makeDirectories s.templatesPath) fun _ => phase
  | ensureLocks (phase : Phase) : Move s removes phase (.makeDirectories s.locksPath) fun _ => phase
  | ensureRoot (phase : Phase) : Move s removes phase (.makeDirectories s.root) fun _ => phase
  | touchLock (phase : Phase) (name : String) :
    Move s removes phase (.touch (s.lockPath name)) fun _ => phase
  | lockTemplate (id : String) :
    Move s removes .free (.acquire (s.lockPath (templateLock id))) fun _ => .holding id
  | lockPointer (id : String) :
    Move s removes (.holding id) (.acquire (s.lockPath pointerLock)) fun _ => .both id
  | lockCleared (id : String) :
    Move s removes (.removed id) (.acquire (s.lockPath pointerLock)) fun _ => .clearing id
  | releasePointer (id : String) :
    Move s removes (.both id) (.release (s.lockPath pointerLock)) fun _ => .holding id
  | releaseStored (id : String) :
    Move s removes (.stored id) (.release (s.lockPath pointerLock)) fun _ => .holding id
  | releaseTemplate (id : String) :
    Move s removes (.holding id) (.release (s.lockPath (templateLock id))) fun _ => .free
  | makeTemporary (id stem : String) :
    Move s removes (.holding id) (.makeTemporary s.templatesPath stem) fun _ => .holding id
  | write (id : String) {name : String} (temporary : IsTemporary name) (content : ByteArray) :
    Move s removes (.holding id) (.write (s.templatesPath ++ [name]) content) fun _ => .holding id
  | place (id : String) {name : String} (temporary : IsTemporary name) :
    Move s removes (.holding id) (.rename (s.templatesPath ++ [name]) (s.templatePath id))
      fun _ => .holding id
  | remove {id : String} (allowed : removes id) :
    Move s removes (.holding id) (.unlink (s.templatePath id))
      fun result => if result = .ok () then .removed id else .holding id
  | find (id : String) :
    Move s removes (.both id) (.has (s.templatePath id))
      fun there => if there then .stored id else .both id
  | makeDraft (id stem : String) :
    Move s removes (.stored id) (.makeTemporary s.root stem) fun _ => .stored id
  | draft (id : String) {name : String} (temporary : IsTemporary name) {content : ByteArray}
    (pointing : (readingOf content).bind pointerOf = .ok (some id)) :
    Move s removes (.stored id) (.write (s.root ++ [name]) content) fun _ => .drafted id name
  | point (id : String) {name : String} (temporary : IsTemporary name) :
    Move s removes (.drafted id name) (.rename (s.root ++ [name]) s.pointerPath) fun _ => .stored id
  | look (id : String) :
    Move s removes (.clearing id) (.read s.pointerPath)
      fun result => if namedBy? result = some id then .naming id else .both id
  | clear (id : String) :
    Move s removes (.naming id) (.unlink s.pointerPath) fun _ => .both id

/-- Whether a program only makes moves from a phase on, and what holds of its result and the phase it
ends in. -/
def Follows (s : FileStore) (removes : String → Prop) {α : Type} (post : α → Phase → Prop) :
    Phase → Program α → Prop
  | phase, .done a => post a phase
  | phase, .act action next => ∃ after, Move s removes phase action after ∧
    ∀ result, action.Gives result → Follows s removes post (after result) (next result)

section Laws

variable {s : FileStore} {removes : String → Prop} {α β : Type} {phase : Phase}

theorem Follows.bind {p : Program α} {f : α → Program β} {mid : α → Phase → Prop}
    {post : β → Phase → Prop} (first : Follows s removes mid phase p)
    (rest : ∀ a phase, mid a phase → Follows s removes post phase (f a)) :
    Follows s removes post phase (p >>= f) := by
  induction p generalizing phase with
  | done a => exact rest a phase first
  | act action next ih =>
    obtain ⟨after, move, follows⟩ := first
    exact ⟨after, move, fun result gives => ih result (follows result gives)⟩

theorem Follows.mono {p : Program α} {mid post : α → Phase → Prop}
    (follows : Follows s removes mid phase p) (weaker : ∀ a phase, mid a phase → post a phase) :
    Follows s removes post phase p := by
  induction p generalizing phase with
  | done a => exact weaker a phase follows
  | act action next ih =>
    obtain ⟨after, move, rest⟩ := follows
    exact ⟨after, move, fun result gives => ih result (rest result gives)⟩

/-- One move, and a program that goes on from its result. -/
theorem follows_perform_bind {action : Action α} {f : α → Program β} {after : α → Phase}
    {post : β → Phase → Prop} (move : Move s removes phase action after)
    (rest : ∀ a, action.Gives a → Follows s removes post (after a) (f a)) :
    Follows s removes post phase (Program.perform action >>= f) := ⟨after, move, rest⟩

end Laws

end FileStore

namespace StoreProgram

variable {s : FileStore} {removes : String → Prop} {α β : Type} {phase : Phase}

/-- Whether a program of a store only makes moves from a phase on, and what holds of the phases that it
can end in: with a result or in a fault. -/
def Keeps (s : FileStore) (removes : String → Prop) (good : α → Phase → Prop) (bad : Phase → Prop)
    (phase : Phase) (x : StoreProgram α) : Prop :=
  FileStore.Follows s removes (fun outcome phase =>
    match outcome with
    | .ok a => good a phase
    | .error _ => bad phase) phase x.run

/-- Whether a program of a store only makes moves from a phase on, and always ends in another one. -/
def Leads (s : FileStore) (removes : String → Prop) (phase after : Phase) (x : StoreProgram α) : Prop :=
  Keeps s removes (fun _ here => here = after) (· = after) phase x

theorem keeps_pure {a : α} {good : α → Phase → Prop} {bad : Phase → Prop} (given : good a phase) :
    Keeps s removes good bad phase (pure a) := given

theorem keeps_throw {e : StoreFault} {good : α → Phase → Prop} {bad : Phase → Prop}
    (given : bad phase) : Keeps s removes good bad phase (throw e) := given

theorem Keeps.bind {x : StoreProgram α} {f : α → StoreProgram β} {mid : α → Phase → Prop}
    {good : β → Phase → Prop} {bad : Phase → Prop} (first : Keeps s removes mid bad phase x)
    (rest : ∀ a phase, mid a phase → Keeps s removes good bad phase (f a)) :
    Keeps s removes good bad phase (x >>= f) := by
  refine FileStore.Follows.bind (p := x.run) (f := ExceptT.bindCont f) first ?_
  intro outcome after given
  cases outcome with
  | ok a => exact rest a after given
  | error e => exact given

theorem keeps_lift {p : Program α} {good : α → Phase → Prop} {bad : Phase → Prop}
    (follows : FileStore.Follows s removes good phase p) :
    Keeps s removes good bad phase (ExceptT.lift p) :=
  FileStore.Follows.bind follows fun _ _ given => given

/-- One move, and a program that goes on from its result. -/
theorem keeps_perform_bind {action : Action α} {f : α → StoreProgram β} {after : α → Phase}
    {good : β → Phase → Prop} {bad : Phase → Prop} (move : FileStore.Move s removes phase action after)
    (rest : ∀ a, action.Gives a → Keeps s removes good bad (after a) (f a)) :
    Keeps s removes good bad phase (perform action >>= f) := ⟨after, move, rest⟩

/-- One move that always succeeds, and a program that goes on from its result. -/
theorem keeps_attempt_bind {action : Action (Except FileFault α)} {f : α → StoreProgram β}
    {fault : FileFault → StoreFault} {after : Except FileFault α → Phase}
    {good : β → Phase → Prop} {bad : Phase → Prop} (move : FileStore.Move s removes phase action after)
    (succeeds : ∀ result, action.Gives result → ∃ a, result = .ok a)
    (rest : ∀ a, action.Gives (.ok a) → Keeps s removes good bad (after (.ok a)) (f a)) :
    Keeps s removes good bad phase (attempt fault action >>= f) := by
  refine ⟨after, move, fun result gives => ?_⟩
  obtain ⟨a, rfl⟩ := succeeds result gives
  exact rest a gives

end StoreProgram

namespace FileStore

open StoreProgram

variable {s : FileStore} {removes : String → Prop} {α : Type} {phase next : Phase}

theorem exists_of_done {x : Except FileFault Unit} (done : x = .ok ()) : ∃ a, x = .ok a := ⟨(), done⟩

/-- Taking a lock is a move, behind others that change no phase. -/
theorem keeps_takeLock {name : String} {bad : Phase → Prop}
    (move : Move s removes phase (.acquire (s.lockPath name)) fun _ => next) :
    Keeps s removes (fun _ after => after = next) bad phase (s.takeLock name) := by
  unfold takeLock
  refine keeps_attempt_bind (.ensureTemplates phase) (fun _ => exists_of_done) fun _ _ => ?_
  refine keeps_attempt_bind (.ensureLocks phase) (fun _ => exists_of_done) fun _ _ => ?_
  refine keeps_attempt_bind (.touchLock phase name) (fun _ => exists_of_done) fun _ _ => ?_
  refine keeps_perform_bind move fun result gives => ?_
  obtain rfl : result = .acquired := gives
  exact keeps_pure rfl

/-- A program under a lock follows the discipline when it ends where the lock can be given back. -/
theorem leads_locked {name : String} {body : StoreProgram α} {after : Phase}
    (take : Move s removes phase (.acquire (s.lockPath name)) fun _ => next)
    (inside : Keeps s removes
      (fun _ here => Move s removes here (.release (s.lockPath name)) fun _ => after)
      (fun here => Move s removes here (.release (s.lockPath name)) fun _ => after) next body) :
    Leads s removes phase after (s.locked name body) := by
  unfold locked
  refine Keeps.bind (keeps_takeLock take) fun _ here entered => ?_
  subst entered
  refine Keeps.bind (keeps_lift inside) fun outcome here ended => ?_
  have give : Move s removes here (.release (s.lockPath name)) fun _ => after := by
    cases outcome with
    | ok a => exact ended
    | error e => exact ended
  refine keeps_perform_bind give fun _ _ => ?_
  cases outcome with
  | ok a => exact keeps_pure rfl
  | error e => exact keeps_throw rfl

/-- Replacing a file follows the discipline when a temporary file can be made, written and moved. -/
theorem follows_replaceFile {directory target : Path} {stem : String} {content : ByteArray}
    {last : Phase} {written : String → Phase}
    (ensure : Move s removes phase (.makeDirectories directory) fun _ => phase)
    (make : Move s removes phase (.makeTemporary directory stem) fun _ => phase)
    (write : ∀ name, IsTemporary name →
      Move s removes phase (.write (directory ++ [name]) content) fun _ => written name)
    (move : ∀ name, IsTemporary name →
      Move s removes (written name) (.rename (directory ++ [name]) target) fun _ => last) :
    Follows s removes (fun result after => result = .ok () ∧ after = last) phase
      (replaceFile directory stem target content) := by
  unfold replaceFile
  refine follows_perform_bind ensure fun made gives => ?_
  obtain rfl : made = .ok () := gives
  refine follows_perform_bind make fun named gives => ?_
  obtain ⟨name, temporary, rfl⟩ := gives
  refine follows_perform_bind (write name temporary) fun filled gives => ?_
  obtain rfl : filled = .ok () := gives
  refine follows_perform_bind (move name temporary) fun moved gives => ?_
  obtain rfl : moved = .ok () := gives
  exact ⟨rfl, rfl⟩

theorem keeps_replaceDocument {fault : FileFault → StoreFault} {directory target : Path}
    {stem : String} {document : Json} {bad : Phase → Prop}
    (replaces : Follows s removes (fun result after => result = .ok () ∧ after = next) phase
      (replaceFile directory stem target (encode (documentText document)))) :
    Keeps s removes (fun _ after => after = next) bad phase
      (replaceDocument fault directory stem target document) := by
  unfold replaceDocument
  refine (keeps_lift replaces).bind fun result here ended => ?_
  obtain ⟨rfl, rfl⟩ := ended
  exact keeps_pure rfl

/-- Looking for the pointer reads one file, and gives what the file names. -/
theorem keeps_defaultId {after : Except FileFault ByteArray → Phase}
    (look : Move s removes phase (.read s.pointerPath) after) :
    Keeps s removes (fun id here => ∃ result, namedBy? result = id ∧ here = after result)
      (fun here => ∃ result, namedBy? result = none ∧ here = after result) phase s.defaultId := by
  have ends {result : Except FileFault ByteArray} {r : Reading} {id : Option String}
      (reading : readingFrom result = .ok r) (said : pointerOf r = .ok id) : namedBy? result = id := by
    unfold namedBy?
    rw [reading]
    show (match pointerOf r with | .ok id => id | .error _ => none) = id
    rw [said]
  have reads : Keeps s removes
      (fun r here => ∃ result, readingFrom result = .ok r ∧ here = after result)
      (fun here => ∃ result, namedBy? result = none ∧ here = after result) phase
      (readDocument s.pointerPath) := by
    unfold readDocument
    refine keeps_perform_bind look fun result _ => ?_
    cases result with
    | ok content =>
      show Keeps s removes _ _ _ (MonadExcept.ofExcept (readingOf content))
      cases reading : readingOf content with
      | ok r => exact ⟨.ok content, reading, rfl⟩
      | error e =>
        refine ⟨.ok content, ?_, rfl⟩
        show (match (readingOf content).bind pointerOf with | .ok id => id | .error _ => none) = none
        rw [reading]
        rfl
    | error e => exact ⟨.error e, rfl, rfl⟩
  unfold defaultId
  refine reads.bind ?_
  rintro r here ⟨result, reading, rfl⟩
  have reported {e : JournalEntry} (said : pointerOf r = .ok none) :
      Keeps s removes
        (fun id here => ∃ result, namedBy? result = id ∧ here = after result)
        (fun here => ∃ result, namedBy? result = none ∧ here = after result) (after result)
        (StoreProgram.report e >>= fun _ => pure none) :=
    keeps_perform_bind (.report _ e) fun _ _ => ⟨result, ends reading said, rfl⟩
  cases r with
  | absent => exact ⟨result, ends reading rfl, rfl⟩
  | unreadable e =>
    refine ⟨result, ?_, rfl⟩
    unfold namedBy?
    rw [reading]
    rfl
  | malformed e => exact reported rfl
  | found document =>
    cases document with
    | object members => exact ⟨result, ends reading rfl, rfl⟩
    | _ => exact reported rfl

/-- A look for the pointer where nothing hangs on it. -/
theorem leads_defaultId (phase : Phase) : Leads s removes phase phase s.defaultId := by
  refine FileStore.Follows.mono (keeps_defaultId (.read phase s.pointerPath)) fun outcome here ended => ?_
  cases outcome with
  | ok id =>
    obtain ⟨result, -, same⟩ := ended
    exact same
  | error e =>
    obtain ⟨result, -, same⟩ := ended
    exact same

/-- A program that ends where a lock can be given back. -/
theorem releases_of_leads {x : StoreProgram α} {here after : Phase} {p : Path}
    (leads : Leads s removes phase here x) (give : Move s removes here (.release p) fun _ => after) :
    Keeps s removes (fun _ here => Move s removes here (.release p) fun _ => after)
      (fun here => Move s removes here (.release p) fun _ => after) phase x := by
  refine FileStore.Follows.mono leads fun outcome _ ended => ?_
  cases outcome with
  | ok a =>
    obtain rfl := ended
    exact give
  | error e =>
    obtain rfl := ended
    exact give

/-- Storing a template follows the discipline, and removes nothing. -/
theorem leads_upsert (t : Template) : Leads s removes .free .free (s.upsert t) := by
  have writes : Leads s removes (.holding t.id) (.holding t.id) (s.writeTemplate t) := by
    unfold writeTemplate
    split
    · exact keeps_throw rfl
    · split
      · exact keeps_replaceDocument (follows_replaceFile (.ensureTemplates _)
          (.makeTemporary t.id t.id) (fun name temporary => .write t.id temporary _)
          fun name temporary => .place t.id temporary)
      · exact keeps_throw rfl
  unfold upsert
  refine Keeps.bind (leads_locked (.lockTemplate t.id)
    (releases_of_leads writes (.releaseTemplate t.id))) fun _ here ended => ?_
  subst ended
  refine keeps_perform_bind (.report _ _) fun _ _ => ?_
  exact Keeps.bind (leads_defaultId _) fun _ _ ended => keeps_pure ended

/-- Pointing to a template follows the discipline, and removes nothing. -/
theorem leads_setDefault (id : String) : Leads s removes .free .free (s.setDefault id) := by
  unfold setDefault
  split
  · next valid =>
    refine leads_locked (.lockTemplate id) (releases_of_leads
      (leads_locked (.lockPointer id) ?_) (.releaseTemplate id))
    refine keeps_perform_bind (.find id) fun there _ => ?_
    cases there with
    | false => exact keeps_throw (.releasePointer id)
    | true =>
      have points : Leads s removes (.stored id) (.stored id) (replaceDocument
          (fun e => .unavailable (.writePointer e)) s.root "default" s.pointerPath
          (pointerDocument id)) :=
        keeps_replaceDocument (follows_replaceFile (.ensureRoot _) (.makeDraft id "default")
          (fun name temporary => .draft id temporary (pointing_pointerDocument valid))
          fun name temporary => .point id temporary)
      exact releases_of_leads points (.releaseStored id)
  · exact keeps_throw rfl

/-- Taking the pointer back follows the discipline. -/
theorem leads_clearPointer (id : String) :
    Leads s removes (.removed id) (.holding id) (s.clearPointer id) := by
  unfold clearPointer
  refine leads_locked (.lockCleared id) (releases_of_leads ?_ (.releasePointer id))
  have looks : Keeps s removes
      (fun named here => here = if named = some id then .naming id else .both id)
      (· = .both id) (.clearing id) s.defaultId := by
    refine FileStore.Follows.mono (keeps_defaultId (.look id)) fun outcome here ended => ?_
    cases outcome with
    | ok named =>
      obtain ⟨result, rfl, same⟩ := ended
      exact same
    | error e =>
      obtain ⟨result, nothing, same⟩ := ended
      rw [nothing] at same
      exact same
  refine Keeps.bind looks fun named here ended => ?_
  subst ended
  by_cases same : named = some id
  · rw [if_pos same, if_pos same]
    refine keeps_perform_bind (.clear id) fun result _ => ?_
    cases result with
    | ok _ => exact keeps_pure rfl
    | error e =>
      dsimp only
      split
      · exact keeps_pure rfl
      · exact keeps_throw rfl
  · rw [if_neg same, if_neg same]
    exact keeps_pure rfl

/-- Removing a template follows the discipline, and removes its document at most. -/
theorem leads_delete {id : String} (allowed : removes id) :
    Leads s removes .free .free (s.delete id) := by
  have takes : Leads s removes (.holding id) (.holding id) (s.removeTemplate id) := by
    unfold removeTemplate
    refine keeps_perform_bind (.remove allowed) fun result _ => ?_
    cases result with
    | ok _ => exact Keeps.bind (leads_clearPointer id) fun _ _ ended => keeps_pure ended
    | error e =>
      rw [if_neg (show ¬ (Except.error e : Except FileFault Unit) = .ok () from nofun)]
      dsimp only
      split
      · exact keeps_pure rfl
      · exact keeps_throw rfl
  unfold delete
  split
  · refine Keeps.bind (leads_locked (.lockTemplate id)
      (releases_of_leads takes (.releaseTemplate id))) fun removed here ended => ?_
    subst ended
    split
    · exact keeps_perform_bind (.report _ _) fun _ _ => keeps_pure rfl
    · exact keeps_pure rfl
  · exact keeps_pure rfl

end FileStore

namespace StoreTask

open FileStore

/-- The document that an operation may remove. -/
def Removes : StoreTask → String → Prop
  | delete id, other => other = id
  | _, _ => False

/-- Every operation on a store follows the discipline, and holds no lock before and behind it. -/
theorem follows_program (s : FileStore) (task : StoreTask) :
    FileStore.Follows s task.Removes (fun _ here => here = .free) .free (task.program s) := by
  have settles {α : Type} {x : StoreProgram α} (leads : StoreProgram.Leads s task.Removes .free .free x) :
      FileStore.Follows s task.Removes (fun _ here => here = .free) .free (settle x) := by
    refine FileStore.Follows.bind leads fun outcome here ended => ?_
    cases outcome with
    | ok a => exact ended
    | error e => exact ended
  cases task with
  | upsert t => exact settles (leads_upsert t)
  | setDefault id => exact settles (leads_setDefault id)
  | delete id => exact settles (leads_delete rfl)

end StoreTask

end InvoiceForms
