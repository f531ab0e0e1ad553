import InvoiceForms.Proofs.Service.Pages
import InvoiceForms.Proofs.Store.Flags
import InvoiceForms.Service.Api

/-!
# What the pages answer

An answer is the overview, a preview, or a sentence about what went wrong. Data in the two pages is
escaped. The sentences are not, but what they name is the id of a stored template or a file in the
directory of the store, so there is no markup in them unless it is in the path of that directory.
-/

namespace InvoiceForms

open InvoiceForms.Record InvoiceForms.Results InvoiceForms.Text
open Runner (program)

namespace Markup

theorem free_of_chars {s : String} {cs : List Char} (spelled : s = String.ofList cs)
    (plain : cs.all isPlain = true) : Free s := by
  intro c inside
  rw [spelled, String.toList_ofList] at inside
  exact List.all_eq_true.mp plain c inside

theorem Free.append {s t : String} (first : Free s) (second : Free t) : Free (s ++ t) := by
  intro c inside
  rw [String.toList_append] at inside
  exact (List.mem_append.mp inside).elim (first c) (second c)

theorem free_of_isValid {id : String} (valid : TemplateId.isValid id = true) : Free id := by
  intro c inside
  have other (d : Char) (d_ne : ¬ TemplateId.isIdChar d) : c ≠ d := by
    rintro rfl
    exact d_ne (TemplateId.isIdChar_of_isValid valid inside)
  simp only [isPlain, Bool.and_eq_true, decide_eq_true_eq]
  exact ⟨⟨other '<' (by decide), other '>' (by decide)⟩, other '&' (by decide)⟩

/-- The parts of a path show in it. -/
theorem free_shown_iff {p : Path} : Free p.shown ↔ ∀ name ∈ p, Free name := by
  unfold Path.shown joinWith
  induction p with
  | nil => simp [Free]
  | cons name rest ih =>
    cases rest with
    | nil => simp
    | cons next rest =>
      have slash : Free "/" := free_of_chars rfl (by decide)
      rw [String.intercalate_cons_cons, List.forall_mem_cons, ← ih]
      constructor
      · intro whole
        simp only [Free, String.toList_append, List.mem_append] at whole ⊢
        exact ⟨fun c inside => whole c (.inl (.inl inside)), fun c inside => whole c (.inr inside)⟩
      · rintro ⟨first, others⟩
        exact (first.append slash).append others

theorem plain_of_mem_hexDigits {width n : Nat} {c : Char} (member : c ∈ hexDigits width n) :
    isPlain c = true := by
  have digit : ∀ d < 16, isPlain d.digitChar = true := by decide
  rcases List.mem_append.mp member with zero | own
  · obtain rfl := List.eq_of_mem_replicate zero
    decide
  · clear member
    induction n using Nat.strongRecOn with
    | ind n ih =>
      by_cases small : n < 16
      · rw [Nat.toDigits_of_lt_base small] at own
        obtain rfl := List.mem_singleton.mp own
        exact digit n small
      · rw [Nat.toDigits_of_base_le (by decide) (by omega)] at own
        rcases List.mem_append.mp own with front | last
        · exact ih (n / 16) (by omega) front
        · obtain rfl := List.mem_singleton.mp last
          exact digit _ (Nat.mod_lt _ (by decide))

theorem plain_of_mem_quotedChar {q c d : Char} (plain : isPlain c = true) (member : d ∈ quotedChar q c) :
    isPlain d = true := by
  have escape {letter : Char} {rest : List Char} (known : isPlain letter = true)
      (digits : ∀ x ∈ rest, isPlain x = true) (inside : d ∈ '\\' :: letter :: rest) :
      isPlain d = true := by
    rcases List.mem_cons.mp inside with rfl | inside
    · rfl
    · rcases List.mem_cons.mp inside with rfl | inside
      · exact known
      · exact digits d inside
  have none : ∀ x ∈ ([] : List Char), isPlain x = true := List.forall_mem_nil _
  unfold quotedChar at member
  repeat' split at member
  · exact escape plain none member
  · exact escape rfl none member
  · exact escape rfl none member
  · exact escape rfl none member
  · obtain rfl := List.mem_singleton.mp member
    exact plain
  · exact escape rfl (fun _ => plain_of_mem_hexDigits) member
  · exact escape rfl (fun _ => plain_of_mem_hexDigits) member
  · exact escape rfl (fun _ => plain_of_mem_hexDigits) member

/-- Quoting a text brings no markup into it. -/
theorem Free.quoted {s : String} (free : Free s) : Free (quoted s) := by
  have quote : isPlain (quoteFor s.toList) = true := by
    unfold quoteFor
    split <;> rfl
  refine free_of_chars rfl (List.all_eq_true.mpr fun c inside => ?_)
  rcases List.mem_append.mp inside with front | last
  · rcases List.mem_cons.mp front with rfl | middle
    · exact quote
    · obtain ⟨d, member, own⟩ := List.mem_flatMap.mp middle
      exact plain_of_mem_quotedChar (free d member) own
  · obtain rfl := List.mem_singleton.mp last
    exact quote

end Markup

open Markup (Free free_of_chars)

theorem FileCause.free (e : FileCause) : Free e.message ∧ Free (toString e.number) := by
  constructor
  · cases e <;> exact free_of_chars rfl (by decide)
  · cases e <;> exact free_of_chars rfl (by decide)

/-- Of a file that cannot be read, the sentence names the path. -/
theorem FileFault.free_of_read {tree : FileTree} {p : Path} {e : FileFault} (free : Free p.shown)
    (failed : tree.read p = .error e) : Free e.message := by
  obtain ⟨rfl, alone⟩ := FileTree.read_eq_error failed
  have start : Free "[Errno " := free_of_chars rfl (by decide)
  have middle : Free "] " := free_of_chars rfl (by decide)
  have colon : Free ": " := free_of_chars rfl (by decide)
  have ending : Free "" := free_of_chars rfl (by decide)
  unfold message
  rw [alone]
  exact (((((start.append (FileCause.free _).2).append middle).append (FileCause.free _).1).append
    colon).append free.quoted).append ending

/-- Whether a fault, if it is that a store cannot be used, is said without markup. -/
def StoreFault.FreelySaid (e : StoreFault) : Prop := ∀ cause, e = .unavailable cause → Free cause.message

theorem StoreFault.freelySaid_configuration (cause : ConfigurationFault) :
    FreelySaid (.configuration cause) := nofun

theorem StoreFault.freelySaid_unchecked (cause : ValidationFault) : FreelySaid (.unchecked cause) := nofun

namespace FileStore

open StoreFault StoreProgram

variable {s : FileStore} {w : World} {tree : FileTree} {id : String} {flag : Bool} {t : Template}

theorem isValid_of_loaded (given : s.loaded tree id flag = .ok (some t)) :
    TemplateId.isValid t.id = true := by
  obtain ⟨-, members, -, described⟩ := loaded_eq_some given
  obtain ⟨document, read⟩ := exists_ofDocument_of_templateOf described
  exact (Template.Admitted.document read).isValid_id

theorem failsOnly_readingAt_free (p : Path) : FailsOnly FreelySaid (readingAt tree p) := by
  rintro e failed cause rfl
  exact absurd (.unavailable cause) (not_foreseen_of_readingAt failed)

/-- Whether a template, if there is one, has a usable id. -/
def Named (found : Option Template) : Prop := ∀ t ∈ found, TemplateId.isValid t.id = true

section Free

variable (free : Free s.root.shown)

include free

theorem free_pointerPath : Free s.pointerPath.shown := by
  rw [Markup.free_shown_iff, pointerPath, List.forall_mem_append, ← Markup.free_shown_iff]
  refine ⟨free, ?_⟩
  rw [List.forall_mem_singleton]
  exact free_of_chars rfl (by decide)

theorem free_templatePath (valid : TemplateId.isValid id = true) :
    Free (s.templatePath id).shown := by
  rw [Markup.free_shown_iff, templatePath, templatesPath, List.forall_mem_append,
    List.forall_mem_append, ← Markup.free_shown_iff, List.forall_mem_singleton,
    List.forall_mem_singleton]
  refine ⟨⟨free, free_of_chars rfl (by decide)⟩, ?_⟩
  exact (Markup.free_of_isValid valid).append (free_of_chars rfl (by decide))

theorem failsOnly_pointed_free : FailsOnly FreelySaid (s.pointed tree) := by
  refine failsOnly_bind.mpr ⟨failsOnly_readingAt_free _, fun r reading => ?_⟩
  cases r with
  | unreadable e =>
    have words : Free "Could not read default pointer: " := free_of_chars rfl (by decide)
    rw [pointerOf, failsOnly_error]
    rintro cause ⟨⟩
    exact words.append (FileFault.free_of_read (free_pointerPath free) (read_of_unreadable reading))
  | found document => cases document <;> exact failsOnly_ok _
  | _ => exact failsOnly_ok _

theorem failsOnly_loaded_free : FailsOnly FreelySaid (s.loaded tree id flag) := by
  unfold loaded
  split
  · next valid =>
    refine failsOnly_bind.mpr ⟨failsOnly_readingAt_free _, fun r reading => ?_⟩
    cases r with
    | absent => exact failsOnly_ok _
    | unreadable e =>
      have words : Free "Could not read template " := free_of_chars rfl (by decide)
      have colon : Free ": " := free_of_chars rfl (by decide)
      rw [templateIn, failsOnly_error]
      rintro cause ⟨⟩
      exact ((words.append (Markup.free_of_isValid valid)).append colon).append
        (FileFault.free_of_read (free_templatePath free valid) (read_of_unreadable reading))
    | malformed e => exact (failsOnly_error _).mpr (freelySaid_configuration _)
    | found document =>
      cases document with
      | object members =>
        rw [templateIn, failsOnly_map]
        intro e failed
        rcases templateOf_eq_error failed with ⟨cause, rfl⟩ | ⟨cause, rfl⟩
        · exact freelySaid_configuration _
        · intro other same
          cases same
      | _ => exact (failsOnly_error _).mpr (freelySaid_configuration _)
  · exact failsOnly_ok _

theorem failsOnly_loadedAll_free (pointer : Option String) (ids : List String) :
    FailsOnly FreelySaid (s.loadedAll tree pointer ids) := by
  unfold loadedAll
  dsimp only
  split
  · next e first =>
    obtain ⟨x, member, ends⟩ := List.exists_of_findSome?_eq_some first
    obtain ⟨id, -, rfl⟩ := List.mem_map.mp member
    rw [failsOnly_error]
    exact failsOnly_loaded_free free e (not_ofConfiguration_of_endsListing? ends).1
  · exact failsOnly_ok _

theorem failsOnly_list_free : FailsOnly FreelySaid (program.answer s.list w) := by
  obtain ⟨journal, ends⟩ := outcome_list s w
  rw [Runner.answer, ends]
  refine failsOnly_bind.mpr ⟨failsOnly_pointed_free free, fun pointer _ => ?_⟩
  refine failsOnly_bind.mpr ⟨?_, fun ids _ => failsOnly_loadedAll_free free pointer ids⟩
  rintro e failed cause rfl
  unfold documentIds at failed
  split at failed
  · cases listed : w.tree.list s.templatesPath <;> rw [listed] at failed <;> cases failed
  · cases failed

theorem ends_loaded : Ends Named FreelySaid (s.loaded tree id flag) := by
  refine ⟨?_, failsOnly_loaded_free free⟩
  rintro _ given t rfl
  exact isValid_of_loaded given

/-- Getting a template gives one with a usable id, or fails without markup. -/
theorem ends_get (id : String) : Ends Named FreelySaid (program.answer (s.get id) w) := by
  obtain ⟨journal, ends⟩ := outcome_get s id w
  rw [Runner.answer, ends]
  exact ends_bind (failsOnly_pointed_free free) fun _ => ends_loaded free

theorem ends_getDefault : Ends Named FreelySaid (program.answer s.getDefault w) := by
  obtain ⟨journal, ends⟩ := outcome_getDefault s w
  rw [Runner.answer, ends]
  refine ends_bind (failsOnly_pointed_free free) fun pointer => ?_
  cases pointer with
  | none => exact ends_ok (by simp [Named])
  | some id => exact ends_loaded free

end Free

end FileStore

namespace Resolver

universe u v

variable {m : Type → Type u} [Monad m] {σ : Type v} {I : Runner m σ} {r : Resolver m} {w : σ}
  {good : Template → Prop} {bad : StoreFault → Prop}

/-- A search gives what is fetched, if it has no errors. -/
theorem ends_usable {label : String} {fetch : ExceptT StoreFault m (Option Template)}
    (unchecked : ∀ e, bad (.unchecked e))
    (fetched : Ends (fun found => ∀ t ∈ found, good t) bad (I.answer fetch w)) :
    Ends (fun found => ∀ t ∈ found, good t ∧ r.validator.isUsable t = true)
      bad (I.answer (r.usable label fetch) w) := by
  rw [answer_usable]
  generalize I.answer fetch w = answer at fetched
  rcases answer with e | _ | t
  · cases e with
    | configuration cause => exact ends_ok (by simp)
    | _ => exact ends_error (fetched.fails _ rfl)
  · exact ends_ok (by simp)
  · dsimp only
    cases validated : r.validator.validate t with
    | error e => exact ends_error (unchecked e)
    | ok issues =>
      refine ends_ok fun u inside => ?_
      split at inside
      · cases inside
      · next clean =>
        cases inside
        have none := (Issue.hasErrors_eq_false_iff issues).mp (Bool.eq_false_iff.mpr clean)
        exact ⟨fetched.gives _ rfl t (Option.mem_some_self t),
          Validator.isUsable_eq_true_iff.mpr ⟨issues, validated, none⟩⟩

/-- Resolving ends in a template without errors, which is the builtin one or what the store gives. -/
theorem ends_resolve (unchecked : ∀ e, bad (.unchecked e))
    (get : ∀ id w, Ends (fun found => ∀ t ∈ found, good t) bad (I.answer (r.store.get id) w))
    (getDefault : ∀ w,
      Ends (fun found => ∀ t ∈ found, good t) bad (I.answer r.store.getDefault w))
    (builtin : good Builtin.template) (requested : Option String) (w : σ) :
    Ends (fun x => good x.template ∧ r.validator.isUsable x.template = true) bad
      (I.answer (r.resolve requested) w) := by
  have fallback : ∀ w,
      Ends (fun x => good x.template ∧ r.validator.isUsable x.template = true) bad
        (I.answer r.resolveDefault w) := by
    intro w
    unfold resolveDefault
    refine Runner.ends_answer_bind (ends_usable unchecked (getDefault w)) fun found w' fine => ?_
    cases found with
    | some t =>
      dsimp only
      rw [Runner.answer_pure]
      exact ends_ok (fine t (Option.mem_some_self t))
    | none =>
      dsimp only
      rw [Runner.answer_bind_of_ok answer_report, Runner.answer_pure]
      exact ends_ok ⟨builtin, r.validator.isUsable_builtin⟩
  unfold resolve
  split
  · exact fallback w
  · next id _ =>
    refine Runner.ends_answer_bind (ends_usable unchecked (get id w)) fun found w' fine => ?_
    cases found with
    | some t =>
      dsimp only
      rw [Runner.answer_pure]
      exact ends_ok (fine t (Option.mem_some_self t))
    | none => exact fallback w'

end Resolver

/-- Whether a failure, if it is one that pages tell of, is said without markup. -/
def Failure.FreelySaid : Failure → Prop
  | .store e => e.FreelySaid
  | .render e => e.invariant?.isSome = true → Free e.message
  | _ => True

/-- Rendering a template without errors fails with the id of the template in the sentence, if with a
sentence at all. -/
theorem Assembler.freelySaid_assemble {a : Assembler} {t : Template} {ctx : Context}
    {source : Option SourceKind} {e : RenderFault} (valid : TemplateId.isValid t.id = true)
    (usable : a.validator.isUsable t = true)
    (failed : a.assemble t ctx source = .error e) : (Failure.render e).FreelySaid := by
  rcases assemble_eq_error usable failed with ⟨cause, rfl⟩ | rfl
  · intro told
    cases told
  · have start : Free "Template " := free_of_chars rfl (by decide)
    have ending : Free " produced no renderable sections" := free_of_chars rfl (by decide)
    exact fun _ => (start.append (Markup.free_of_isValid valid)).append ending

namespace Tools

/-- A preview fails without markup. -/
theorem ends_previewDocument {s : Settings} (free : Free s.store.root.shown) (id : Option String)
    (language : Value) (w : World) :
    Ends (fun _ => True) Failure.FreelySaid (program.answer (previewDocument s id language) w) := by
  have lifted {ε α : Type} {failure : ε → Failure} (x : Except ε α) (w : World)
      (given : ∀ e, (failure e).FreelySaid) :
      Ends (fun _ => True) Failure.FreelySaid (program.answer (ServiceProgram.lift failure x) w) := by
    rw [ServiceProgram.lift, Generator.answer_lift]
    cases x with
    | ok a => exact ends_ok trivial
    | error e => exact ends_error (given e)
  have resolved : Ends (fun r => TemplateId.isValid r.template.id = true ∧
      s.validator.isUsable r.template = true) Failure.FreelySaid
      (program.answer (s.generator.resolve id) w) := by
    have get (id : String) (w : World) : Ends FileStore.Named StoreFault.FreelySaid
        (program.answer (s.resolver.store.get id) w) := FileStore.ends_get free id
    have getDefault (w : World) : Ends FileStore.Named StoreFault.FreelySaid
        (program.answer s.resolver.store.getDefault w) := FileStore.ends_getDefault free
    have builtin : TemplateId.isValid Builtin.template.id = true := by decide
    have ends := Resolver.ends_resolve StoreFault.freelySaid_unchecked get getDefault builtin id w
    rw [Generator.resolve, Generator.answer_onStore]
    exact ends.mapError fun e said => said
  unfold previewDocument
  refine Runner.ends_answer_bind resolved fun r w' found => ?_
  refine Runner.ends_answer_bind (lifted _ _ fun _ => trivial) fun invoice w' _ => ?_
  refine Runner.ends_answer_bind (lifted _ _ fun _ => trivial) fun ctx w' _ => ?_
  rw [Generator.answer_assemble]
  have usable : s.generator.assembler.validator.isUsable r.template = true := found.2
  cases assembled : s.generator.assembler.assemble r.template ctx (some r.source) with
  | ok d => exact ends_ok trivial
  | error e => exact ends_error (Assembler.freelySaid_assemble found.1 usable assembled)

end Tools

namespace Api

open Markup (escape)

/-- An answer is that to the result of a program or to its failure. -/
theorem answer_answering {α : Type} (p : ServiceProgram α) (onOk : α → ServiceProgram Response)
    (onFailure : Failure → Option (ServiceProgram Response)) (w : World) :
    program.answer (answering p onOk onFailure) w =
      match program.answer p w with
      | .ok a => program.answer (onOk a) (program.after p w)
      | .error e => program.answer ((onFailure e).getD (throw e)) (program.after p w) := by
  have run : program.run p.run w = (program.answer p w, program.after p w) := rfl
  unfold answering
  rw [Runner.answer, Runner.outcome_bind, Runner.outcome_lift, run]
  cases program.answer p w <;> rfl

/-- An answer that is a page: it has these tags, all its angle brackets are theirs, all its ampersands
are those of entities, and the data on it stands there escaped. -/
structure Shows (response : Response) (page : Markup) (tags : List String) : Prop where
  response : response = textResponse 200 page.text
  tags : Markup.tags page.text = some tags
  entities : Markup.onlyEntities page.text.toList = true
  data : ∀ s, .slot s ∈ page → (∀ c ∈ (escape s).toList, c ≠ '<' ∧ c ≠ '>') ∧
    Markup.readEntities (escape s).toList = s.toList

/-- An answer that is a sentence about a failure, without tags and special characters. -/
structure Refuses (response : Response) (message : String) : Prop where
  response : ∃ status, (status = 500 ∨ status = 503) ∧ response = textResponse status message
  free : Free message
  tags : Markup.tags message = some []

theorem shows_of_hasTags {page : Markup} {tags : List String} (has : page.HasTags tags) :
    Shows (textResponse 200 page.text) page tags := by
  refine ⟨rfl, has.tags_text, has.onlyEntities_text, fun s _ => ⟨fun c inside => ?_, ?_⟩⟩
  · constructor
    · rintro rfl
      exact absurd (Markup.eq_amp_of_mem_escape inside (by decide)) (by decide)
    · rintro rfl
      exact absurd (Markup.eq_amp_of_mem_escape inside (by decide)) (by decide)
  · exact Markup.readEntities_escape s

/-- The answer to a failure, if there is one, is a sentence without markup. -/
def AnsweredFreely (onFailure : Failure → Option (ServiceProgram Response)) : Prop :=
  ∀ e w response, e.FreelySaid →
    program.answer ((onFailure e).getD (throw e)) w = .ok response → ∃ message, Refuses response message

theorem refuses_of_answer {status : Nat} {message : String} {w : World} {response : Response}
    (known : status = 500 ∨ status = 503) (free : Free message)
    (answered : program.answer (pure (textResponse status message) : ServiceProgram Response) w =
      .ok response) : ∃ message, Refuses response message := by
  cases (Runner.answer_pure _ _ _).symm.trans answered
  exact ⟨message, ⟨status, known, rfl⟩, free, free.tags⟩

theorem answeredFreely_unavailablePage : AnsweredFreely unavailablePage? := by
  intro e w response said answered
  have words : Free "Template store unavailable: " := free_of_chars rfl (by decide)
  unfold unavailablePage? at answered
  split at answered
  · next cause => exact refuses_of_answer (.inr rfl) (words.append (said cause rfl)) answered
  · cases (Runner.answer_throw _ _ _).symm.trans answered

theorem answeredFreely_previewFailure : AnsweredFreely previewFailure? := by
  intro e w response said answered
  cases e with
  | render e =>
    have words : Free "Render failed: " := free_of_chars rfl (by decide)
    unfold previewFailure? at answered
    dsimp only at answered
    cases told : e.invariant? with
    | some invariant =>
      rw [told] at answered
      exact refuses_of_answer (.inl rfl) (words.append (said (by rw [told]; rfl))) answered
    | none =>
      rw [told] at answered
      cases (Runner.answer_throw _ _ _).symm.trans answered
  | _ => exact answeredFreely_unavailablePage _ w response said answered

/-- The answer of a page is that of what it shows, or a sentence. -/
theorem shows_or_refuses {α : Type} {p : ServiceProgram α} {page : α → Markup} {tags : α → List String}
    {onFailure : Failure → Option (ServiceProgram Response)} {w : World} {response : Response}
    (has : ∀ a, (page a).HasTags (tags a)) (said : FailsOnly Failure.FreelySaid (program.answer p w))
    (failures : AnsweredFreely onFailure)
    (answered : program.answer (answering p (fun a => return textResponse 200 (page a).text) onFailure) w =
      .ok response) :
    (∃ a, program.answer p w = .ok a ∧ Shows response (page a) (tags a)) ∨
      ∃ message, Refuses response message := by
  rw [answer_answering] at answered
  cases given : program.answer p w with
  | ok a =>
    rw [given] at answered
    cases (Runner.answer_pure _ _ _).symm.trans answered
    exact .inl ⟨a, rfl, shows_of_hasTags (has a)⟩
  | error e =>
    rw [given] at answered
    exact .inr (failures e _ response (said e given) answered)

/-- The pages are safe from what they show. Whatever the files of the store hold and whatever id is asked
for, an answer of the two pages is the page, with the tags of the number of templates or of the shape of
the document, or it is a sentence without markup. -/
theorem pages_not_injectable {s : Settings} (free : Free s.store.root.shown) (body : String) (w : World)
    (response : Response) :
    (program.answer (respond s body .overview) w = .ok response →
      (∃ ts, program.answer s.store.list w = .ok ts ∧
        Shows response (Pages.overview (ts.map (·.summary))) (Pages.overviewTags ts.length)) ∨
      ∃ message, Refuses response message) ∧
    ∀ id, program.answer (respond s body (.preview id)) w = .ok response →
      (∃ d, program.answer (Tools.previewDocument s (some id) (.text Language.de.tag)) w = .ok d ∧
        Shows response (Pages.preview id d) (Pages.previewTags d.shape)) ∨
      ∃ message, Refuses response message := by
  refine ⟨fun answered => ?_, fun id answered => ?_⟩
  · have listed : program.answer (ServiceProgram.onStore .store s.store.list) w =
        (program.answer s.store.list w).mapError .store := Generator.answer_onStore _ _ _
    have said : FailsOnly Failure.FreelySaid
        (program.answer (ServiceProgram.onStore .store s.store.list) w) := by
      rw [listed]
      exact failsOnly_mapError (fun _ said => said) (FileStore.failsOnly_list_free free)
    have has (ts : List Template) : (Pages.overview (ts.map (·.summary))).HasTags
        (Pages.overviewTags ts.length) := by
      have all := Pages.hasTags_overview (ts.map (·.summary))
      rwa [List.length_map] at all
    rcases shows_or_refuses has said answeredFreely_unavailablePage answered with
      ⟨ts, given, shows⟩ | refuses
    · rw [listed] at given
      exact .inl ⟨ts, mapError_eq_ok.mp given, shows⟩
    · exact .inr refuses
  · exact shows_or_refuses (Pages.hasTags_preview id)
      (Tools.ends_previewDocument free (some id) (.text Language.de.tag) w).fails
      answeredFreely_previewFailure answered

/-- A service with a store. -/
def published : Settings := { store := ⟨["srv"]⟩ }

/-- A tree with a template whose name looks like a tag. -/
def marked : FileTree := ⟨[
  (["srv"], .directory), (["srv", "templates"], .directory),
  (["srv", "templates", "x.json"], .file (encode (Json.print .document (.object [
    ("id", .text "x"), ("name", .text "<b>&"), ("companyInfo", .object [("name", .text "Meadow")])]))))]⟩

/-- A tree in which the pointer to the default cannot be read. -/
def blocked : FileTree := ⟨[(["srv"], .directory), (["srv", "default.json"], .directory)]⟩

/-- The name that looks like a tag is none on the overview, and an id that looks like one is not in the
sentence that answers for it. -/
theorem marked_shown :
    Free published.store.root.shown ∧
      (∃ (response : Response) (ts : List Template),
        program.answer (respond published "" .overview) { tree := marked } = .ok response ∧
        ts.map Template.name = ["<b>&"] ∧
        Shows response (Pages.overview (ts.map (·.summary))) (Pages.overviewTags 1)) ∧
      ∃ (response : Response) (message : String),
        program.answer (respond published "" (.preview "<b>")) { tree := blocked } = .ok response ∧
        response.status = 503 ∧ Refuses response message := by
  have free : Free published.store.root.shown := free_of_chars rfl (by decide)
  refine ⟨free, ?_, ?_⟩
  · have named : published.store.pointed marked = .ok none := by decide
    have names : marked.list ["srv", "templates"] = .ok ["x.json"] := rfl
    have stored : published.store.documentIds marked = .ok ["x"] :=
      (FileStore.documentIds_of_pairwise rfl names (by decide)).trans (by decide)
    obtain ⟨t, gives, known⟩ : ∃ t, published.store.loaded marked "x" false = .ok (some t) ∧
        t.name = "<b>&" :=
      FileStore.exists_loaded_of_print rfl (by decide) (by decide) (by decide) (by decide)
    obtain ⟨ts, loads, called⟩ : ∃ ts, published.store.loadedAll marked none ["x"] = .ok ts ∧
        ts.map Template.name = ["<b>&"] :=
      ⟨[t], FileStore.loadedAll_cons_of_loaded gives rfl, congrArg (fun name => [name]) known⟩
    have listed : program.answer published.store.list { tree := marked } = .ok ts :=
      (FileStore.answer_list named stored).trans loads
    have answered : program.answer (respond published "" .overview) { tree := marked } =
        .ok (textResponse 200 (Pages.overview (ts.map (·.summary))).text) := by
      have found : program.answer (ServiceProgram.onStore .store published.store.list)
          { tree := marked } = .ok ts := by
        rw [ServiceProgram.onStore, Generator.answer_onStore, listed]
        rfl
      rw [respond, showOverview, answer_answering, found]
      rfl
    rcases (pages_not_injectable free "" _ _).1 answered with ⟨us, given, shows⟩ | ⟨message, refuses⟩
    · rw [listed] at given
      cases given
      have one : ts.length = 1 := by rw [← List.length_map, called]; rfl
      exact ⟨_, ts, answered, called, one ▸ shows⟩
    · obtain ⟨status, known, same⟩ := refuses.response
      cases same
      rcases known with other | other <;> cases other
  · have answered : ∃ response, program.answer (respond published "" (.preview "<b>"))
        { tree := blocked } = .ok response ∧ response.status = 503 := by
      have found : (program.answer (respond published "" (.preview "<b>")) { tree := blocked }).map
          (·.status) = .ok 503 := by decide
      exact map_eq_ok.mp found
    obtain ⟨response, answered, status⟩ := answered
    rcases (pages_not_injectable free "" _ _).2 "<b>" answered with ⟨d, -, shows⟩ | ⟨message, refuses⟩
    · rw [shows.response] at status
      cases status
    · exact ⟨response, message, answered, status, refuses⟩

end Api

end InvoiceForms
