import InvoiceForms.Proofs.Json.Lines
import InvoiceForms.Proofs.Store.Files
import InvoiceForms.Proofs.Template.Writing

/-!
# Templates that are stored and loaded again

What a store in a directory gives back is the template that was stored, with the objects of its
document in the order of their keys. Nothing else is lost, whatever the rest of the store holds.
-/

namespace InvoiceForms

open InvoiceForms.Record InvoiceForms.Results InvoiceForms.Text
open Runner (program)

namespace FileStore

open StoreProgram

variable {s : FileStore} {w : World} {t : Template}

/-- A document that is written with its members in any order is read as it is. -/
theorem readingOf_print {document : Json} (distinct : document.hasDistinctKeys = true)
    (few : document.hasReadableIntegers = true) :
    readingOf (encode (Json.print .document document)) = .ok (.found document) := by
  have lines : decodeLines (encode (Json.print .document document)) =
      .ok (Json.print .document document) := by
    apply decodeLines_encode
    rw [Json.print, String.toList_ofList]
    exact Json.not_mem_printValue .document 0 document
  have parsed : Json.parse (Json.print .document document) = .ok document := by
    have none : ∀ c ∈ "".toList, Json.isGap c = true := by simp
    simpa using Json.parse_print .document distinct few none
  unfold readingOf
  rw [lines]
  dsimp only
  rw [parsed]

/-- The file of a document says the document with sorted members. -/
theorem readingOf_documentText {document : Json} (distinct : document.hasDistinctKeys = true)
    (few : document.hasReadableIntegers = true) :
    readingOf (encode (documentText document)) = .ok (.found document.sortMembers) := by
  rw [← Json.arrange_sorted]
  have distinct' := Json.everywhere_arrange (Json.distinctHere_unordered .sorted) _ distinct
  have few' := Json.everywhere_arrange (Json.readableHere_unordered .sorted) _ few
  have lineEnd : ∀ c ∈ "\n".toList, Json.isGap c = true := List.forall_mem_singleton.mpr rfl
  have parsed := Json.parse_print .document distinct' few' lineEnd
  unfold readingOf documentText
  rw [← Json.arrange_sorted, Json.decodeLines_print]
  dsimp only
  rw [parsed]

/-- The file of a pointer names the template that it points to. -/
theorem pointing_pointerDocument {id : String} (valid : TemplateId.isValid id = true) :
    (readingOf (encode (documentText (pointerDocument id)))).bind pointerOf = .ok (some id) := by
  have nonempty : id ≠ "" := by
    rintro rfl
    exact TemplateId.ne_empty_of_isValid valid rfl
  have sorted : (pointerDocument id).sortMembers = pointerDocument id := by
    show Json.object (Json.sortEntries [("templateId", .text id)]) = _
    rw [Json.sortEntries, List.mergeSort_singleton]
    rfl
  rw [readingOf_documentText rfl rfl, sorted]
  show Except.ok (if id = "" then none else some id) = _
  rw [if_neg nonempty]

end FileStore

namespace Template

/-- The id of an accepted template can be the name of a file. -/
theorem Accepted.isValid_id {σ : Arrangement} {p : Json → Bool} {t : Template}
    (accepted : t.Accepted σ p) : TemplateId.isValid t.id = true := by
  obtain ⟨text, -, normal⟩ := bind_eq_ok.mp accepted.id
  unfold usableId at normal
  by_cases valid : TemplateId.isValid text = true
  · rw [if_pos valid] at normal
    cases normal
    exact valid
  · rw [if_neg valid] at normal
    cases normal

/-- The sorted document of an accepted template is loaded as the sorted template. -/
theorem Accepted.templateOf {t : Template}
    (accepted : t.Accepted .sorted Json.distinctHere) {members : Entries Json}
    (document : t.toDocument.sortMembers = .object members) (isDefault : Bool) :
    FileStore.templateOf t.id isDefault members = .ok (t.sorted isDefault) := by
  have back := accepted.comes_back isDefault
  rw [Json.arrange_sorted, document] at back
  have named : Entries.has "id" (Value.ofMembers members) = true := by
    have entries := ofJson_toDocument (σ := .sorted) accepted.distinct
    rw [Json.arrange_sorted, document, Value.ofJson, Value.mapping.injEq] at entries
    have found : Entries.get? "id" (Value.ofMembers members) = some (.text t.id) := by
      rw [entries, Arrangement.get?_of]
      · rfl
      · rw [keys_documentEntries]
        decide
    rw [Entries.has, found]
    rfl
  unfold FileStore.templateOf
  dsimp only
  rw [if_pos named]
  change Template.ofDocument (.mapping (Value.ofMembers members)) isDefault = _ at back
  rw [back]
  rfl

end Template

namespace FileStore

open StoreProgram

variable {s : FileStore} {w : World} {t : Template}

/-- Stores a template and loads it again. -/
def refetch (s : FileStore) (t : Template) : StoreProgram (Option Template) := do
  let _ ← s.upsert t
  s.get t.id

/-- Loading a template reads one file, and nothing else is done to the files. -/
theorem calm_load {id : String} {isDefault : Bool}
    (read : (Action.read (s.templatePath id)).Succeeds (w.perform (.read (s.templatePath id))).1) :
    Calm (s.load id isDefault) w := by
  unfold load
  by_cases valid : TemplateId.isValid id = true
  · rw [if_pos valid]
    refine Calm.bind (Calm.bind (calm_perform.mpr read) ?_) ?_
    · intro content
      cases content with
      | error e => trivial
      | ok bytes => exact calm_ofExcept _
    · intro reading
      cases reading with
      | found document =>
        cases document with
        | object members => exact Calm.bind (calm_ofExcept _) fun _ => trivial
        | _ => trivial
      | _ => trivial
  · rw [if_neg valid]
    trivial

/-- A document that a store holds is loaded as the sorted template. -/
theorem load_calm (accepted : t.Accepted .sorted Json.distinctHere)
    (few : t.toDocument.hasReadableIntegers = true) (holds : s.Holds t w.tree) {isDefault : Bool}
    (calm : Calm (s.load t.id isDefault) w) :
    program.outcome (s.load t.id isDefault) w = (.ok (some (t.sorted isDefault)), w) := by
  have valid := accepted.isValid_id
  unfold load at calm ⊢
  rw [if_pos valid] at calm ⊢
  have read := calm_perform.mp calm.of_bind.1.of_bind.1
  obtain ⟨m, reached⟩ := holds.reached
  have there := holds.document
  obtain ⟨members, document⟩ : ∃ members, t.toDocument.sortMembers = .object members := by
    rw [Template.toDocument_eq accepted.distinct]
    exact ⟨_, rfl⟩
  have reading : readingAt w.tree (s.templatePath t.id) = .ok (.found (.object members)) := by
    rw [templatePath, readingAt_calm read reached holds.directory, ← templatePath, there]
    dsimp only
    rw [readingOf_documentText accepted.hasDistinctKeys few, document]
  have given : program.outcome (readDocument (s.templatePath t.id)) w =
      (.ok (.found (.object members)), w) := by
    rw [outcome_readDocument, reading]
  rw [outcome_bind_of_ok given]
  dsimp only
  rw [accepted.templateOf document]
  rfl

/-- Storing a template with an integer that is too long to be written says so. -/
theorem outcome_upsert_of_many (decodable : Template.schema.undecodable? t = none)
    (many : t.toDocument.hasReadableIntegers ≠ true) (calm : Calm (s.upsert t) w) :
    ∃ w', program.outcome (s.upsert t) w = (.error (.oversizedInteger none), w') := by
  obtain ⟨w₁, w₂, -, -, locked, -⟩ := locked_calm calm.of_bind.1
  have refused : program.answer (s.writeTemplate t) w₁ = .error (.oversizedInteger none) := by
    unfold writeTemplate
    rw [decodable]
    dsimp only
    rw [if_neg many]
    rfl
  rw [refused] at locked
  exact ⟨w₂, outcome_bind_of_error locked _⟩

/-- What storing and loading a template answers in a calm run: its integers have to be short enough to
be written, and the pointer has to be readable; then the sorted template comes back. -/
theorem answer_refetch (accepted : t.Accepted .sorted Json.distinctHere)
    (calm : Calm (s.refetch t) w) : program.answer (s.refetch t) w =
      if t.toDocument.hasReadableIntegers then
        (s.pointer w.tree).map fun p => some (t.sorted (p = some t.id))
      else .error (.oversizedInteger none) := by
  unfold refetch at calm ⊢
  obtain ⟨stores, rest⟩ := calm.of_bind
  split
  · next few =>
    obtain ⟨w', stored, holds, kept⟩ := upsert_calm accepted.undecodable? few stores
    have same : s.pointer w'.tree = s.pointer w.tree := by
      unfold pointer
      rw [kept]
    unfold Runner.answer
    cases named : s.pointer w.tree with
    | error e =>
      rw [named] at stored
      rw [outcome_bind_of_error stored]
      rfl
    | ok p =>
      rw [named] at stored
      obtain ⟨looks, loads⟩ := (rest stored).of_bind
      obtain ⟨⟨m, reached⟩, inside⟩ := holds.root
      obtain ⟨journal, pointed⟩ := outcome_defaultId_calm looks reached inside
      rw [same, named] at pointed
      have loaded := load_calm accepted few holds (w := { w' with journal := journal }) (loads pointed)
      rw [outcome_bind_of_ok stored, get, outcome_bind_of_ok pointed, loaded]
      rfl
  · next many =>
    obtain ⟨w', ended⟩ := outcome_upsert_of_many accepted.undecodable? many stores
    rw [Runner.answer, outcome_bind_of_error ended]

end FileStore

end InvoiceForms
