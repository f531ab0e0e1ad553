import InvoiceForms.Content.Expansion
import InvoiceForms.Proofs.Content.LoopFaults

/-!
# Warnings of expansions

Expanding a content string gives warnings of six kinds only, and none of them names a section. What
is said to be unresolved has been looked up, in the data or in an item of a list that a loop is over,
and what was found there has no text.
-/

namespace InvoiceForms

open InvoiceForms.Results

/-- The warnings that expanding a content string can give. -/
inductive Warning.OfContent : Warning → Prop
  | unresolved (path : String) : OfContent (.unresolved path)
  | invalidLoopTarget (path : String) : OfContent (.invalidLoopTarget path)
  | nestedLoop (path : String) : OfContent (.nestedLoop path)
  | unclosedLoop (path : String) : OfContent (.unclosedLoop path)
  | strayCloser : OfContent .strayCloser
  | ignoredLoop (path : String) : OfContent (.ignoredLoop path)

/-- A warning about content does not say in which section it arose. -/
theorem Warning.OfContent.sectionType {w : Warning} (kind : w.OfContent) : w.sectionType = none := by
  cases kind <;> rfl

/-- How each warning of an expansion comes about. A variable without a value was looked up in the data,
or in an item of a list, where null would not count; or it is the number of an item outside a loop. -/
inductive Warning.Arises (lookup : Lookup) : Warning → Prop
  | looked {path : String} {value : Value} (found : lookup path = .ok value)
      (textless : value.contentText? = none) : Arises lookup (.unresolved path)
  | item {loop path : String} {items : List Value} {item value : Value}
      (list : lookup loop = .ok (.list items) ∨ lookup loop = .ok (.tuple items))
      (member : item ∈ items) (found : item.lookup path = .ok value) (present : value ≠ .null)
      (textless : value.contentText? = none) : Arises lookup (.unresolved path)
  | number : Arises lookup (.unresolved Token.itemNumber)
  | invalidLoopTarget (path : String) : Arises lookup (.invalidLoopTarget path)
  | nestedLoop (path : String) : Arises lookup (.nestedLoop path)
  | unclosedLoop (path : String) : Arises lookup (.unclosedLoop path)
  | strayCloser : Arises lookup .strayCloser
  | ignoredLoop (path : String) : Arises lookup (.ignoredLoop path)

variable {lookup : Lookup} {w : Warning}

/-- However a warning comes about, it is of one of the kinds. -/
theorem Warning.Arises.ofContent (arises : w.Arises lookup) : w.OfContent := by
  cases arises with
  | looked | item | number => exact .unresolved _
  | invalidLoopTarget path => exact .invalidLoopTarget path
  | nestedLoop path => exact .nestedLoop path
  | unclosedLoop path => exact .unclosedLoop path
  | strayCloser => exact .strayCloser
  | ignoredLoop path => exact .ignoredLoop path

theorem eq_unresolved_of_mem_textOrWarn {path : String} {value : Value} {made : Warned String}
    (written : textOrWarn path value = .ok made) (member : w ∈ made.warnings) :
    value.contentText? = none ∧ w = .unresolved path := by
  unfold textOrWarn at written
  split at written
  · split at written
    · cases written
      simp at member
    · cases written
  · next textless =>
    cases written
    exact ⟨textless, List.mem_singleton.mp member⟩

theorem arises_of_mem_resolve {path : String} {made : Warned String}
    (resolved : resolve lookup path = .ok made) (member : w ∈ made.warnings) : w.Arises lookup := by
  obtain ⟨value, found, written⟩ := bind_eq_ok.mp resolved
  obtain ⟨textless, rfl⟩ := eq_unresolved_of_mem_textOrWarn written member
  exact .looked found textless

section Items

variable {loop : String} {items : List Value}
  (list : lookup loop = .ok (.list items) ∨ lookup loop = .ok (.tuple items))

include list

theorem arises_of_mem_resolveIn {item : Value} (inside : item ∈ items) {path : String}
    {made : Warned String} (resolved : resolveIn lookup item path = .ok made)
    (member : w ∈ made.warnings) : w.Arises lookup := by
  unfold resolveIn at resolved
  split at resolved
  · simp at resolved
  · exact arises_of_mem_resolve resolved member
  · next value present found =>
    obtain ⟨textless, rfl⟩ := eq_unresolved_of_mem_textOrWarn resolved member
    exact .item list inside found present textless

namespace Row

theorem arises_of_mem_ofPart {number : Nat} {item : Value} (inside : item ∈ items) {part : Part}
    {made : Warned RowPiece} (given : ofPart lookup number item part = .ok made)
    (member : w ∈ made.warnings) : w.Arises lookup := by
  cases part with
  | single t =>
    simp only [ofPart] at given
    split at given
    · obtain ⟨text, resolved, rfl⟩ := map_eq_ok.mp given
      exact arises_of_mem_resolveIn list inside resolved member
    all_goals
      cases given
      simp at member
  | stray t | unclosed t =>
    cases given
    simp at member
  | block opener body closer =>
    cases given
    simp only [List.mem_singleton] at member
    exact member ▸ .nestedLoop opener.value

theorem arises_of_mem_ofParts {number : Nat} {item : Value} (inside : item ∈ items)
    {parts : List Part} {made : Warned Row} (given : ofParts lookup number item parts = .ok made)
    (member : w ∈ made.warnings) : w.Arises lookup := by
  induction parts generalizing made with
  | nil =>
    cases given
    simp at member
  | cons part parts ih =>
    simp only [ofParts, bind_eq_ok, return_eq_ok] at given
    obtain ⟨first, firstGiven, rest, restGiven, rfl⟩ := given
    rcases List.mem_append.mp member with here | later
    · exact arises_of_mem_ofPart list inside firstGiven here
    · exact ih restGiven later

/-- The induction is on the items that are left, all of which are items of the list. -/
theorem arises_of_mem_ofItems {body : List Part} {number : Nat} {rest : List Value}
    (within : ∀ item ∈ rest, item ∈ items) {made : Warned (List Row)}
    (given : ofItems lookup body number rest = .ok made) (member : w ∈ made.warnings) :
    w.Arises lookup := by
  induction rest generalizing number made with
  | nil =>
    cases given
    simp at member
  | cons item rest ih =>
    simp only [ofItems, bind_eq_ok, return_eq_ok] at given
    obtain ⟨first, firstGiven, others, othersGiven, rfl⟩ := given
    rcases List.mem_append.mp member with here | later
    · exact arises_of_mem_ofParts list (within item List.mem_cons_self) firstGiven here
    · exact ih (fun i h => within i (List.mem_cons_of_mem item h)) othersGiven later

end Row

end Items

theorem arises_of_mem_loopRows {path : String} {body : List Token} {made : Warned (List Row)}
    (given : loopRows lookup path body = .ok made) (member : w ∈ made.warnings) :
    w.Arises lookup := by
  obtain ⟨value, found, given⟩ := bind_eq_ok.mp given
  split at given
  · cases given
    simp only [List.mem_singleton] at member
    exact member ▸ .looked found rfl
  · exact Row.arises_of_mem_ofItems (.inl found) (fun _ h => h) given member
  · exact Row.arises_of_mem_ofItems (.inr found) (fun _ h => h) given member
  · cases given
    simp only [List.mem_singleton] at member
    exact member ▸ .invalidLoopTarget path

/-- The induction is on the parts; whether a loop has been expanded already decides only which
warning a further loop gives. -/
theorem Draft.arises_of_mem_ofParts {looped : Bool} {parts : List Part} {d : Draft}
    (given : ofParts lookup looped parts = .ok d) (member : w ∈ d.warnings) : w.Arises lookup := by
  induction parts generalizing looped d with
  | nil =>
    cases given
    simp at member
  | cons part parts ih =>
    have behind {text : String} {warnings : List Warning} {looped : Bool}
        (kinds : ∀ v ∈ warnings, v.Arises lookup)
        (given : (do return (← ofParts lookup looped parts).prepend text warnings) = .ok d) :
        w.Arises lookup := by
      obtain ⟨rest, tail, rfl⟩ := exists_of_prepend given
      rcases List.mem_append.mp member with here | later
      · exact kinds w here
      · exact ih tail later
    cases part with
    | single t =>
      simp only [ofParts] at given
      split at given
      · obtain ⟨made, resolved, given⟩ := bind_eq_ok.mp given
        exact behind (fun v h => arises_of_mem_resolve resolved h) given
      · exact behind (by simp [Warning.Arises.number]) given
      · exact behind (by simp) given
    | stray t => exact behind (by simp [Warning.Arises.strayCloser]) given
    | unclosed t =>
      cases given
      simp only [List.mem_singleton] at member
      exact member ▸ .unclosedLoop t.value
    | block opener body closer =>
      simp only [ofParts] at given
      split at given
      · exact behind (by simp [Warning.Arises.ignoredLoop]) given
      · obtain ⟨made, rows, given⟩ := bind_eq_ok.mp given
        obtain ⟨rest, tail, same⟩ := bind_eq_ok.mp given
        rw [return_eq_ok] at same
        subst same
        rcases List.mem_append.mp member with here | later
        · exact arises_of_mem_loopRows rows here
        · exact ih tail later

namespace Expansion

variable {content : String} {e : Expansion}

/-- Every warning of an expansion comes about in one of the ways that there are. -/
theorem arises_of_mem_warnings (given : Expansion.ofContent lookup content = .ok e)
    (member : w ∈ e.warnings) : w.Arises lookup := by
  obtain ⟨d, drafted, rfl⟩ := map_eq_ok.mp given
  simp only [Draft.finish, mem_distinct] at member
  exact Draft.arises_of_mem_ofParts drafted member.1

/-- The warnings of an expansion are of the kinds that expanding can give. -/
theorem ofContent_of_mem_warnings (given : Expansion.ofContent lookup content = .ok e)
    (member : w ∈ e.warnings) : w.OfContent :=
  (arises_of_mem_warnings given member).ofContent

end Expansion

end InvoiceForms
