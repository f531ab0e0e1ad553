import InvoiceForms.Content.Context
import InvoiceForms.Content.Expansion
import InvoiceForms.Proofs.Results
import InvoiceForms.Validation.Check

/-!
# Faults in the layout of loops

Validation looks at the loops of a content string without data, expansion meets them with data. Both
see the same parts, but expansion leaves everything behind an opener without closer as it is. Still
the two agree: a content string is refused for its loops exactly when expanding it warns of them.
-/

namespace InvoiceForms

open InvoiceForms.Results

/-- Whether a warning says that the loops of a content string are badly laid out. -/
def Warning.isLoopFault (w : Warning) : Bool :=
  w.code = "malformed_loop" || w.code = "loop_ignored"

/-- Whether the loops of a content string are badly laid out, when a loop stands before it or not. -/
def Shape.HasLoopFault (looped : Bool) (s : Shape) : Prop :=
  1 < s.loopPaths.length + looped.toNat ∨ s.unterminatedLoops ≠ [] ∨ s.strayClosers ≠ 0

namespace Part

/-- Taking a block off divides the tokens: its body, its closer, and what comes after. -/
theorem eq_append_of_takeBlock {depth : Nat} {ts body rest : List Token} {closer : Token}
    (taken : takeBlock depth ts = some (body, closer, rest)) : ts = body ++ closer :: rest := by
  induction ts generalizing depth body with
  | nil => simp [takeBlock] at taken
  | cons t ts ih =>
    have further (d : Nat)
        (h : (takeBlock d ts).map (fun r => (t :: r.1, r.2)) = some (body, closer, rest)) :
        t :: ts = body ++ closer :: rest := by
      obtain ⟨⟨inner, c, r⟩, found, same⟩ := Option.map_eq_some_iff.mp h
      simp only [Prod.mk.injEq] at same
      obtain ⟨rfl, rfl, rfl⟩ := same
      rw [ih found, List.cons_append]
    unfold takeBlock at taken
    split at taken
    · simp only [Option.some.injEq, Prod.mk.injEq] at taken
      obtain ⟨rfl, rfl, rfl⟩ := taken
      rfl
    all_goals exact further _ taken

/-- The opener of a block is one of the tokens that were grouped. -/
theorem opener_mem_of_block_mem {fuel : Nat} {ts body : List Token} {opener closer : Token}
    (member : block opener body closer ∈ group fuel ts) :
    opener ∈ ts ∧ opener.kind = .opener := by
  fun_induction group fuel ts with
  | case1 => simp at member
  | case2 => simp at member
  | case3 fuel t ts kind body' closer' rest taken ih =>
    rcases List.mem_cons.mp member with same | member
    · injection same with same
      subst same
      exact ⟨List.mem_cons_self, kind⟩
    · obtain ⟨inRest, isOpener⟩ := ih member
      rw [eq_append_of_takeBlock taken]
      exact ⟨by simp [inRest], isOpener⟩
  | case4 fuel t ts kind taken ih =>
    have ⟨inTail, isOpener⟩ := ih (by simpa using member)
    exact ⟨List.mem_cons_of_mem t inTail, isOpener⟩
  | case5 fuel t ts kind ih =>
    have ⟨inTail, isOpener⟩ := ih (by simpa using member)
    exact ⟨List.mem_cons_of_mem t inTail, isOpener⟩
  | case6 fuel t ts notOpener notCloser ih =>
    have ⟨inTail, isOpener⟩ := ih (by simpa using member)
    exact ⟨List.mem_cons_of_mem t inTail, isOpener⟩

end Part

/-- What a warning about an item of a loop with a body may say: nothing about the layout of loops,
and a nested loop is one of the body. -/
def Warning.FitsBody (body : List Token) (w : Warning) : Prop :=
  w.isLoopFault = false ∧
    (w.code = "loop_nested" → w.path ∈ (body.filter (·.kind = .opener)).map (·.value))

/-- Variables without a value and loops over what is no list are nothing about nested loops. -/
theorem Warning.fitsBody_unresolved (body : List Token) (path : String) :
    (Warning.unresolved path).FitsBody body :=
  ⟨rfl, fun nested => by simp [Warning.unresolved] at nested⟩

theorem Warning.fitsBody_invalidLoopTarget (body : List Token) (path : String) :
    (Warning.invalidLoopTarget path).FitsBody body :=
  ⟨rfl, fun nested => by simp [Warning.invalidLoopTarget] at nested⟩

theorem fitsBody_of_mem_textOrWarn {body : List Token} {path : String} {value : Value}
    {made : Warned String} (written : textOrWarn path value = .ok made) {w : Warning}
    (member : w ∈ made.warnings) : w.FitsBody body := by
  unfold textOrWarn at written
  split at written
  · split at written
    · cases written
      simp at member
    · cases written
  · cases written
    rw [List.mem_singleton] at member
    exact member ▸ Warning.fitsBody_unresolved body path

theorem fitsBody_of_mem_resolve {body : List Token} {lookup : Lookup} {path : String}
    {made : Warned String} (resolved : resolve lookup path = .ok made) {w : Warning}
    (member : w ∈ made.warnings) : w.FitsBody body := by
  obtain ⟨value, -, written⟩ := bind_eq_ok.mp resolved
  exact fitsBody_of_mem_textOrWarn written member

theorem fitsBody_of_mem_resolveIn {body : List Token} {lookup : Lookup} {item : Value}
    {path : String} {made : Warned String} (resolved : resolveIn lookup item path = .ok made)
    {w : Warning} (member : w ∈ made.warnings) : w.FitsBody body := by
  unfold resolveIn at resolved
  split at resolved
  · simp at resolved
  · exact fitsBody_of_mem_resolve resolved member
  · exact fitsBody_of_mem_textOrWarn resolved member

namespace Row

/-- The warnings of one part of a body fit the body. -/
theorem fitsBody_of_mem_ofPart {body : List Token} {lookup : Lookup} {number : Nat} {item : Value}
    {part : Part} (inside : part ∈ Part.ofTokens body) {made : Warned RowPiece}
    (given : ofPart lookup number item part = .ok made) {w : Warning}
    (member : w ∈ made.warnings) : w.FitsBody body := by
  cases part with
  | single t =>
    simp only [ofPart] at given
    split at given
    · obtain ⟨text, resolved, rfl⟩ := map_eq_ok.mp given
      exact fitsBody_of_mem_resolveIn resolved member
    · cases given
      simp at member
    · cases given
      simp at member
  | stray t =>
    cases given
    simp at member
  | unclosed t =>
    cases given
    simp at member
  | block opener inner closer =>
    cases given
    rw [List.mem_singleton] at member
    subst member
    obtain ⟨inBody, isOpener⟩ := Part.opener_mem_of_block_mem inside
    refine ⟨rfl, fun _ => List.mem_map.mpr ⟨opener, ?_, rfl⟩⟩
    simp [inBody, isOpener]

theorem fitsBody_of_mem_ofParts {body : List Token} {lookup : Lookup} {number : Nat} {item : Value}
    {parts : List Part} (inside : ∀ part ∈ parts, part ∈ Part.ofTokens body) {made : Warned Row}
    (given : ofParts lookup number item parts = .ok made) {w : Warning}
    (member : w ∈ made.warnings) : w.FitsBody body := by
  induction parts generalizing made with
  | nil =>
    cases given
    simp at member
  | cons part parts ih =>
    simp only [ofParts, bind_eq_ok, return_eq_ok] at given
    obtain ⟨first, firstGiven, rest, restGiven, rfl⟩ := given
    rcases List.mem_append.mp member with here | later
    · exact fitsBody_of_mem_ofPart (inside part List.mem_cons_self) firstGiven here
    · exact ih (fun p h => inside p (List.mem_cons_of_mem part h)) restGiven later

theorem fitsBody_of_mem_ofItems {body : List Token} {lookup : Lookup} {number : Nat}
    {items : List Value} {made : Warned (List Row)}
    (given : ofItems lookup (Part.ofTokens body) number items = .ok made) {w : Warning}
    (member : w ∈ made.warnings) : w.FitsBody body := by
  induction items generalizing number made with
  | nil =>
    cases given
    simp at member
  | cons item items ih =>
    simp only [ofItems, bind_eq_ok, return_eq_ok] at given
    obtain ⟨first, firstGiven, rest, restGiven, rfl⟩ := given
    rcases List.mem_append.mp member with here | later
    · exact fitsBody_of_mem_ofParts (fun _ h => h) firstGiven here
    · exact ih restGiven later

end Row

/-- The warnings of a loop fit its body. -/
theorem fitsBody_of_mem_loopRows {lookup : Lookup} {path : String} {body : List Token}
    {made : Warned (List Row)} (given : loopRows lookup path body = .ok made) {w : Warning}
    (member : w ∈ made.warnings) : w.FitsBody body := by
  obtain ⟨value, -, given⟩ := bind_eq_ok.mp given
  split at given
  · cases given
    rw [List.mem_singleton] at member
    exact member ▸ Warning.fitsBody_unresolved body path
  · exact Row.fitsBody_of_mem_ofItems given member
  · exact Row.fitsBody_of_mem_ofItems given member
  · cases given
    rw [List.mem_singleton] at member
    exact member ▸ Warning.fitsBody_invalidLoopTarget body path

/-- The elements that are kept without repetitions are all there were. -/
theorem mem_distinct {α : Type} [DecidableEq α] (seen : List α) {x : α} {xs : List α} :
    x ∈ distinct seen xs ↔ x ∈ xs ∧ x ∉ seen := by
  induction xs generalizing seen with
  | nil => simp [distinct]
  | cons y ys ih =>
    unfold distinct
    split
    · rw [ih, List.mem_cons]
      constructor
      · rintro ⟨inside, fresh⟩
        exact ⟨.inr inside, fresh⟩
      · rintro ⟨rfl | inside, fresh⟩
        · contradiction
        · exact ⟨inside, fresh⟩
    next fresh =>
      rw [List.mem_cons, ih, List.mem_cons]
      by_cases same : x = y
      · simp [same, fresh]
      · simp [same]

namespace Draft

/-- Drafting parts gives, with the warnings in front, the draft of the parts behind the first one. -/
theorem exists_of_prepend {draft : Except LookupFault Draft} {text : String}
    {warnings : List Warning} {d : Draft}
    (given : (do return (← draft).prepend text warnings) = .ok d) :
    ∃ rest, draft = .ok rest ∧ d = rest.prepend text warnings := by
  obtain ⟨rest, restGiven, same⟩ := bind_eq_ok.mp given
  exact ⟨rest, restGiven, (return_eq_ok.mp same).symm⟩

/-- What drafting says of the loops among parts, when a loop stands before them or not: it warns of
their layout exactly when something is wrong with it, it has a loop exactly when there is a first one
that is closed, and it names nested loops only where there are some. -/
structure Agrees (looped : Bool) (s : Shape) (d : Draft) : Prop where
  warns : (∃ w ∈ d.warnings, w.isLoopFault = true) ↔ s.HasLoopFault looped
  loops : s.unterminatedLoops = [] → (d.hasLoop = true ↔ looped = false ∧ s.loopPaths ≠ [])
  nested : ∀ w ∈ d.warnings, w.code = "loop_nested" → w.path ∈ s.nestedLoops

/-- A part that says nothing of loops, in front of others. -/
theorem Agrees.prepend {looped : Bool} {s s' : Shape} {d : Draft} (agrees : Agrees looped s d)
    (text : String) {warnings : List Warning} (fits : ∀ w ∈ warnings, w.FitsBody [])
    (paths : s'.loopPaths = s.loopPaths) (unterminated : s'.unterminatedLoops = s.unterminatedLoops)
    (nested : s'.nestedLoops = s.nestedLoops) (stray : s'.strayClosers = s.strayClosers) :
    Agrees looped s' (d.prepend text warnings) where
  warns := by
    have same : s'.HasLoopFault looped ↔ s.HasLoopFault looped := by
      simp only [Shape.HasLoopFault, paths, unterminated, stray]
    rw [same, ← agrees.warns]
    constructor
    · rintro ⟨w, member, fault⟩
      rcases List.mem_append.mp member with here | later
      · simp [(fits w here).1] at fault
      · exact ⟨w, later, fault⟩
    · rintro ⟨w, member, fault⟩
      exact ⟨w, List.mem_append_right _ member, fault⟩
  loops := by
    rw [unterminated, paths]
    exact agrees.loops
  nested := by
    intro w member isNested
    rw [nested]
    rcases List.mem_append.mp member with here | later
    · simpa using (fits w here).2 isNested
    · exact agrees.nested w later isNested

/-- A fault of layout in front of others. -/
theorem Agrees.prependFault {looped : Bool} {s s' : Shape} {d : Draft} (agrees : Agrees looped s d)
    (text : String) {w : Warning} (fault : w.isLoopFault = true) (plain : w.code ≠ "loop_nested")
    (faulty : s'.HasLoopFault looped)
    (loops : s'.unterminatedLoops = [] →
      (d.hasLoop = true ↔ looped = false ∧ s'.loopPaths ≠ []))
    (nested : ∀ path ∈ s.nestedLoops, path ∈ s'.nestedLoops) :
    Agrees looped s' (d.prepend text [w]) where
  warns := ⟨fun _ => faulty, fun _ => ⟨w, List.mem_cons_self, fault⟩⟩
  loops := loops
  nested := by
    intro v member isNested
    rcases List.mem_cons.mp member with rfl | later
    · contradiction
    · exact nested _ (agrees.nested v later isNested)

section Steps

variable {lookup : Lookup} {looped : Bool} {parts : List Part} {d : Draft}
  (ih : ∀ {looped d}, ofParts lookup looped parts = .ok d → Agrees looped (Shape.ofParts parts) d)

include ih

/-- A part outside loops adds no fault and no loop. -/
theorem agrees_single {t : Token} (given : ofParts lookup looped (.single t :: parts) = .ok d) :
    Agrees looped (Shape.ofParts (.single t :: parts)) d := by
  have keeps (text : String) (warnings : List Warning) (rest : Draft)
      (fits : ∀ w ∈ warnings, w.FitsBody []) (restGiven : ofParts lookup looped parts = .ok rest) :
      Agrees looped (Shape.ofParts (.single t :: parts)) (rest.prepend text warnings) := by
    refine (ih restGiven).prepend text fits ?_ ?_ ?_ ?_ <;>
    · simp only [Shape.ofParts, List.foldr_cons, Shape.addPart]
      split <;> rfl
  simp only [ofParts] at given
  split at given
  · obtain ⟨made, resolved, given⟩ := bind_eq_ok.mp given
    obtain ⟨rest, restGiven, rfl⟩ := exists_of_prepend given
    exact keeps _ _ rest (fun w h => fitsBody_of_mem_resolve resolved h) restGiven
  · obtain ⟨rest, restGiven, rfl⟩ := exists_of_prepend given
    refine keeps _ _ rest (fun w h => ?_) restGiven
    rw [List.mem_singleton] at h
    exact h ▸ Warning.fitsBody_unresolved [] _
  · obtain ⟨rest, restGiven, rfl⟩ := exists_of_prepend given
    exact keeps _ _ rest (by simp) restGiven

theorem agrees_stray {t : Token} (given : ofParts lookup looped (.stray t :: parts) = .ok d) :
    Agrees looped (Shape.ofParts (.stray t :: parts)) d := by
  simp only [ofParts] at given
  obtain ⟨rest, restGiven, rfl⟩ := exists_of_prepend given
  refine (ih restGiven).prependFault _ rfl (by simp [Warning.strayCloser]) ?_ ?_ ?_
  · simp [Shape.HasLoopFault, Shape.ofParts, Shape.addPart]
  · exact (ih restGiven).loops
  · exact fun _ h => h

omit ih in
/-- A loop that is not closed ends the drafting. -/
theorem agrees_unclosed {t : Token} (given : ofParts lookup looped (.unclosed t :: parts) = .ok d) :
    Agrees looped (Shape.ofParts (.unclosed t :: parts)) d := by
  cases given
  refine ⟨⟨fun _ => ?_, fun _ => ⟨_, List.mem_cons_self, rfl⟩⟩, ?_, ?_⟩
  · simp [Shape.HasLoopFault, Shape.ofParts, Shape.addPart]
  · simp [Shape.ofParts, Shape.addPart]
  · simp [Warning.unclosedLoop]

omit ih in
theorem shape_block (opener : Token) (body : List Token) (closer : Token) (parts : List Part) :
    Shape.ofParts (.block opener body closer :: parts) =
      Shape.addPart (.block opener body closer) (Shape.ofParts parts) := rfl

/-- Behind a loop, another one is a fault. -/
theorem agrees_block_again {opener closer : Token} {body : List Token}
    (given : ofParts lookup true (.block opener body closer :: parts) = .ok d) :
    Agrees true (Shape.ofParts (.block opener body closer :: parts)) d := by
  simp only [ofParts, if_true] at given
  obtain ⟨rest, restGiven, rfl⟩ := exists_of_prepend given
  have agrees := ih restGiven
  refine agrees.prependFault _ rfl (by simp [Warning.ignoredLoop]) ?_ ?_ ?_
  · simp [Shape.HasLoopFault, shape_block, Shape.addPart]
  · intro closed
    simp [agrees.loops closed]
  · intro path inside
    simp [shape_block, Shape.addPart, inside]

/-- The first loop is expanded; what is wrong behind it is what is wrong. -/
theorem agrees_block_first {opener closer : Token} {body : List Token}
    (given : ofParts lookup false (.block opener body closer :: parts) = .ok d) :
    Agrees false (Shape.ofParts (.block opener body closer :: parts)) d := by
  simp only [ofParts, Bool.false_eq_true, if_false] at given
  obtain ⟨made, rows, given⟩ := bind_eq_ok.mp given
  obtain ⟨rest, restGiven, same⟩ := bind_eq_ok.mp given
  rw [return_eq_ok] at same
  subst same
  have agrees := ih restGiven
  refine ⟨?_, ?_, ?_⟩
  · have faulty : Shape.HasLoopFault false (Shape.ofParts (.block opener body closer :: parts)) ↔
        Shape.HasLoopFault true (Shape.ofParts parts) := by
      simp [Shape.HasLoopFault, shape_block, Shape.addPart]
    rw [faulty, ← agrees.warns]
    constructor
    · rintro ⟨w, member, fault⟩
      rcases List.mem_append.mp member with here | later
      · simp [(fitsBody_of_mem_loopRows rows here).1] at fault
      · exact ⟨w, later, fault⟩
    · rintro ⟨w, member, fault⟩
      exact ⟨w, List.mem_append_right _ member, fault⟩
  · simp [shape_block, Shape.addPart]
  · intro w member isNested
    rcases List.mem_append.mp member with here | later
    · exact List.mem_append_left _ ((fitsBody_of_mem_loopRows rows here).2 isNested)
    · exact List.mem_append_right _ (agrees.nested w later isNested)

end Steps

/-- Drafting agrees with the shape of the parts. The induction is on the parts; whether a loop has
been expanded already is passed along, since only the first one is. -/
theorem agrees_of_ofParts {lookup : Lookup} {looped : Bool} {parts : List Part} {d : Draft}
    (given : ofParts lookup looped parts = .ok d) : Agrees looped (Shape.ofParts parts) d := by
  induction parts generalizing looped d with
  | nil =>
    cases given
    refine ⟨?_, ?_, ?_⟩
    · cases looped <;> simp [Shape.HasLoopFault, Shape.ofParts]
    · simp [Shape.ofParts]
    · simp
  | cons part parts ih =>
    cases part with
    | single t => exact agrees_single ih given
    | stray t => exact agrees_stray ih given
    | unclosed t => exact agrees_unclosed given
    | block opener body closer =>
      cases looped with
      | true => exact agrees_block_again ih given
      | false => exact agrees_block_first ih given

end Draft

/-- An expansion agrees with the shape of the content. -/
theorem Expansion.agrees_of_ofContent {lookup : Lookup} {content : String} {e : Expansion}
    (given : Expansion.ofContent lookup content = .ok e) :
    ((∃ w ∈ e.warnings, w.isLoopFault = true) ↔ (Shape.ofContent content).HasLoopFault false) ∧
      ((Shape.ofContent content).unterminatedLoops = [] →
        (e.hasLoop = true ↔ (Shape.ofContent content).loopPaths ≠ [])) ∧
      ∀ w ∈ e.warnings, w.code = "loop_nested" → w.path ∈ (Shape.ofContent content).nestedLoops := by
  obtain ⟨d, drafted, rfl⟩ := map_eq_ok.mp given
  have agrees := Draft.agrees_of_ofParts drafted
  have kept (w : Warning) : w ∈ d.finish.warnings ↔ w ∈ d.warnings := by
    simp [Draft.finish, mem_distinct]
  refine ⟨?_, ?_, ?_⟩
  · simp only [kept]
    exact agrees.warns
  · intro closed
    have whole := agrees.loops closed
    rw [eq_self, true_and] at whole
    exact whole
  · simp only [kept]
    exact agrees.nested

namespace Validator

/-- Whether a field of a section is refused for the loops of its content. -/
def RefusesLoops (v : Validator) (type : String) (field : String × String) : Prop :=
  ∃ i ∈ v.checkField type field, i.isError = true ∧ i.rule = "loop_blocks"

/-- A finding that is made on a condition is among the findings exactly then. -/
theorem exists_mem_ite_iff {α : Type} {c : Prop} [Decidable c] {x : α} {p : α → Prop} :
    (∃ y ∈ if c then [x] else [], p y) ↔ c ∧ p x := by
  split <;> simp [*]

/-- A field is refused for its loops when the shape of its content says so. -/
theorem refusesLoops_iff (v : Validator) (type key content : String) :
    v.RefusesLoops type (key, content) ↔ (Shape.ofContent content).HasLoopFault false := by
  have ofVariables (shape : Shape) (path : String) :
      ¬ ∃ i ∈ v.checkVariables shape path, i.isError = true ∧ i.rule = "loop_blocks" := by
    rintro ⟨i, member, isError, -⟩
    obtain ⟨name, -, rfl⟩ := List.mem_map.mp member
    simp [Issue.isError] at isError
  have nested (names : List String) (message : String → String) (path : String) :
      ¬ ∃ i ∈ names.map (fun name => loopIssue .warning (message name) path),
        i.isError = true ∧ i.rule = "loop_blocks" := by
    simp [loopIssue, Issue.isError]
  simp only [RefusesLoops, checkField, checkLoops, List.mem_append, or_and_right, exists_or,
    ofVariables, nested, exists_mem_ite_iff, or_false, Shape.HasLoopFault, Bool.toNat_false,
    Nat.add_zero]
  simp [loopIssue, Issue.isError]

end Validator

/-- Whether an expansion warns of the layout of loops. -/
def Expansion.WarnsOfLoops (e : Expansion) : Prop :=
  ∃ w ∈ e.warnings, w.code = "malformed_loop" ∨ w.code = "loop_ignored"

/-- Validation and expansion agree on loops. Whatever the data, an expansion warns of the layout of
loops exactly when the field is refused for it; without open loops it has a loop exactly when the
shape has one; and it names nested loops of the shape only. The one thing that can part the two is
data for which a refused field has no expansion at all, because a look-up fails. -/
theorem refusesLoops_iff_warnsOfLoops (v : Validator) (type key content : String)
    (lookup : Lookup) :
    (∀ e, Expansion.ofContent lookup content = .ok e →
      (v.RefusesLoops type (key, content) ↔ e.WarnsOfLoops) ∧
      ((Shape.ofContent content).unterminatedLoops = [] →
        (e.hasLoop = true ↔ (Shape.ofContent content).loopPaths ≠ [])) ∧
      ∀ w ∈ e.warnings, w.code = "loop_nested" →
        w.path ∈ (Shape.ofContent content).nestedLoops) ∧
    ((v.RefusesLoops type (key, content) ↔
        ∃ e, Expansion.ofContent lookup content = .ok e ∧ e.WarnsOfLoops) ↔
      (v.RefusesLoops type (key, content) →
        ∃ e, Expansion.ofContent lookup content = .ok e)) := by
  have agrees (e : Expansion) (given : Expansion.ofContent lookup content = .ok e) :
      v.RefusesLoops type (key, content) ↔ e.WarnsOfLoops := by
    rw [v.refusesLoops_iff, ← (Expansion.agrees_of_ofContent given).1]
    simp [Expansion.WarnsOfLoops, Warning.isLoopFault]
  refine ⟨fun e given => ⟨agrees e given, (Expansion.agrees_of_ofContent given).2⟩, ?_, ?_⟩
  · intro same refused
    obtain ⟨e, given, -⟩ := same.mp refused
    exact ⟨e, given⟩
  · intro expands
    constructor
    · intro refused
      obtain ⟨e, given⟩ := expands refused
      exact ⟨e, given, (agrees e given).mp refused⟩
    · rintro ⟨e, given, warns⟩
      exact (agrees e given).mpr warns

/-- A superscript digit counts as a digit of an item number but is none, so the look-up fails. The
field is refused for its closer, and no expansion warns of it. -/
theorem refused_without_warning :
    let ctx : Context := { order := [("products", .list [.int 1])] }
    let content := "\x7b\x7b/loop\x7d\x7d\x7b\x7border.products.²\x7d\x7d"
    ¬ (Validator.RefusesLoops {} "header" ("t", content) ↔
      ∃ e, Expansion.ofContent ctx.lookup content = .ok e ∧ e.WarnsOfLoops) := by
  intro ctx content
  have nothing : (Expansion.ofContent ctx.lookup content).toOption = none := by decide
  have fails (e : Expansion) : Expansion.ofContent ctx.lookup content ≠ .ok e := by
    intro given
    simp [given, Except.toOption] at nothing
  have refused : Validator.RefusesLoops {} "header" ("t", content) := by
    rw [Validator.refusesLoops_iff]
    exact .inr (.inr (by decide))
  rw [(refusesLoops_iff_warnsOfLoops {} "header" "t" content ctx.lookup).2]
  simp [fails, refused]

end InvoiceForms
