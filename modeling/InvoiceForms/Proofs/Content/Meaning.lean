import InvoiceForms.Proofs.Content.Brackets
import InvoiceForms.Proofs.Content.FirstLoop
import InvoiceForms.Proofs.Content.Queries
import InvoiceForms.Proofs.Content.Tokens

/-!
# What a content string with one loop expands to

An expansion goes from left to right through its parts, and through the parts of its loop's body once for
each item. What comes out can be said without this going, from the tokens alone: each token becomes a text
by itself, outside the loop once (`Token.expanded`) and in its body once for each item
(`Placed.expandedFor`), and the texts and warnings stand in the order of the tokens and items.
-/

namespace InvoiceForms

open InvoiceForms.Results

/-- What was made, in another form. -/
def Warned.map {α β : Type} (f : α → β) (w : Warned α) : Warned β := ⟨f w.made, w.warnings⟩

/-- Texts made one after another, with the warnings of all. -/
def Warned.joined (made : List (Warned String)) : Warned String :=
  ⟨String.join (made.map (·.made)), made.flatMap (·.warnings)⟩

theorem Warned.joined_cons (w : Warned String) (ws : List (Warned String)) :
    joined (w :: ws) = ⟨w.made ++ (joined ws).made, w.warnings ++ (joined ws).warnings⟩ := by
  rw [joined, List.map_cons, String.join_cons, List.flatMap_cons, joined]

theorem Warned.joined_append (ws us : List (Warned String)) : joined (ws ++ us) =
    ⟨(joined ws).made ++ (joined us).made, (joined ws).warnings ++ (joined us).warnings⟩ := by
  rw [joined, List.map_append, String.join_append, List.flatMap_append, joined, joined]

section Values

/-- What stands at a path; nothing also where the path cannot be followed. -/
def valueAt (lookup : Lookup) (path : String) : Value := (lookup path).toOption.getD .null

/-- What an item has at a path, and what the data outside the loop has where the item has nothing. -/
def valueFor (lookup : Lookup) (item : Value) (path : String) : Value :=
  if valueAt item.lookup path = .null then valueAt lookup path else valueAt item.lookup path

/-- What a variable with a value becomes: the text of the value, or nothing and a warning where it has none. -/
def Value.shownAt (path : String) (v : Value) : Warned String :=
  match v.contentText? with
  | some s => ⟨s, []⟩
  | none => ⟨"", [.unresolved path]⟩

/-- A path can be followed, and what stands there has no text that cannot be written out. -/
def Answers (lookup : Lookup) (path : String) : Prop := ∃ v, lookup path = .ok v ∧ ¬ v.Overlong

/-- An item answers, and where it has nothing the data outside the loop does. -/
def AnswersFor (lookup : Lookup) (item : Value) (path : String) : Prop :=
  ∃ v, item.lookup path = .ok v ∧ ¬ v.Overlong ∧ (v = .null → Answers lookup path)

variable {lookup : Lookup} {item : Value} {path : String}

theorem valueAt_of_lookup {v : Value} (found : lookup path = .ok v) : valueAt lookup path = v := by
  rw [valueAt, found]
  rfl

theorem textOrWarn_gives (path : String) (v : Value) :
    Gives (textOrWarn path v) (¬ v.Overlong) (· = v.shownAt path) where
  exists_iff := Value.exists_textOrWarn_iff
  each w given := by
    rw [textOrWarn] at given
    rw [Value.shownAt]
    cases text : v.contentText? with
    | none =>
      rw [text] at given
      cases given
      rfl
    | some s =>
      rw [text] at given
      dsimp only at given
      split at given
      · cases given
        rfl
      · cases given

theorem resolve_gives (lookup : Lookup) (path : String) :
    Gives (resolve lookup path) (Answers lookup path) (· = (valueAt lookup path).shownAt path) := by
  rw [resolve, Answers]
  cases found : lookup path with
  | error e =>
    apply Gives.error
    rintro ⟨v, same, -⟩
    cases same
  | ok v =>
    rw [valueAt_of_lookup found]
    exact (textOrWarn_gives path v).imp (by simp) fun w same => same

theorem resolveIn_gives (lookup : Lookup) (item : Value) (path : String) :
    Gives (resolveIn lookup item path) (AnswersFor lookup item path)
      (· = (valueFor lookup item path).shownAt path) := by
  rw [resolveIn_eq, AnswersFor, valueFor]
  cases found : item.lookup path with
  | error e =>
    apply Gives.error
    rintro ⟨v, same, -⟩
    cases same
  | ok v =>
    rw [valueAt_of_lookup found]
    show Gives (if v = .null then resolve lookup path else textOrWarn path v) _ _
    by_cases nothing : v = .null
    · subst nothing
      rw [if_pos rfl, if_pos rfl]
      refine (resolve_gives lookup path).imp ?_ fun w same => same
      have short : ¬ Value.Overlong .null := fun overlong => overlong.ne_null rfl
      simp [short]
    · rw [if_neg nothing, if_neg nothing]
      exact (textOrWarn_gives path v).imp (by simp [nothing]) fun w same => same

end Values

/-- What a token outside loops becomes. -/
def Token.expanded (lookup : Lookup) (t : Token) : Warned String :=
  match t.kind with
  | .variable => (valueAt lookup t.value).shownAt t.value
  | .index => ⟨"", [.unresolved Token.itemNumber]⟩
  | _ => ⟨t.raw, []⟩

/-- What tokens outside loops become, one after another. -/
def Token.expandedAll (lookup : Lookup) (ts : List Token) : Warned String :=
  .joined (ts.map (Token.expanded lookup))

/-- Text stays as it is. -/
theorem Token.expandedAll_of_text {lookup : Lookup} {ts : List Token} (texts : ∀ t ∈ ts, t.kind = .text) :
    expandedAll lookup ts = ⟨rawText ts, []⟩ := by
  have each : ts.map (expanded lookup) = ts.map fun t => ⟨t.raw, []⟩ := by
    apply List.map_congr_left
    intro t member
    rw [expanded, texts t member]
  rw [expandedAll, each]
  simp [Warned.joined, rawText, Function.comp_def]

/-- What a token in the body of a loop becomes for an item with a number. Inside a further loop it stays as
it is, and the opener of such a loop gives a warning. -/
def Placed.expandedFor (lookup : Lookup) (number : Nat) (item : Value) (p : Placed) : Warned String :=
  if p.inside then ⟨p.token.raw, []⟩
  else
    match p.token.kind with
    | .variable => (valueFor lookup item p.token.value).shownAt p.token.value
    | .index => ⟨toString number, []⟩
    | .opener => ⟨p.token.raw, if p.matched then [.nestedLoop p.token.value] else []⟩
    | _ => ⟨p.token.raw, []⟩

/-- What the body of a loop becomes for an item with a number. -/
def rowFor (lookup : Lookup) (body : List Token) (number : Nat) (item : Value) : Warned String :=
  .joined ((Placed.ofTokens body).map (Placed.expandedFor lookup number item))

/-- What the body becomes for items that are numbered from `number`. -/
def rowsFrom (lookup : Lookup) (body : List Token) (number : Nat) (items : List Value) :
    List (Warned String) :=
  (items.zipIdx number).map fun p => rowFor lookup body p.2 p.1

/-- The variables among tokens, outside further loops, answer for an item. -/
def AllAnswerFor (lookup : Lookup) (item : Value) (tokens : List Placed) : Prop :=
  ∀ p ∈ tokens, p.isFree = true → AnswersFor lookup item p.token.value

/-- The variables among tokens answer. -/
def AllAnswer (lookup : Lookup) (ts : List Token) : Prop :=
  ∀ t ∈ ts, t.kind = .variable → Answers lookup t.value

theorem allAnswer_append {lookup : Lookup} {a b : List Token} :
    AllAnswer lookup (a ++ b) ↔ AllAnswer lookup a ∧ AllAnswer lookup b :=
  List.forall_mem_append

theorem allAnswerFor_append {lookup : Lookup} {item : Value} {a b : List Placed} :
    AllAnswerFor lookup item (a ++ b) ↔ AllAnswerFor lookup item a ∧ AllAnswerFor lookup item b :=
  List.forall_mem_append

namespace Row

variable {lookup : Lookup} {number : Nat} {item : Value}

/-- A part without variables becomes something for every item. -/
theorem gives_of_no_variable {tokens : List Placed} {w : Warned RowPiece}
    (noVariable : ∀ p ∈ tokens, p.isFree = false)
    (same : w.map RowPiece.text = .joined (tokens.map (Placed.expandedFor lookup number item))) :
    Gives (.ok w : Except LookupFault (Warned RowPiece)) (AllAnswerFor lookup item tokens)
      (·.map RowPiece.text = .joined (tokens.map (Placed.expandedFor lookup number item))) := by
  refine .ok (fun p member free => ?_) same
  rw [noVariable p member] at free
  cases free

/-- Each part of a body becomes what its tokens become. -/
theorem ofPart_gives (lookup : Lookup) (number : Nat) (item : Value) {part : Part}
    (formed : part.WellFormed) :
    Gives (ofPart lookup number item part) (AllAnswerFor lookup item part.placed)
      (·.map RowPiece.text = .joined (part.placed.map (Placed.expandedFor lookup number item))) := by
  cases part with
  | single t =>
    obtain ⟨notOpener, notCloser⟩ := formed
    rw [ofPart]
    cases kind : t.kind with
    | «variable» =>
      refine Gives.imp ((resolveIn_gives lookup item t.value).map fun w same => ?_) ?_ fun _ => id
      · rw [same]
        simp [Part.placed, Placed.expandedFor, kind, Warned.joined, Warned.map, RowPiece.text]
      · simp [AllAnswerFor, Part.placed, Placed.isFree, kind]
    | index | text =>
      apply gives_of_no_variable
      · simp [Part.placed, Placed.isFree, kind]
      · simp [Part.placed, Placed.expandedFor, kind, Warned.joined, Warned.map, RowPiece.text]
    | opener => exact absurd kind notOpener
    | closer => exact absurd kind notCloser
  | stray t =>
    have kind : t.kind = .closer := formed
    apply gives_of_no_variable
    · simp [Part.placed, Placed.isFree, kind]
    · simp [Part.placed, Placed.expandedFor, kind, Warned.joined, Warned.map, RowPiece.text]
  | unclosed t =>
    have kind : t.kind = .opener := formed
    apply gives_of_no_variable
    · simp [Part.placed, Placed.isFree, kind]
    · simp [Part.placed, Placed.expandedFor, kind, Warned.joined, Warned.map, RowPiece.text]
  | block opener body closer =>
    obtain ⟨opens, -, closes⟩ := formed
    apply gives_of_no_variable
    · simp only [Part.placed, List.cons_append, List.mem_cons, List.mem_append, List.mem_map,
        List.not_mem_nil, or_false]
      rintro p (rfl | ⟨t, -, rfl⟩ | rfl)
      · simp [Placed.isFree, opens]
      · simp [Placed.isFree]
      · simp [Placed.isFree, closes]
    · simp [Part.placed, Placed.expandedFor, opens, closes, Warned.joined, Warned.map, RowPiece.text,
        Part.raw, Part.tokens, Token.rawText, Function.comp_def]

/-- The parts of a body become what their tokens become, one after another. -/
theorem ofParts_gives (lookup : Lookup) (number : Nat) (item : Value) (parts : List Part)
    (formed : ∀ part ∈ parts, part.WellFormed) :
    Gives (ofParts lookup number item parts) (AllAnswerFor lookup item (parts.flatMap Part.placed))
      (·.map Row.text =
        .joined ((parts.flatMap Part.placed).map (Placed.expandedFor lookup number item))) := by
  induction parts with
  | nil => exact .ok (List.forall_mem_nil _) rfl
  | cons part parts ih =>
    have here := ofPart_gives lookup number item (formed part List.mem_cons_self)
    have later := ih fun part later => formed part (List.mem_cons_of_mem _ later)
    rw [ofParts, List.flatMap_cons, allAnswerFor_append, List.map_append, Warned.joined_append]
    refine here.both later fun first rest made others => ?_
    rw [← made, ← others]
    simp [Warned.map, text]

/-- The rows of items are what the body becomes for each of them. -/
theorem ofItems_gives (lookup : Lookup) (body : List Token) (number : Nat) (items : List Value) :
    Gives (ofItems lookup (Part.ofTokens body) number items)
      (∀ item ∈ items, AllAnswerFor lookup item (Placed.ofTokens body)) fun w =>
      w.made.map Row.text = (rowsFrom lookup body number items).map (·.made) ∧
        w.warnings = (rowsFrom lookup body number items).flatMap (·.warnings) := by
  induction items generalizing number with
  | nil => exact .ok (List.forall_mem_nil _) ⟨rfl, rfl⟩
  | cons item items ih =>
    have here := ofParts_gives lookup number item (Part.ofTokens body) fun part =>
      Part.wellFormed_of_mem_ofTokens
    rw [Part.flatMap_placed_ofTokens] at here
    rw [ofItems, List.forall_mem_cons]
    refine here.both (ih (number + 1)) fun first rest made others => ?_
    have own : rowFor lookup body number item = first.map Row.text := made.symm
    have all : rowsFrom lookup body number (item :: items) =
        first.map Row.text :: rowsFrom lookup body (number + 1) items := by
      rw [rowsFrom, List.zipIdx_cons, List.map_cons, own, rowsFrom]
    rw [all, List.map_cons, List.map_cons, List.flatMap_cons, others.1, others.2]
    exact ⟨rfl, rfl⟩

/-- The rows of a loop whose path leads to items. -/
theorem loopRows_gives {path : String} {items : List Value} (body : List Token)
    (found : lookup path = .ok (.list items) ∨ lookup path = .ok (.tuple items)) :
    Gives (loopRows lookup path body)
      (∀ item ∈ items, AllAnswerFor lookup item (Placed.ofTokens body)) fun w =>
      w.made.map Row.text = (rowsFrom lookup body 1 items).map (·.made) ∧
        w.warnings = (rowsFrom lookup body 1 items).flatMap (·.warnings) := by
  rw [loopRows]
  rcases found with list | tuple
  · rw [list]
    exact ofItems_gives lookup body 1 items
  · rw [tuple]
    exact ofItems_gives lookup body 1 items

end Row

/-- Gathering warnings leaves each at its first place. -/
theorem distinct_eq_eraseDups {α : Type} [DecidableEq α] (seen xs : List α) :
    distinct seen xs = (xs.filter (· ∉ seen)).eraseDups := by
  induction xs generalizing seen with
  | nil => rfl
  | cons x xs ih =>
    rw [distinct]
    by_cases known : x ∈ seen
    · rw [if_pos known, ih, List.filter_cons_of_neg (by simpa using known)]
    · rw [if_neg known, ih, List.filter_cons_of_pos (by simpa using known), List.eraseDups_cons,
        List.filter_filter]
      congr 3
      funext y
      by_cases same : y = x
      · simp [same]
      · simp [same]

/-- What is made of one loop: a text in front, a text for each item, and a text behind. -/
structure Expansion.OfRows (e : Expansion) (front : Warned String) (rows : List (Warned String))
    (back : Warned String) : Prop where
  text : e.text = front.made ++ String.join (rows.map (·.made)) ++ back.made
  items : e.items = rows.map (·.made)
  warnings : e.warnings = (front.warnings ++ rows.flatMap (·.warnings) ++ back.warnings).eraseDups
  hasLoop : e.hasLoop = true

namespace Draft

variable {lookup : Lookup} {looped : Bool} {parts : List Part} {c : Prop} {P : Draft → Prop}

theorem prepend_prepend (d : Draft) (text text' : String) (warnings warnings' : List Warning) :
    (d.prepend text' warnings').prepend text warnings =
      d.prepend (text ++ text') (warnings ++ warnings') := by
  rw [prepend, prepend, prepend, String.append_assoc, List.append_assoc]

/-- A token that neither opens nor closes a loop becomes something in front of the others. -/
theorem ofParts_single_gives {t : Token} (others : Gives (ofParts lookup looped parts) c P)
    (plain : t.kind ≠ .opener ∧ t.kind ≠ .closer) :
    Gives (ofParts lookup looped (.single t :: parts))
      ((t.kind = .variable → Answers lookup t.value) ∧ c) fun d =>
      ∃ rest, P rest ∧ d = rest.prepend (t.expanded lookup).made (t.expanded lookup).warnings := by
  rw [ofParts, Token.expanded]
  cases kind : t.kind with
  | «variable» =>
    rw [imp_iff_right rfl]
    refine (resolve_gives lookup t.value).both others fun w rest same holds => ⟨rest, holds, ?_⟩
    rw [same]
  | index | text =>
    refine Gives.imp (others.map fun rest holds => ⟨rest, holds, rfl⟩) ?_ fun _ => id
    simp
  | opener => exact absurd kind plain.1
  | closer => exact absurd kind plain.2

/-- Tokens that neither open nor close a loop become texts in front of the others, one after another. -/
theorem ofParts_singles_gives {ts : List Token} (others : Gives (ofParts lookup looped parts) c P)
    (plain : ∀ t ∈ ts, t.kind ≠ .opener ∧ t.kind ≠ .closer) :
    Gives (ofParts lookup looped (ts.map .single ++ parts))
      (AllAnswer lookup ts ∧ c) fun d =>
      ∃ rest, P rest ∧ d = rest.prepend (Token.expandedAll lookup ts).made
        (Token.expandedAll lookup ts).warnings := by
  induction ts with
  | nil =>
    refine others.imp (by simp [AllAnswer]) fun d holds => ⟨d, holds, ?_⟩
    simp [prepend, Token.expandedAll, Warned.joined]
  | cons t ts ih =>
    have later := ih fun u member => plain u (List.mem_cons_of_mem t member)
    rw [AllAnswer, List.forall_mem_cons, and_assoc]
    refine (ofParts_single_gives later (plain t List.mem_cons_self)).imp Iff.rfl ?_
    rintro _ ⟨_, ⟨rest, holds, rfl⟩, rfl⟩
    refine ⟨rest, holds, ?_⟩
    rw [prepend_prepend, Token.expandedAll, Token.expandedAll, List.map_cons, Warned.joined_cons]

/-- The draft of tokens that neither open nor close a loop. -/
theorem ofParts_map_single_gives {ts : List Token} (lookup : Lookup) (looped : Bool)
    (plain : ∀ t ∈ ts, t.kind ≠ .opener ∧ t.kind ≠ .closer) :
    Gives (ofParts lookup looped (ts.map .single)) (AllAnswer lookup ts)
      (· = { text := (Token.expandedAll lookup ts).made,
             warnings := (Token.expandedAll lookup ts).warnings }) := by
  have none : Gives (ofParts lookup looped []) True (· = {}) := .ok trivial rfl
  have all := ofParts_singles_gives none plain
  rw [List.append_nil] at all
  refine all.imp (iff_of_eq (and_true _)) ?_
  rintro _ ⟨_, rfl, rfl⟩
  simp [prepend]

/-- A loop over items becomes its rows in front of the others. -/
theorem ofParts_block_gives {opener : Token} {items : List Value} (body : List Token) (closer : Token)
    (found : lookup opener.value = .ok (.list items) ∨ lookup opener.value = .ok (.tuple items))
    (others : Gives (ofParts lookup true parts) c P) :
    Gives (ofParts lookup false (.block opener body closer :: parts))
      ((∀ item ∈ items, AllAnswerFor lookup item (Placed.ofTokens body)) ∧ c) fun d =>
      ∃ rest, P rest ∧ d.rows.map Row.text = (rowsFrom lookup body 1 items).map (·.made) ∧
        d.text = String.join ((rowsFrom lookup body 1 items).map (·.made)) ++ rest.text ∧
        d.warnings = (rowsFrom lookup body 1 items).flatMap (·.warnings) ++ rest.warnings ∧
        d.hasLoop = true := by
  rw [ofParts]
  refine (Row.loopRows_gives body found).both others fun w rest rows holds => ?_
  obtain ⟨texts, warnings⟩ := rows
  exact ⟨rest, holds, texts, by rw [← texts]; rfl, by rw [← warnings]; rfl, rfl⟩

/-- The draft of one loop: its rows stand between the texts in front of it and behind it. -/
theorem ofTokens_gives {ts before body after : List Token} {opener closer : Token} {items : List Value}
    (loop : OneLoop ts before opener body closer after)
    (found : lookup opener.value = .ok (.list items) ∨ lookup opener.value = .ok (.tuple items)) :
    Gives (ofParts lookup false (Part.ofTokens ts))
      (AllAnswer lookup (before ++ after) ∧
        ∀ item ∈ items, AllAnswerFor lookup item (Placed.ofTokens body)) fun d =>
      d.finish.OfRows (Token.expandedAll lookup before) (rowsFrom lookup body 1 items)
        (Token.expandedAll lookup after) := by
  obtain ⟨plainBefore, plainAfter⟩ := List.forall_mem_append.mp loop.alone
  rw [loop.ofTokens_eq, Part.map_ofToken plainBefore, Part.ofTokens_of_plain plainAfter]
  have behind := ofParts_map_single_gives lookup true plainAfter
  have whole := ofParts_singles_gives (ofParts_block_gives body closer found behind) plainBefore
  refine whole.imp ?_ ?_
  · rw [allAnswer_append, and_assoc]
    exact and_congr_right fun _ => and_comm
  · rintro _ ⟨d, ⟨_, rfl, items, text, warnings, hasLoop⟩, rfl⟩
    refine ⟨?_, items, ?_, hasLoop⟩
    · rw [finish, prepend, text, String.append_assoc]
    · rw [finish, prepend, warnings, distinct_eq_eraseDups, List.append_assoc]
      simp

end Draft

namespace Expansion

/-- For every content string and all data. With one loop, over a path that leads to items, there is an
expansion exactly when all variables can be looked up and written out. It is the tokens in front of the loop
expanded, the tokens of its body expanded for each item in turn, and those behind it expanded; its items are
what the body gives, and its warnings those of all these in this order, each at its first place only. A
content string of text alone is left as it is. -/
theorem ofContent_means (lookup : Lookup) (content : String) :
    (∀ before opener body closer after items,
      OneLoop (Token.scan content) before opener body closer after →
      lookup opener.value = .ok (.list items) ∨ lookup opener.value = .ok (.tuple items) →
      Gives (ofContent lookup content)
        (AllAnswer lookup (before ++ after) ∧
          ∀ item ∈ items, AllAnswerFor lookup item (Placed.ofTokens body))
        (·.OfRows (Token.expandedAll lookup before) (rowsFrom lookup body 1 items)
          (Token.expandedAll lookup after))) ∧
      ((∀ t ∈ Token.scan content, t.kind = .text) →
        ofContent lookup content = .ok ⟨content, [], [], [], false⟩) := by
  constructor
  · intro before opener body closer after items loop found
    exact (Draft.ofTokens_gives loop found).map fun d holds => holds
  · intro texts
    have plain : ∀ t ∈ Token.scan content, t.kind ≠ .opener ∧ t.kind ≠ .closer := by
      intro t member
      rw [texts t member]
      decide
    have gives := Draft.ofParts_map_single_gives lookup false plain
    have answers : AllAnswer lookup (Token.scan content) := by
      intro t member isVariable
      rw [texts t member] at isVariable
      cases isVariable
    obtain ⟨d, given⟩ := gives.exists_iff.mpr answers
    rw [ofContent, Part.ofContent, Part.ofTokens_of_plain plain, given, gives.each d given,
      Token.expandedAll_of_text texts, Token.rawText_scan]
    rfl

/-- Two items, one without a name of its own, in a loop with another inside it. -/
theorem ofContent_means_of_orders :
    let ctx : Context :=
      { order := [("name", .text "Order"),
          ("products", .list [.mapping [("n", .int 3), ("order", .null)], .null])] }
    let opener : Token := ⟨.opener, "{{loop:order.products}}", "order.products"⟩
    let closer : Token := ⟨.closer, "{{/loop}}", "/loop"⟩
    let nested : Token := ⟨.opener, "{{loop:x}}", "x"⟩
    let body : List Token := [⟨.index, "\x7b\x7b@index\x7d\x7d", "@index"⟩, ⟨.text, ":", ":"⟩,
      ⟨.variable, "{{n}}", "n"⟩, ⟨.variable, "{{order.name}}", "order.name"⟩, nested,
      ⟨.variable, "{{n}}", "n"⟩, closer]
    let before : List Token := [⟨.text, "Items ", "Items "⟩, ⟨.variable, "{{n}}", "n"⟩]
    let after : List Token := [⟨.text, " of ", " of "⟩, ⟨.variable, "{{order.name}}", "order.name"⟩]
    let content := "Items {{n}}{{loop:order.products}}\x7b\x7b@index\x7d\x7d:{{n}}{{order.name}}" ++
      "{{loop:x}}{{n}}{{/loop}}{{/loop}} of {{order.name}}"
    ∃ e, OneLoop (Token.scan content) before opener body closer after ∧
      ofContent ctx.lookup content = .ok e ∧
      e.OfRows (Token.expandedAll ctx.lookup before)
        (rowsFrom ctx.lookup body 1 [.mapping [("n", .int 3), ("order", .null)], .null])
        (Token.expandedAll ctx.lookup after) ∧
      e.items = ["1:3Order{{loop:x}}{{n}}{{/loop}}", "2:Order{{loop:x}}{{n}}{{/loop}}"] ∧
      e.warnings = [.unresolved "n", .nestedLoop "x"] := by
  intro ctx opener closer nested body before after content
  let first := "1:3Order{{loop:x}}{{n}}{{/loop}}"
  let second := "2:Order{{loop:x}}{{n}}{{/loop}}"
  have given : ofContent ctx.lookup content = .ok ⟨"Items " ++ first ++ second ++ " of Order",
      [first, second], [[first], [second]], [.unresolved "n", .nestedLoop "x"], true⟩ := by
    decide +kernel
  have block : Balanced (nested :: [⟨.variable, "{{n}}", "n"⟩] ++ closer :: []) :=
    .block nested _ closer _ rfl (.plain _ _ (by decide) (by decide) .nil) rfl .nil
  have loop : OneLoop (Token.scan content) before opener body closer after :=
    { tokens := by decide +kernel
      first := by decide
      opens := rfl
      balanced := .plain _ _ (by decide) (by decide) (.plain _ _ (by decide) (by decide)
        (.plain _ _ (by decide) (by decide) (.plain _ _ (by decide) (by decide) block)))
      closes := rfl
      alone := by decide }
  have found : ctx.lookup opener.value = .ok (.list [.mapping [("n", .int 3), ("order", .null)], .null]) := by
    decide
  have means := (ofContent_means ctx.lookup content).1 _ _ _ _ _ _ loop (.inl found)
  exact ⟨_, loop, given, means.each _ given, rfl, rfl⟩

end Expansion

end InvoiceForms
