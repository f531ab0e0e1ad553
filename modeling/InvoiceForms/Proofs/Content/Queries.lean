import InvoiceForms.Proofs.Content.Contributions
import InvoiceForms.Proofs.Content.Lookups
import InvoiceForms.Proofs.Content.Structure

/-!
# What data is asked for

Expanding a content string asks the data for texts and for one list. There is an expansion unless one of
these queries breaks: at a segment that looks like the number of an item and is none that can be read, or
at an integer with too many digits. In every expansion, a variable whose path leads to no text gives none
and a warning, and so does the list of a loop that is missing.
-/

namespace InvoiceForms

open InvoiceForms.Results InvoiceForms.Text

namespace Value

/-- A value whose text has too many digits. -/
def Overlong (v : Value) : Prop := (∃ s, v.contentText? = some s) ∧ v.isWritable = false

theorem Overlong.ne_null {v : Value} (overlong : v.Overlong) : v ≠ null := by
  rintro rfl
  obtain ⟨⟨s, hasText⟩, -⟩ := overlong
  cases hasText

theorem exists_textOrWarn_iff {path : String} {v : Value} :
    (∃ w, textOrWarn path v = .ok w) ↔ ¬ v.Overlong := by
  rw [textOrWarn, Overlong]
  cases v.contentText? with
  | none =>
    refine iff_of_true ⟨_, rfl⟩ ?_
    rintro ⟨⟨s, hasText⟩, -⟩
    cases hasText
  | some s =>
    cases v.isWritable with
    | true =>
      refine iff_of_true ⟨_, rfl⟩ ?_
      rintro ⟨-, long⟩
      cases long
    | false =>
      refine iff_of_false ?_ fun fits => fits ⟨⟨s, rfl⟩, rfl⟩
      rintro ⟨w, given⟩
      cases given

theorem textOrWarn_of_textless {path : String} {v : Value} (textless : v.contentText? = none) :
    textOrWarn path v = .ok ⟨"", [.unresolved path]⟩ := by
  rw [textOrWarn, textless]

end Value

namespace Context

variable {ctx : Context} {path : String}

/-- A path that leads to nothing that has a text. -/
def Textless (ctx : Context) (path : String) : Prop :=
  ∀ v, ctx.LeadsTo path v → v.contentText? = none

/-- A path that leads to no text for an item: to no text in the item, and also to none in the whole data
where the item has no value. -/
def TextlessFor (ctx : Context) (item : Value) (path : String) : Prop :=
  (∀ v, item.LeadsTo path v → v.contentText? = none) ∧
    ((∃ v, item.LeadsTo path v ∧ v ≠ .null) ∨ ctx.Textless path)

/-- A variable that breaks: its path does, or its value cannot be written out. -/
def BreaksAsText (ctx : Context) (path : String) : Prop :=
  ctx.Breaks path ∨ ∃ v, ctx.LeadsTo path v ∧ v.Overlong

/-- Something that the data is asked for: the text of a variable, the list of a loop, or the text of a
variable for one of its items. -/
inductive Query
  | text (path : String)
  | list (path : String)
  | itemText (item : Value) (path : String)

/-- A query that breaks. The whole data is asked only for what an item does not have. -/
def Query.Breaks (ctx : Context) : Query → Prop
  | text path => ctx.BreaksAsText path
  | list path => ctx.Breaks path
  | itemText item path =>
    item.Breaks path ∨ (∃ v, item.LeadsTo path v ∧ v.Overlong) ∨
      (∀ v, item.LeadsTo path v → v = .null) ∧ ctx.BreaksAsText path

/-- What parts of a content string ask for, when a loop has been expanded before them or not. Nothing is
asked for behind a loop that is not closed, nor inside further loops and loops inside a loop. -/
inductive Asks (ctx : Context) : Bool → List Part → Query → Prop
  | text {looped : Bool} {t : Token} {parts : List Part} (kind : t.kind = .variable) :
      Asks ctx looped (.single t :: parts) (.text t.value)
  | list {opener closer : Token} {body : List Token} {parts : List Part} :
      Asks ctx false (.block opener body closer :: parts) (.list opener.value)
  | itemText {opener closer : Token} {body : List Token} {parts : List Part} {items : List Value}
      {item : Value} {t : Token}
      (leads : ctx.LeadsTo opener.value (.list items) ∨ ctx.LeadsTo opener.value (.tuple items))
      (member : item ∈ items) (inside : Part.single t ∈ Part.ofTokens body)
      (kind : t.kind = .variable) :
      Asks ctx false (.block opener body closer :: parts) (.itemText item t.value)
  | behind {looped : Bool} {part : Part} {parts : List Part} {q : Query}
      (closed : part.isUnclosed = false) (later : Asks ctx (looped || part.isBlock) parts q) :
      Asks ctx looped (part :: parts) q

/-- What is found is too long when the segments lead to something that is. -/
theorem overlong_iff {segments : List (List Char)} {root v : Value}
    (finds : Value.Finds segments root v) :
    v.Overlong ↔ ∃ target, Value.Leads target segments root ∧ target.Overlong := by
  constructor
  · intro overlong
    exact ⟨v, (finds v overlong.ne_null).mp rfl, overlong⟩
  · rintro ⟨target, leads, overlong⟩
    rw [(finds target overlong.ne_null).mpr leads]
    exact overlong

theorem textless_of_finds {segments : List (List Char)} {root v : Value}
    (finds : Value.Finds segments root v)
    (textless : ∀ target, Value.Leads target segments root → target.contentText? = none) :
    v.contentText? = none := by
  by_cases null : v = .null
  · rw [null]
    rfl
  · exact textless v ((finds v null).mp rfl)

theorem finds_of_lookup {v : Value} (found : ctx.lookup path = .ok v) :
    Value.Finds (segments path) ctx.toMapping v := by
  rw [lookup_eq_reach] at found
  exact (Value.finds_of_reach found).2

/-- A variable has a text or a warning unless it breaks. -/
theorem exists_resolve_iff :
    (∃ w, resolve ctx.lookup path = .ok w) ↔ ¬ ctx.BreaksAsText path := by
  rw [resolve, lookup_eq_reach, Value.exists_reach_bind_iff, BreaksAsText, not_or]
  refine and_congr_right fun free => ?_
  obtain ⟨v, -, finds⟩ := Value.exists_reach free
  rw [finds.forall_iff, Value.exists_textOrWarn_iff, overlong_iff finds]
  rfl

theorem resolve_of_textless (textless : ctx.Textless path) {w : Warned String}
    (resolved : resolve ctx.lookup path = .ok w) : w = ⟨"", [.unresolved path]⟩ := by
  obtain ⟨v, found, written⟩ := bind_eq_ok.mp resolved
  rw [Value.textOrWarn_of_textless (textless_of_finds (finds_of_lookup found) textless)] at written
  exact (Except.ok.inj written).symm

section Items

variable {item : Value}

/-- So has a variable of a loop for an item. -/
theorem exists_resolveIn_iff :
    (∃ w, resolveIn ctx.lookup item path = .ok w) ↔ ¬ (Query.itemText item path).Breaks ctx := by
  rw [resolveIn_eq]
  show (∃ w, (Value.reach (split '.' path.toList) item >>= _) = .ok w) ↔ _
  rw [Value.exists_reach_bind_iff, Query.Breaks, not_or, not_or]
  refine and_congr_right fun free => ?_
  obtain ⟨v, -, finds⟩ := Value.exists_reach free
  have overlong := overlong_iff finds
  have absent := finds.eq_null_iff
  rw [finds.forall_iff]
  by_cases null : v = .null
  · rw [if_pos null, exists_resolve_iff]
    constructor
    · exact fun fits => ⟨fun long => (overlong.mpr long).ne_null null, fun breaks => fits breaks.2⟩
    · exact fun fits breaks => fits.2 ⟨absent.mp null, breaks⟩
  · rw [if_neg null, Value.exists_textOrWarn_iff]
    constructor
    · exact fun fits => ⟨fun long => fits (overlong.mpr long), fun breaks => null (absent.mpr breaks.1)⟩
    · exact fun fits long => fits.1 (overlong.mp long)

theorem resolveIn_of_textless (textless : ctx.TextlessFor item path) {w : Warned String}
    (resolved : resolveIn ctx.lookup item path = .ok w) : w = ⟨"", [.unresolved path]⟩ := by
  rw [resolveIn_eq] at resolved
  obtain ⟨v, found, written⟩ := bind_eq_ok.mp resolved
  obtain ⟨-, finds⟩ := Value.finds_of_reach found
  by_cases null : v = .null
  · rw [if_pos null] at written
    refine resolve_of_textless (textless.2.resolve_left ?_) written
    rintro ⟨target, leads, present⟩
    exact present (finds.eq_null_iff.mp null target leads)
  · rw [if_neg null, Value.textOrWarn_of_textless (textless_of_finds finds textless.1)] at written
    exact (Except.ok.inj written).symm

theorem exists_piece_iff {number : Nat} {part : Part} :
    (∃ piece, Row.ofPart ctx.lookup number item part = .ok piece) ↔
      ∀ t, Part.single t = part → t.kind = .variable → ¬ (Query.itemText item t.value).Breaks ctx := by
  cases part with
  | single t =>
    have only {p : Token → Prop} : (∀ u, Part.single u = .single t → p u) ↔ p t :=
      ⟨fun each => each t rfl, fun here u same => Part.single.inj same ▸ here⟩
    rw [only, Row.ofPart, ← exists_resolveIn_iff]
    split
    · next kind =>
      constructor
      · rintro ⟨piece, given⟩ -
        obtain ⟨w, resolved, -⟩ := map_eq_ok.mp given
        exact ⟨w, resolved⟩
      · intro whole
        obtain ⟨w, resolved⟩ := whole kind
        exact ⟨_, map_eq_ok.mpr ⟨w, resolved, rfl⟩⟩
    · next kind =>
      refine iff_of_true ⟨_, rfl⟩ fun isVariable => ?_
      rw [kind] at isVariable
      cases isVariable
    · next notVariable _ => exact iff_of_true ⟨_, rfl⟩ fun isVariable => absurd isVariable notVariable
  | stray t | unclosed t | block opener body closer =>
    refine iff_of_true ⟨_, rfl⟩ fun u same => ?_
    cases same

/-- A row is made unless one of the variables of the body breaks for the item. The induction is on the
parts of the body. -/
theorem exists_row_iff {number : Nat} {parts : List Part} :
    (∃ row, Row.ofParts ctx.lookup number item parts = .ok row) ↔
      ∀ t, Part.single t ∈ parts → t.kind = .variable → ¬ (Query.itemText item t.value).Breaks ctx := by
  induction parts with
  | nil => exact iff_of_true ⟨_, rfl⟩ nofun
  | cons part parts ih =>
    rw [Row.ofParts, exists_both_eq_ok, exists_piece_iff, ih]
    constructor
    · rintro ⟨here, later⟩ t member
      rcases List.mem_cons.mp member with same | member
      · exact here t same
      · exact later t member
    · intro each
      exact ⟨fun t same => each t (List.mem_cons.mpr (.inl same)),
        fun t member => each t (List.mem_cons_of_mem _ member)⟩

/-- Rows are made unless one of the items has none. -/
theorem exists_rows_iff {body : List Part} {number : Nat} {items : List Value} :
    (∃ made, Row.ofItems ctx.lookup body number items = .ok made) ↔
      ∀ item ∈ items, ∀ t, Part.single t ∈ body → t.kind = .variable →
        ¬ (Query.itemText item t.value).Breaks ctx := by
  induction items generalizing number with
  | nil => exact iff_of_true ⟨_, rfl⟩ nofun
  | cons item items ih =>
    rw [Row.ofItems, exists_both_eq_ok, exists_row_iff, ih, List.forall_mem_cons]

/-- A loop is expanded unless its path breaks, or a variable of its body for an item of its list. -/
theorem exists_loopRows_iff {body : List Token} :
    (∃ made, loopRows ctx.lookup path body = .ok made) ↔ ¬ ctx.Breaks path ∧
      ∀ items, ctx.LeadsTo path (.list items) ∨ ctx.LeadsTo path (.tuple items) →
        ∀ item ∈ items, ∀ t, Part.single t ∈ Part.ofTokens body → t.kind = .variable →
          ¬ (Query.itemText item t.value).Breaks ctx := by
  rw [loopRows, lookup_eq_reach, Value.exists_reach_bind_iff]
  refine and_congr_right fun free => ?_
  obtain ⟨v, -, finds⟩ := Value.exists_reach free
  have lists (items : List Value) :
      ctx.LeadsTo path (.list items) ∨ ctx.LeadsTo path (.tuple items) ↔
        v = .list items ∨ v = .tuple items := by
    rw [finds (.list items) (by simp), finds (.tuple items) (by simp), LeadsTo, LeadsTo]
  rw [finds.forall_iff]
  simp only [lists]
  cases v with
  | list items =>
    refine exists_rows_iff.trans ⟨fun each others same => ?_, fun each => each items (.inl rfl)⟩
    rcases same with same | same <;> cases same
    exact each
  | tuple items =>
    refine exists_rows_iff.trans ⟨fun each others same => ?_, fun each => each items (.inr rfl)⟩
    rcases same with same | same <;> cases same
    exact each
  | _ => exact iff_of_true ⟨_, rfl⟩ fun items same => by rcases same with same | same <;> cases same

end Items

namespace Asks

variable {looped : Bool} {parts : List Part} {q : Query} {opener closer : Token} {body : List Token}

theorem single_iff {t : Token} : Asks ctx looped (.single t :: parts) q ↔
    (t.kind = .variable ∧ q = .text t.value) ∨ Asks ctx looped parts q := by
  have plain : (looped || (Part.single t).isBlock) = looped := Bool.or_false looped
  constructor
  · intro asks
    cases asks with
    | text kind => exact .inl ⟨kind, rfl⟩
    | behind closed later =>
      rw [plain] at later
      exact .inr later
  · rintro (⟨kind, rfl⟩ | later)
    · exact .text kind
    · rw [← plain] at later
      exact .behind rfl later

theorem stray_iff {t : Token} : Asks ctx looped (.stray t :: parts) q ↔ Asks ctx looped parts q := by
  have plain : (looped || (Part.stray t).isBlock) = looped := Bool.or_false looped
  constructor
  · intro asks
    cases asks with
    | behind closed later =>
      rw [plain] at later
      exact later
  · intro later
    rw [← plain] at later
    exact .behind rfl later

theorem not_unclosed {t : Token} : ¬ Asks ctx looped (.unclosed t :: parts) q := by
  intro asks
  cases asks with
  | behind closed later => cases closed

/-- A further loop asks for nothing. -/
theorem further_iff :
    Asks ctx true (.block opener body closer :: parts) q ↔ Asks ctx true parts q := by
  constructor
  · intro asks
    cases asks with
    | behind closed later => exact later
  · exact fun later => .behind rfl later

/-- The first loop asks for its list, and for the variables of its body for each item. -/
theorem block_iff : Asks ctx false (.block opener body closer :: parts) q ↔
    q = .list opener.value ∨
      (∃ items, (ctx.LeadsTo opener.value (.list items) ∨ ctx.LeadsTo opener.value (.tuple items)) ∧
        ∃ item ∈ items, ∃ t, Part.single t ∈ Part.ofTokens body ∧ t.kind = .variable ∧
          q = .itemText item t.value) ∨
      Asks ctx true parts q := by
  constructor
  · intro asks
    cases asks with
    | list => exact .inl rfl
    | itemText leads member inside kind =>
      exact .inr (.inl ⟨_, leads, _, member, _, inside, kind, rfl⟩)
    | behind closed later => exact .inr (.inr later)
  · rintro (rfl | ⟨items, leads, item, member, t, inside, kind, rfl⟩ | later)
    · exact .list
    · exact .itemText leads member inside kind
    · exact .behind rfl later

end Asks

/-- A draft is made unless something that the parts ask for breaks. The induction is on the parts; behind
a block that is expanded, further ones ask for nothing. -/
theorem exists_draft_iff {looped : Bool} {parts : List Part} :
    (∃ d, Draft.ofParts ctx.lookup looped parts = .ok d) ↔
      ∀ q, Asks ctx looped parts q → ¬ q.Breaks ctx := by
  induction parts generalizing looped with
  | nil => exact iff_of_true ⟨_, rfl⟩ nofun
  | cons part parts ih =>
    cases part with
    | single t =>
      simp only [Asks.single_iff, or_imp, forall_and, ← ih]
      rw [Draft.ofParts]
      split
      · next kind =>
        rw [exists_bind_eq_ok]
        simp only [Draft.exists_prepend_iff, exists_and_right, exists_resolve_iff, kind, true_and,
          forall_eq]
        rfl
      · next kind =>
        rw [Draft.exists_prepend_iff]
        simp [kind]
      · next notVariable _ =>
        have other : t.kind ≠ .variable := notVariable
        rw [Draft.exists_prepend_iff]
        simp [other]
    | stray t =>
      simp only [Asks.stray_iff, ← ih]
      exact Draft.exists_prepend_iff
    | unclosed t => exact iff_of_true ⟨_, rfl⟩ fun q asks => absurd asks Asks.not_unclosed
    | block opener body closer =>
      cases looped with
      | true =>
        simp only [Asks.further_iff, ← ih]
        exact Draft.exists_prepend_iff
      | false =>
        rw [Draft.ofParts, if_neg Bool.false_ne_true]
        simp only [Asks.block_iff, or_imp, forall_and, forall_eq, ← ih]
        rw [exists_both_eq_ok, exists_loopRows_iff, and_assoc]
        refine and_congr Iff.rfl (and_congr ?_ Iff.rfl)
        constructor
        · rintro each q ⟨items, leads, item, member, t, inside, kind, rfl⟩
          exact each items leads item member t inside kind
        · intro each items leads item member t inside kind
          exact each _ ⟨items, leads, item, member, t, inside, kind, rfl⟩

/-- A loop over a list that is missing has no rows. -/
theorem loopRows_of_missing {body : List Token} (missing : ∀ v, ctx.LeadsTo path v → v = .null)
    {made : Warned (List Row)} (given : loopRows ctx.lookup path body = .ok made) :
    made = ⟨[], [.unresolved path]⟩ := by
  obtain ⟨v, found, given⟩ := bind_eq_ok.mp given
  obtain rfl := (finds_of_lookup found).eq_null_iff.mpr missing
  cases given
  rfl

/-- A loop over a list has the rows of its items. -/
theorem ofItems_of_loopRows {body : List Token} {items : List Value}
    (leads : ctx.LeadsTo path (.list items) ∨ ctx.LeadsTo path (.tuple items))
    {made : Warned (List Row)} (given : loopRows ctx.lookup path body = .ok made) :
    Row.ofItems ctx.lookup (Part.ofTokens body) 1 items = .ok made := by
  obtain ⟨v, found, given⟩ := bind_eq_ok.mp given
  have finds := finds_of_lookup found
  rcases leads with leads | leads
  · rw [(finds (.list items) nofun).mpr leads] at given
    exact given
  · rw [(finds (.tuple items) nofun).mpr leads] at given
    exact given

section Plain

/-- A path without misleading segments. -/
def Plain (path : String) : Prop := ∀ segment ∈ split '.' path.toList, ¬ Value.Misleading segment

variable (written : ctx.toMapping.isWritable = true)

theorem not_breaks_of_plain (plain : Plain path) : ¬ ctx.Breaks path := by
  intro breaks
  obtain ⟨segment, member, misleading⟩ := Value.exists_misleading_of_stuck breaks
  exact plain segment (mem_split_of_mem_segments member) misleading

include written

theorem not_breaksAsText_of_plain (plain : Plain path) : ¬ ctx.BreaksAsText path := by
  rintro (breaks | ⟨v, leads, -, long⟩)
  · exact not_breaks_of_plain plain breaks
  · rw [Value.Leads.isWritable leads written] at long
    cases long

/-- In data that can be written out, no plain path breaks. -/
theorem not_breaks_of_asks {looped : Bool} {parts : List Part} {q : Query}
    (asks : Asks ctx looped parts q) (plain : ∀ t ∈ parts.flatMap Part.tokens, Plain t.value) :
    ¬ q.Breaks ctx := by
  induction asks with
  | text kind => exact not_breaksAsText_of_plain written (plain _ (by simp [Part.tokens]))
  | list => exact not_breaks_of_plain (plain _ (by simp [Part.tokens]))
  | @itemText opener closer body parts items item t leads member inside kind =>
    have mine : Plain t.value := by
      refine plain t ?_
      have inBody : t ∈ body := Part.mem_of_mem_tokens inside List.mem_cons_self
      simp [Part.tokens, inBody]
    have itemWritten : item.isWritable = true := by
      rcases leads with leads | leads
      · exact Value.isWritable_of_mem_items (Value.Leads.isWritable leads written) member
      · exact Value.isWritable_of_mem_items (Value.Leads.isWritable leads written) member
    rintro (breaks | ⟨v, leads, -, long⟩ | ⟨-, breaks⟩)
    · obtain ⟨segment, member, misleading⟩ := Value.exists_misleading_of_stuck breaks
      exact mine segment member misleading
    · rw [Value.Leads.isWritable leads itemWritten] at long
      cases long
    · exact not_breaksAsText_of_plain written mine breaks
  | behind closed later ih =>
    refine ih fun t member => plain t ?_
    rw [List.flatMap_cons]
    exact List.mem_append_right _ member

end Plain

open Draft (Between)

/-- What expanding a content string with the data of an invoice comes to. -/
structure Interpolation (ctx : Context) (content : String) : Prop where
  /-- There is an expansion exactly when nothing breaks that the data is asked for. -/
  expands : (∃ e, Expansion.ofContent ctx.lookup content = .ok e) ↔
    ∀ q, Asks ctx false (Part.ofContent content) q → ¬ q.Breaks ctx
  /-- Nothing breaks when all integers can be written out and no path has a misleading segment. -/
  plain : ctx.toMapping.isWritable = true → (∀ t ∈ Token.scan content, Plain t.value) →
    ∃ e, Expansion.ofContent ctx.lookup content = .ok e
  /-- A variable whose path leads to no text contributes none, and a warning that names the path. -/
  texts : ∀ {e : Expansion} {before after : List Part} {t : Token},
    Expansion.ofContent ctx.lookup content = .ok e →
    Part.ofContent content = before ++ .single t :: after → (∀ u, Part.unclosed u ∉ before) →
    t.kind = .variable → ctx.Textless t.value →
    Between ctx.lookup before (.single t) after { warnings := [.unresolved t.value] } e ∧
      .unresolved t.value ∈ e.warnings
  /-- So does a loop over a list that is missing. -/
  missing : ∀ {e : Expansion} {before after : List Part} {opener closer : Token} {body : List Token},
    Expansion.ofContent ctx.lookup content = .ok e →
    Part.ofContent content = before ++ .block opener body closer :: after →
    (∀ u, Part.unclosed u ∉ before) → before.any Part.isBlock = false →
    (∀ v, ctx.LeadsTo opener.value v → v = .null) →
    Between ctx.lookup before (.block opener body closer) after
      { warnings := [.unresolved opener.value], hasLoop := true } e ∧
      .unresolved opener.value ∈ e.warnings
  /-- A loop over a list contributes a row for each item, in their order. -/
  rows : ∀ {e : Expansion} {before after : List Part} {opener closer : Token} {body : List Token}
    {items : List Value},
    Expansion.ofContent ctx.lookup content = .ok e →
    Part.ofContent content = before ++ .block opener body closer :: after →
    (∀ u, Part.unclosed u ∉ before) → before.any Part.isBlock = false →
    ctx.LeadsTo opener.value (.list items) ∨ ctx.LeadsTo opener.value (.tuple items) →
    ∃ rows, List.Forall₂ (fun p row =>
        Row.ofParts ctx.lookup p.2 p.1 (Part.ofTokens body) = .ok row) (items.zipIdx 1) rows ∧
      Between ctx.lookup before (.block opener body closer) after
        { text := String.join (rows.map (·.made.text)), rows := rows.map (·.made),
          warnings := rows.flatMap (·.warnings), hasLoop := true } e
  /-- In a row, a variable whose path leads to no text for the item contributes none and that warning. -/
  itemTexts : ∀ {number : Nat} {item : Value} {before after : List Part} {t : Token}
    {row : Warned Row}, Row.ofParts ctx.lookup number item (before ++ .single t :: after) = .ok row →
    t.kind = .variable → ctx.TextlessFor item t.value →
    ∃ front back, Row.ofParts ctx.lookup number item before = .ok front ∧
      Row.ofParts ctx.lookup number item after = .ok back ∧
      row = ⟨front.made ++ .filled "" :: back.made,
        front.warnings ++ .unresolved t.value :: back.warnings⟩
  /-- Further loops stay as they are. -/
  further : ∀ {e : Expansion} {before after : List Part} {opener closer : Token} {body : List Token},
    Expansion.ofContent ctx.lookup content = .ok e →
    Part.ofContent content = before ++ .block opener body closer :: after →
    (∀ u, Part.unclosed u ∉ before) → before.any Part.isBlock = true →
    Between ctx.lookup before (.block opener body closer) after
      { text := (Part.block opener body closer).raw, warnings := [.ignoredLoop opener.value] } e
  /-- So does all behind a loop that is not closed. -/
  unclosed : ∀ {e : Expansion} {before after : List Part} {opener : Token},
    Expansion.ofContent ctx.lookup content = .ok e →
    Part.ofContent content = before ++ .unclosed opener :: after → (∀ u, Part.unclosed u ∉ before) →
    ∃ front, Draft.ofParts ctx.lookup false before = .ok front ∧
      e = (front.append { text := opener.raw ++ Part.rawText after,
                          warnings := [.unclosedLoop opener.value] }).finish

/-- For all data and every content string, with whatever characters: there is an expansion unless the data
is asked for something that breaks, and in every expansion what leads to no text contributes none, and a
warning. -/
theorem interpolation (ctx : Context) (content : String) : Interpolation ctx content := by
  have expands : (∃ e, Expansion.ofContent ctx.lookup content = .ok e) ↔
      ∀ q, Asks ctx false (Part.ofContent content) q → ¬ q.Breaks ctx := by
    rw [← exists_draft_iff]
    constructor
    · rintro ⟨e, given⟩
      obtain ⟨d, drafted, -⟩ := map_eq_ok.mp given
      exact ⟨d, drafted⟩
    · rintro ⟨d, drafted⟩
      exact ⟨d.finish, map_eq_ok.mpr ⟨d, drafted, rfl⟩⟩
  refine ⟨expands, ?_, ?_, ?_, ?_, ?_, ?_, ?_⟩
  · intro written plain
    refine expands.mpr fun q asks => not_breaks_of_asks written asks ?_
    rw [Part.ofContent, Part.flatMap_tokens_ofTokens]
    exact plain
  · intro e before after t given parts closed kind textless
    obtain ⟨own, made, between⟩ := Draft.exists_between given closed parts rfl
    simp only [Draft.ofParts, kind] at made
    obtain ⟨w, resolved, made⟩ := bind_eq_ok.mp made
    obtain rfl := resolve_of_textless textless resolved
    cases made
    exact ⟨between, between.mem_warnings List.mem_cons_self⟩
  · intro e before after opener closer body given parts closed first missing
    obtain ⟨own, made, between⟩ := Draft.exists_between given closed parts rfl
    rw [first] at made
    obtain ⟨w, rows, rfl⟩ := Draft.exists_of_block made
    rw [loopRows_of_missing missing rows] at between
    exact ⟨between, between.mem_warnings List.mem_cons_self⟩
  · intro e before after opener closer body items given parts closed first leads
    obtain ⟨own, made, between⟩ := Draft.exists_between given closed parts rfl
    rw [first] at made
    obtain ⟨w, given, rfl⟩ := Draft.exists_of_block made
    obtain ⟨rows, each, rfl⟩ := Row.forall₂_of_ofItems (ofItems_of_loopRows leads given)
    refine ⟨rows, each, ?_⟩
    rw [List.map_map] at between
    exact between
  · intro number item before after t row given kind textless
    obtain ⟨front, own, back, inFront, made, behind, rfl⟩ := Row.ofParts_between given
    simp only [Row.ofPart, kind] at made
    obtain ⟨w, resolved, rfl⟩ := map_eq_ok.mp made
    obtain rfl := resolveIn_of_textless textless resolved
    exact ⟨front, back, inFront, behind, rfl⟩
  · intro e before after opener closer body given parts closed again
    obtain ⟨own, made, between⟩ := Draft.exists_between given closed parts rfl
    rw [again] at made
    cases made
    rw [Draft.prepend, String.append_empty, List.append_nil] at between
    exact between
  · intro e before after opener given parts closed
    exact Draft.text_of_unclosed given closed parts

/-- A path that leads nowhere, in data with one product. -/
example :
    Expansion.ofContent (Context.lookup { order := [("products", .list [.int 1])] })
      "a\x7b\x7border.products.1\x7d\x7db" =
      .ok ⟨"ab", [], [], [.unresolved "order.products.1"], false⟩ := by decide

/-- A superscript digit leads nowhere either, but it is a misleading segment: there is no expansion, and so
no warning. -/
theorem superscript_breaks :
    let ctx : Context := { order := [("products", .list [.int 1])] }
    (∀ v, ¬ ctx.LeadsTo "order.products.²" v) ∧
      Expansion.ofContent ctx.lookup "\x7b\x7border.products.²\x7d\x7d" = .error (.notDecimal "²") := by
  intro ctx
  refine ⟨fun v leads => ?_, by decide⟩
  have divided : segments "order.products.²" =
      ["order".toList, "products".toList, ['²']] := by decide
  rw [LeadsTo, divided] at leads
  obtain ⟨-, order, atOrder, -, products, atProducts, -, item, atItem, -⟩ := leads
  obtain rfl : .mapping ctx.order = order :=
    Option.some.inj ((show Entries.get? "order" _ = _ by decide).symm.trans atOrder)
  obtain rfl : .list [.int 1] = products :=
    Option.some.inj ((show Entries.get? "products" _ = _ by decide).symm.trans atProducts)
  obtain ⟨ds, digits, -⟩ := atItem
  obtain ⟨d, rest, digit, -⟩ := List.forall₂_cons_left_iff.mp digits
  have none : decimalValue? '²' = none := by decide
  rw [none] at digit
  cases digit

end Context

end InvoiceForms
