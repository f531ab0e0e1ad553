import InvoiceForms.Proofs.Content.FirstLoop
import InvoiceForms.Proofs.Content.Lookups
import InvoiceForms.Proofs.Content.Structure
import InvoiceForms.Proofs.Record.Records

/-!
# Contexts and plain data

The data of an invoice can be looked at as a context or as one mapping from categories. Both find the same
at every path but those of a category with a point behind it, and of a category that the mapping lacks:
there a context finds a whole category where the mapping has nothing. In a content string this shows at
one place only, the path of the loop that is expanded.
-/

namespace InvoiceForms

open InvoiceForms.Record InvoiceForms.Results InvoiceForms.Text

section Runs

variable {lookup lookup' : Lookup}

/-- Two ways to look paths up that find the same, or one of them a mapping and the other one nothing. -/
def MappingForNull (lookup lookup' : Lookup) : Prop :=
  ∀ path, lookup path = lookup' path ∨
    (∃ entries, lookup path = .ok (.mapping entries)) ∧ lookup' path = .ok .null

section Resolve

variable (differ : MappingForNull lookup lookup')

include differ

/-- Neither a mapping nor null has a text. -/
theorem resolve_congr (path : String) : resolve lookup path = resolve lookup' path := by
  rcases differ path with same | ⟨⟨entries, found⟩, nothing⟩
  · rw [resolve, resolve, same]
  · rw [resolve, resolve, found, nothing]
    rfl

theorem resolveIn_congr (item : Value) (path : String) :
    resolveIn lookup item path = resolveIn lookup' item path := by
  rw [resolveIn_eq, resolveIn_eq, resolve_congr differ]

namespace Row

theorem ofParts_congr (number : Nat) (item : Value) (parts : List Part) :
    ofParts lookup number item parts = ofParts lookup' number item parts := by
  have piece (part : Part) : ofPart lookup number item part = ofPart lookup' number item part := by
    cases part with
    | single t => rw [ofPart, ofPart, resolveIn_congr differ]
    | stray t | unclosed t | block opener body closer => rfl
  induction parts with
  | nil => rfl
  | cons part parts ih => rw [ofParts, ofParts, piece, ih]

theorem ofItems_congr (body : List Part) (number : Nat) (items : List Value) :
    ofItems lookup body number items = ofItems lookup' body number items := by
  induction items generalizing number with
  | nil => rfl
  | cons item items ih => rw [ofItems, ofItems, ofParts_congr differ, ih]

end Row

/-- A loop has the same rows for both, or no rows and another warning for each of them. -/
theorem loopRows_cases (path : String) (body : List Token) :
    (lookup path = lookup' path ∧ loopRows lookup path body = loopRows lookup' path body) ∨
      (lookup path ≠ lookup' path ∧ loopRows lookup path body = .ok ⟨[], [.invalidLoopTarget path]⟩ ∧
        loopRows lookup' path body = .ok ⟨[], [.unresolved path]⟩) := by
  rcases differ path with same | ⟨⟨entries, found⟩, nothing⟩
  · refine .inl ⟨same, ?_⟩
    rw [loopRows, loopRows, same]
    have items (items : List Value) : Row.ofItems lookup (Part.ofTokens body) 1 items =
        Row.ofItems lookup' (Part.ofTokens body) 1 items := Row.ofItems_congr differ _ 1 items
    simp only [items]
  · refine .inr ⟨?_, ?_, ?_⟩
    · rw [found, nothing]
      intro same
      cases same
    · rw [loopRows, found]
      rfl
    · rw [loopRows, nothing]
      rfl

end Resolve

/-- Whether the path of the loop that is expanded is found alike. -/
def LoopAlike (lookup lookup' : Lookup) (ts : List Token) : Prop :=
  ∀ before opener body closer after, FirstLoop ts before opener body closer after →
    lookup opener.value = lookup' opener.value

namespace Draft

/-- Drafts that are the same but for their warnings. -/
def SameButWarnings (d d' : Draft) : Prop := { d with warnings := d'.warnings } = d'

theorem SameButWarnings.refl (d : Draft) : d.SameButWarnings d := rfl

theorem SameButWarnings.prepend {d d' : Draft} (same : d.SameButWarnings d') (text : String)
    (warnings : List Warning) : (d.prepend text warnings).SameButWarnings (d'.prepend text warnings) := by
  unfold SameButWarnings at same ⊢
  rw [← same]
  rfl

variable (differ : MappingForNull lookup lookup')

include differ

/-- Behind a loop no path of a loop is looked up any more. -/
theorem ofParts_looped_congr (parts : List Part) :
    ofParts lookup true parts = ofParts lookup' true parts := by
  induction parts with
  | nil => rfl
  | cons part parts ih =>
    cases part with
    | single t => rw [ofParts, ofParts, resolve_congr differ, ih]
    | stray t => rw [ofParts, ofParts, ih]
    | unclosed t => rfl
    | block opener body closer => rw [ofParts, ofParts, ih, if_pos rfl, if_pos rfl]

/-- Both drafts fail for the same reason, or are the same but for the warnings. -/
theorem ofParts_sameButWarnings (parts : List Part) :
    Agree SameButWarnings (ofParts lookup false parts) (ofParts lookup' false parts) := by
  induction parts with
  | nil => exact .result (.refl _)
  | cons part parts ih =>
    have behind (text : String) (warnings : List Warning) :
        Agree SameButWarnings (do return (← ofParts lookup false parts).prepend text warnings)
          (do return (← ofParts lookup' false parts).prepend text warnings) :=
      ih.bind fun _ _ rest => .result (rest.prepend text warnings)
    cases part with
    | single t =>
      rw [ofParts, ofParts, resolve_congr differ]
      split
      · cases resolve lookup' t.value with
        | error e => exact .fault e
        | ok w => exact behind _ _
      · exact behind _ _
      · exact behind _ _
    | stray t => exact behind _ _
    | unclosed t => exact .result (.refl _)
    | block opener body closer =>
      rw [ofParts, ofParts, if_neg Bool.false_ne_true, if_neg Bool.false_ne_true,
        ofParts_looped_congr differ]
      rcases loopRows_cases differ opener.value body with ⟨-, same⟩ | ⟨-, rows, rows'⟩
      · rw [same]
        cases loopRows lookup' opener.value body with
        | error e => exact .fault e
        | ok w =>
          cases ofParts lookup' true parts with
          | error e => exact .fault e
          | ok rest => exact .result (.refl _)
      · rw [rows, rows']
        cases ofParts lookup' true parts with
        | error e => exact .fault e
        | ok rest => exact .result rfl

/-- Where the first loop is found alike, all is drafted alike. The induction is on the calls of `group`. -/
theorem ofParts_congr {fuel : Nat} {ts : List Token} (alike : LoopAlike lookup lookup' ts) :
    ofParts lookup false (Part.group fuel ts) = ofParts lookup' false (Part.group fuel ts) := by
  fun_induction Part.group fuel ts with
  | case1 | case2 => rfl
  | case3 fuel t ts kind body closer rest taken ih =>
    obtain ⟨inside, closes⟩ := Part.closes_of_takeBlock taken
    obtain rfl := Part.eq_append_of_takeBlock taken
    have found := alike [] t body closer rest ⟨rfl, by simp, kind, inside, closes⟩
    rw [ofParts, ofParts, if_neg Bool.false_ne_true, if_neg Bool.false_ne_true,
      ofParts_looped_congr differ]
    rcases loopRows_cases differ t.value body with ⟨-, same⟩ | ⟨other, -⟩
    · rw [same]
    · exact absurd found other
  | case4 fuel t ts kind taken ih => rfl
  | case5 fuel t ts kind ih =>
    have later : LoopAlike lookup lookup' ts := fun before opener body closer after loop =>
      alike _ opener body closer after (loop.cons (by simp [kind]))
    rw [ofParts, ofParts, ih later]
  | case6 fuel t ts notOpener notCloser ih =>
    have later : LoopAlike lookup lookup' ts := fun before opener body closer after loop =>
      alike _ opener body closer after (loop.cons notOpener)
    rw [ofParts, ofParts, resolve_congr differ, ih later]

omit differ in
/-- Only a loop that is expanded can be over something that is no list. -/
theorem code_ne_of_no_loop {looped : Bool} {parts : List Part} {d : Draft}
    (given : ofParts lookup looped parts = .ok d)
    (idle : looped = true ∨ parts.any Part.isBlock = false) {w : Warning} (member : w ∈ d.warnings) :
    w.code ≠ "invalid_loop_target" := by
  induction parts generalizing d with
  | nil =>
    cases given
    cases member
  | cons part parts ih =>
    have idle' : looped = true ∨ parts.any Part.isBlock = false := by
      refine idle.imp id fun none => ?_
      rw [List.any_cons, Bool.or_eq_false_iff] at none
      exact none.2
    have behind {text : String} {warnings : List Warning}
        (others : ∀ v ∈ warnings, v.code ≠ "invalid_loop_target")
        (given : (do return (← ofParts lookup looped parts).prepend text warnings) = .ok d) :
        w.code ≠ "invalid_loop_target" := by
      obtain ⟨rest, tail, rfl⟩ := exists_of_prepend given
      rcases List.mem_append.mp member with here | later
      · exact others w here
      · exact ih tail idle' later
    cases part with
    | single t =>
      rw [ofParts] at given
      split at given
      · obtain ⟨made, resolved, given⟩ := bind_eq_ok.mp given
        refine behind (fun v inside => ?_) given
        obtain ⟨value, -, written⟩ := bind_eq_ok.mp resolved
        unfold textOrWarn at written
        split at written
        · split at written
          · cases written
            cases inside
          · cases written
        · cases written
          obtain rfl := List.mem_singleton.mp inside
          simp [Warning.unresolved]
      · exact behind (by simp [Warning.unresolved]) given
      · exact behind (by simp) given
    | stray t => exact behind (by simp [Warning.strayCloser]) given
    | unclosed t =>
      cases given
      obtain rfl := List.mem_singleton.mp member
      simp [Warning.unclosedLoop]
    | block opener body closer =>
      obtain rfl : looped = true := by
        refine idle.resolve_right fun none => ?_
        cases none
      exact behind (by simp [Warning.ignoredLoop]) given

end Draft

namespace Expansion

/-- Expansions that are the same but for their warnings. -/
def SameButWarnings (e e' : Expansion) : Prop := { e with warnings := e'.warnings } = e'

variable (differ : MappingForNull lookup lookup') (content : String)

include differ

theorem ofContent_sameButWarnings :
    Agree SameButWarnings (ofContent lookup content) (ofContent lookup' content) := by
  refine (Draft.ofParts_sameButWarnings differ (Part.ofContent content)).map fun d d' same => ?_
  unfold Draft.SameButWarnings at same
  unfold SameButWarnings
  rw [← same]
  rfl

/-- Expansions are the same when there is none, or the loop that is expanded is found alike: otherwise one
of them says that its target is no list, which nothing else in the other one says. -/
theorem ofContent_congr_iff :
    ofContent lookup content = ofContent lookup' content ↔
      (∃ e, ofContent lookup content = .error e) ∨ LoopAlike lookup lookup' (Token.scan content) := by
  constructor
  · intro same
    rcases given : ofContent lookup content with e | e
    · exact .inl ⟨e, rfl⟩
    · refine .inr fun before opener body closer after loop => ?_
      by_contra other
      obtain ⟨-, rows, rows'⟩ := (loopRows_cases differ opener.value body).resolve_left
        fun alike => other alike.1
      have parts : Part.ofContent content = _ := loop.ofTokens_eq
      have first := Part.any_isBlock_map_ofToken before
      obtain ⟨own, made, between⟩ := Draft.exists_between given Part.not_unclosed_mem_map_ofToken parts rfl
      obtain ⟨own', made', between'⟩ :=
        Draft.exists_between (same.symm.trans given) Part.not_unclosed_mem_map_ofToken parts rfl
      rw [first] at made made'
      obtain ⟨w, taken, rfl⟩ := Draft.exists_of_block made
      obtain ⟨w', taken', rfl⟩ := Draft.exists_of_block made'
      cases rows.symm.trans taken
      cases rows'.symm.trans taken'
      obtain ⟨front, back, inFront, behind, rfl⟩ := between'
      have said := between.mem_warnings List.mem_cons_self
      simp only [Draft.finish, mem_distinct, Draft.append, List.mem_append] at said
      rcases said.1 with here | here | here
      · exact Draft.code_ne_of_no_loop inFront (.inr first) here rfl
      · have codes := congrArg Warning.code (List.mem_singleton.mp here)
        simp [Warning.invalidLoopTarget, Warning.unresolved] at codes
      · exact Draft.code_ne_of_no_loop behind (.inl (by simp [Part.isBlock])) here rfl
  · rintro (⟨e, failed⟩ | alike)
    · have both := ofContent_sameButWarnings differ content
      rw [failed] at both ⊢
      generalize ofContent lookup' content = other at both
      cases both
      rfl
    · exact congrArg (·.map Draft.finish) (Draft.ofParts_congr differ alike)

end Expansion

end Runs

namespace Context

/-- The names of the categories. -/
def categories : List String := schema.fields.map (·.key)

/-- Data by categories, as one mapping. -/
def wholeOf (m : Entries (Entries Value)) : Value := .mapping (m.mapValues .mapping)

/-- Data by categories, as a context. A category without data is empty. -/
def ofCategories (m : Entries (Entries Value)) : Context where
  company := (m.get? "company").getD []
  customer := (m.get? "customer").getD []
  invoice := (m.get? "invoice").getD []
  order := (m.get? "order").getD []
  totals := (m.get? "totals").getD []
  legal := (m.get? "legal").getD []

/-- A path at which a context finds a category where the mapping has nothing: that of a category with a
point behind it, or of one that the mapping lacks. -/
def Disputed (m : Entries (Entries Value)) (path : String) : Prop :=
  ∃ category ∈ categories, path = category ++ "." ∨ path = category ∧ category ∉ Entries.keys m

variable {m : Entries (Entries Value)} {path : String}

/-- A category reads its data, if there is any. -/
theorem readField_category (key : String) (get : Context → Entries Value)
    (put : Entries Value → Context → Context) (r : Context) (lens : put (get r) r = r) :
    Schema.readField (m.mapValues .mapping) (.optional key key .data get put) r =
      .ok (put ((m.get? key).getD (get r)) r, []) := by
  have source : (RecordField.optional key key .data get put).source (m.mapValues .mapping) =
      (m.get? key).map fun data => (key, .mapping data) := by
    simp only [RecordField.source, RecordField.optional, RecordField.make, Entries.get?_mapValues]
    cases m.get? key <;> rfl
  rw [Schema.readField, source]
  cases m.get? key with
  | none => rw [Option.getD_none, lens]; rfl
  | some data => rfl

/-- Data under the names of categories makes a context. -/
theorem validate_wholeOf (known : ∀ key ∈ Entries.keys m, key ∈ categories) :
    schema.validate (wholeOf m) = .ok (ofCategories m) := by
  have fields : Schema.readFields (m.mapValues .mapping) schema.fields {} = .ok (ofCategories m, []) := by
    simp only [schema, Schema.readFields, readField_category, bind, Except.bind]
    rfl
  have nothing : schema.leftover (m.mapValues .mapping) = [] := by
    refine Schema.leftover_of_known fun key member => ?_
    rw [Entries.keys_mapValues] at member
    exact known key member
  refine mapError_eq_ok.mpr (Schema.readEntries_eq_ok.mpr ⟨ofCategories m, fields, ?_, rfl⟩)
  show (_, List.map _ (schema.leftover (m.mapValues .mapping))) = _
  rw [nothing]
  rfl

theorem mem_categories_iff {category : String} : category ∈ categories ↔
    category = "company" ∨ category = "customer" ∨ category = "invoice" ∨ category = "order" ∨
      category = "totals" ∨ category = "legal" := by
  simp [categories, schema, RecordField.optional, RecordField.make]

theorem ne_nil_of_category {name : List Char} (inside : String.ofList name ∈ categories) : name ≠ [] := by
  rintro rfl
  exact absurd inside (by decide)

theorem category?_ofCategories (m : Entries (Entries Value)) (name : List Char) :
    (ofCategories m).category? name =
      if String.ofList name ∈ categories then some ((m.get? (String.ofList name)).getD []) else none := by
  rw [category?]
  generalize String.ofList name = key
  split
  all_goals simp_all [mem_categories_iff, ofCategories]

/-- In a context a walk goes on in the data of its category. -/
theorem walk?_ofCategories {name : List Char} (inside : String.ofList name ∈ categories)
    (rest : List (List Char)) : Value.walk? (name :: rest) (ofCategories m).toMapping =
      Value.walk? rest (.mapping ((m.get? (String.ofList name)).getD [])) := by
  rw [walk?_toMapping, category?_ofCategories, if_pos inside]
  rfl

/-- In the mapping it does where the mapping has that category. -/
theorem walk?_wholeOf {name : List Char} (inside : String.ofList name ∈ categories)
    (rest : List (List Char)) : Value.walk? (name :: rest) (wholeOf m) =
      (m.get? (String.ofList name)).elim (.ok none) fun data => Value.walk? rest (.mapping data) := by
  rw [Value.walk?, if_neg (ne_nil_of_category inside), wholeOf, Value.select?, Entries.get?_mapValues]
  cases m.get? (String.ofList name) <;> rfl

/-- Neither goes on from what is no category. -/
theorem walk?_of_unknown (known : ∀ key ∈ Entries.keys m, key ∈ categories) {name : List Char}
    (outside : String.ofList name ∉ categories) (rest rest' : List (List Char)) :
    Value.walk? (name :: rest) (ofCategories m).toMapping = .ok none ∧
      Value.walk? (name :: rest') (wholeOf m) = .ok none := by
  have nothing : m.get? (String.ofList name) = none :=
    Entries.get?_eq_none_iff.mpr fun member => outside (known _ member)
  constructor
  · rw [walk?_toMapping, category?_ofCategories, if_neg outside]
    rfl
  · rw [Value.walk?, wholeOf, Value.select?, Entries.get?_mapValues, nothing]
    split <;> rfl

/-- Nothing is behind a category without data. -/
theorem walk?_empty {segments : List (List Char)} (further : segments ≠ []) :
    Value.walk? segments (.mapping []) = .ok none := by
  cases segments with
  | nil => exact absurd rfl further
  | cons segment rest =>
    rw [Value.walk?]
    split <;> rfl

/-- The pieces of the paths at which a category is found. -/
theorem split_of_category {category : String} (known : category ∈ categories) :
    split '.' category.toList = [category.toList] ∧
      split '.' (category ++ ".").toList = [category.toList, []] := by
  have each : ∀ category ∈ categories, split '.' category.toList = [category.toList] ∧
      split '.' (category ++ ".").toList = [category.toList, []] := by decide
  exact each category known

/-- What is disputed shows in the pieces of a path. -/
theorem disputed_of_split {name : List Char} {rest : List (List Char)}
    (divided : split '.' path.toList = name :: rest) (inside : String.ofList name ∈ categories)
    (shape : rest = [[]] ∨ rest = [] ∧ String.ofList name ∉ Entries.keys m) : Disputed m path := by
  have path_eq : path = String.ofList (join '.' (name :: rest)) := by
    rw [← divided, join_split, String.ofList_toList]
  refine ⟨_, inside, ?_⟩
  rcases shape with rfl | ⟨rfl, lacking⟩
  · refine .inl ?_
    rw [path_eq]
    simp [join]
  · exact .inr ⟨path_eq, lacking⟩

theorem lookup_of_disputed (disputed : Disputed m path) :
    (∃ data, (ofCategories m).lookup path = .ok (.mapping data)) ∧
      (wholeOf m).lookup path = .ok .null := by
  have whole : (wholeOf m).lookup path = Value.reach (split '.' path.toList) (wholeOf m) := rfl
  obtain ⟨category, inside, shape⟩ := disputed
  obtain ⟨alone, pointed⟩ := split_of_category inside
  rw [← String.ofList_toList (s := category)] at inside
  rw [whole, lookup_eq_reach]
  rcases shape with rfl | ⟨rfl, lacking⟩
  · rw [segments_of_point pointed, pointed, Value.reach, Value.reach, walk?_ofCategories inside,
      walk?_wholeOf inside]
    refine ⟨⟨_, rfl⟩, ?_⟩
    cases m.get? (String.ofList category.toList) <;> rfl
  · have nothing : m.get? (String.ofList path.toList) = none := by
      rw [String.ofList_toList]
      exact Entries.get?_eq_none_iff.mpr lacking
    rw [segments_of_split alone (by simp), alone, Value.reach, Value.reach, walk?_ofCategories inside,
      walk?_wholeOf inside, nothing]
    exact ⟨⟨_, rfl⟩, rfl⟩

theorem lookup_of_not_disputed (known : ∀ key ∈ Entries.keys m, key ∈ categories)
    (agreed : ¬ Disputed m path) : (ofCategories m).lookup path = (wholeOf m).lookup path := by
  have whole : (wholeOf m).lookup path = Value.reach (split '.' path.toList) (wholeOf m) := rfl
  obtain ⟨name, rest, divided⟩ : ∃ name rest, split '.' path.toList = name :: rest := ⟨_, _, rfl⟩
  rw [whole, lookup_eq_reach, divided, Value.reach, Value.reach]
  by_cases inside : String.ofList name ∈ categories
  · have several (category : List Char) : name :: rest ≠ [category, []] := fun same =>
      agreed (disputed_of_split divided inside (.inl (List.cons.inj same).2))
    rw [segments_of_split divided several, walk?_ofCategories inside, walk?_wholeOf inside]
    cases found : m.get? (String.ofList name) with
    | some data => rfl
    | none =>
      have further : rest ≠ [] := fun alone => agreed (disputed_of_split divided inside
        (.inr ⟨alone, Entries.get?_eq_none_iff.mp found⟩))
      rw [Option.getD_none, walk?_empty further]
      rfl
  · obtain ⟨others, same⟩ : ∃ others, segments path = name :: others := by
      unfold segments
      split
      · next category same => exact ⟨[], by rw [(List.cons.inj (divided.symm.trans same)).1]⟩
      · exact ⟨rest, divided⟩
    obtain ⟨ctxWalk, wholeWalk⟩ := walk?_of_unknown known inside others rest
    rw [same, ctxWalk, wholeWalk]

/-- A context and the mapping differ where a category is found in one of them only. -/
theorem mappingForNull (known : ∀ key ∈ Entries.keys m, key ∈ categories) :
    MappingForNull (ofCategories m).lookup (wholeOf m).lookup := by
  intro path
  by_cases disputed : Disputed m path
  · exact .inr (lookup_of_disputed disputed)
  · exact .inl (lookup_of_not_disputed known disputed)

theorem lookup_eq_iff (known : ∀ key ∈ Entries.keys m, key ∈ categories) (path : String) :
    (ofCategories m).lookup path = (wholeOf m).lookup path ↔ ¬ Disputed m path := by
  refine ⟨fun same disputed => ?_, lookup_of_not_disputed known⟩
  obtain ⟨⟨data, found⟩, nothing⟩ := lookup_of_disputed disputed
  rw [found, nothing] at same
  cases same

/-- For all data under the names of categories, in whatever order and also where categories are missing.
The data makes a context; look-ups in the context and in the data as one mapping give the same, or fail for
the same reason, at every path that is not disputed, and at no other; and every content string has the
same expansion with both, unless the loop that is expanded is over a disputed path. Even then only the
warnings differ. -/
theorem lookups_agree_iff {m : Entries (Entries Value)}
    (known : ∀ key ∈ Entries.keys m, key ∈ categories) :
    ∃ ctx, schema.validate (wholeOf m) = .ok ctx ∧
      (∀ path, ctx.lookup path = (wholeOf m).lookup path ↔ ¬ Disputed m path) ∧
      ∀ content,
        (Expansion.ofContent ctx.lookup content = Expansion.ofContent (wholeOf m).lookup content ↔
          (∃ e, Expansion.ofContent ctx.lookup content = .error e) ∨
            ∀ before opener body closer after,
              FirstLoop (Token.scan content) before opener body closer after →
                ¬ Disputed m opener.value) ∧
        Agree Expansion.SameButWarnings (Expansion.ofContent ctx.lookup content)
          (Expansion.ofContent (wholeOf m).lookup content) := by
  refine ⟨ofCategories m, validate_wholeOf known, lookup_eq_iff known, fun content => ⟨?_, ?_⟩⟩
  · rw [Expansion.ofContent_congr_iff (mappingForNull known)]
    simp only [LoopAlike, lookup_eq_iff known]
  · exact Expansion.ofContent_sameButWarnings (mappingForNull known) content

/-- Data of all categories: no look-up and no content that keeps to paths without a point at their end can
tell the context from the mapping. -/
theorem bouquet_lookups_agree :
    let m : Entries (Entries Value) :=
      [("company", []), ("customer", [("name", .text "Maria")]), ("invoice", []),
        ("order", [("products", .list [.mapping [("name", .text "Rose")]])]), ("totals", []), ("legal", [])]
    (∀ key ∈ Entries.keys m, key ∈ categories) ∧
      ∃ ctx, schema.validate (wholeOf m) = .ok ctx ∧
        ctx.lookup "order.products.0.name" = (wholeOf m).lookup "order.products.0.name" ∧
        ctx.lookup "order" = (wholeOf m).lookup "order" ∧
        ctx.lookup "order." ≠ (wholeOf m).lookup "order." ∧
        Expansion.ofContent ctx.lookup "{{customer.}}{{customer.name}}" =
          Expansion.ofContent (wholeOf m).lookup "{{customer.}}{{customer.name}}" := by
  intro m
  have known : ∀ key ∈ Entries.keys m, key ∈ categories := by decide
  obtain ⟨ctx, made, lookups, contents⟩ := lookups_agree_iff known
  refine ⟨known, ctx, made, (lookups _).mpr ?_, (lookups _).mpr ?_, fun same => (lookups _).mp same ?_,
    (contents _).1.mpr (.inr ?_)⟩
  · unfold Disputed
    decide
  · unfold Disputed
    decide
  · exact ⟨"order", by decide, .inl rfl⟩
  · rintro before opener body closer after loop
    have tokens : Token.scan "{{customer.}}{{customer.name}}" =
        [⟨.variable, "{{customer.}}", "customer."⟩, ⟨.variable, "{{customer.name}}", "customer.name"⟩] := by
      decide
    have inside : opener ∈ Token.scan "{{customer.}}{{customer.name}}" := by
      rw [loop.tokens]
      simp
    rw [tokens] at inside
    have opens := loop.opens
    simp only [List.mem_cons, List.not_mem_nil, or_false] at inside
    rcases inside with rfl | rfl <;> cases opens

/-- With a point behind a category, the loop has the category for a target in a context, and nothing in the
mapping: the warnings differ. -/
theorem pointed_category_contested :
    let m : Entries (Entries Value) :=
      [("company", []), ("customer", []), ("invoice", []), ("order", [("number", .text "O-1")]),
        ("totals", []), ("legal", [])]
    let content := "{{loop:order.}}x{{/loop}}"
    ∃ ctx, schema.validate (wholeOf m) = .ok ctx ∧
      ctx.lookup "order." = .ok (.mapping [("number", .text "O-1")]) ∧
      (wholeOf m).lookup "order." = .ok .null ∧
      Expansion.ofContent ctx.lookup content = .ok ⟨"", [], [], [.invalidLoopTarget "order."], true⟩ ∧
      Expansion.ofContent (wholeOf m).lookup content = .ok ⟨"", [], [], [.unresolved "order."], true⟩ := by
  intro m content
  have known : ∀ key ∈ Entries.keys m, key ∈ categories := by decide
  exact ⟨ofCategories m, validate_wholeOf known, by decide, by decide, by decide,
    by decide⟩

end Context

end InvoiceForms
