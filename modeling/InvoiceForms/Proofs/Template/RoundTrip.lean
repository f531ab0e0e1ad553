import InvoiceForms.Proofs.Template.Documents

/-!
# Reading a template undoes writing it

Whatever data a template was read from, reading its document gives it again: sections, content and
columns in their order, texts and colors in their normal form, and the unknown fields of sections of
unknown type.
-/

namespace InvoiceForms

open InvoiceForms.Record InvoiceForms.Results InvoiceForms.Text

theorem Variant.arrange_written (v : Variant) : v.arrange .written = v := by
  cases v with
  | unsupported type extras =>
    have same : Entries.mapValues (Value.arrange .written) extras = extras :=
      Entries.mapValues_id extras
    rw [arrange, same]
    rfl
  | _ => rfl

theorem Section.arrange_written (s : Section) : s.arrange .written = s := by
  rw [arrange, Variant.arrange_written]
  rfl

namespace Template

theorem arrange_written (t : Template) : t.arrange .written = t := by
  have same : (t.arrange .written).sections = t.sections := by
    rw [sections_arrange]
    show List.map _ (List.map _ _) = _
    rw [List.map_map]
    exact (List.map_congr_left fun s _ => s.arrange_written).trans (List.map_id _)
  exact congrArg (fun sections => { t with sections := sections }) same

/-- The names of the sections that a payload describes. -/
def sectionNames (payload : Entries Json) : List String :=
  payload.flatMap fun e => if e.1 = "sections" then namesOf (Value.ofJson e.2) else []

section Payload

variable {σ : Arrangement} {p : Json → Bool} {payload : Entries Json} {t : Template}

/-- The sections in a payload are data with trimmed names. -/
theorem sections_of_mem_payload (finite : (Json.object payload).isFinite = true)
    (passed : (Json.object payload).everywhere p = true)
    (trimmed : ∀ name ∈ sectionNames payload, trimWhiteSpace name = name) {e : String × Json}
    (member : e ∈ payload) (key : e.1 = "sections") : (Value.ofJson e.2).IsData p ∧
      ∀ name ∈ namesOf (Value.ofJson e.2), trimWhiteSpace name = name := by
  refine ⟨⟨e.2, (Json.everywhere_object.mp finite).2 e member,
    (Json.everywhere_object.mp passed).2 e member, rfl⟩, ?_⟩
  intro name named
  refine trimmed name (List.mem_flatMap.mpr ⟨e, member, ?_⟩)
  rw [if_pos key]
  exact named

/-- A payload that is read with a flag describes a template whose parts come back. -/
theorem accepted_of_ofDocument (lenient : Value.Lenient p) {flag : Bool}
    (finite : (Json.object payload).isFinite = true) (passed : (Json.object payload).everywhere p = true)
    (trimmed : ∀ name ∈ sectionNames payload, trimWhiteSpace name = name)
    (given : ofDocument (Value.ofJson (.object payload)) flag = .ok t) :
    t.Accepted σ p ∧ t.isDefault = flag := by
  have read := Schema.readEntries_of_readPairs (mapError_eq_ok.mp given)
  refine accepted_of_readEntries lenient (flagIs_of_get? (Value.get?_textEntries_concat _ _ _)) ?_ read
  intro v found
  -- What stands for the sections is a member of the payload, since the flag has another key.
  obtain ⟨p, member, chosen⟩ := List.mem_filterMap.mp
    (Entries.mem_of_mem_ofList (Entries.mem_of_get? found))
  rcases List.mem_append.mp member with kept | last
  · obtain ⟨d, fromPayload, rfl⟩ := List.mem_map.mp (List.mem_of_mem_filter kept)
    rw [Value.ofMembers_eq_mapValues] at fromPayload
    obtain ⟨e, inside, rfl⟩ := List.mem_map.mp fromPayload
    obtain ⟨key, rfl⟩ := Prod.mk.inj (Option.some.inj chosen)
    exact sections_of_mem_payload finite passed trimmed inside key
  · obtain rfl := List.mem_singleton.mp last
    have key : "isDefault" = "sections" := (Prod.mk.inj (Option.some.inj chosen)).1
    exact absurd key (by decide)

/-- A payload that is accepted describes a template whose parts come back. -/
theorem accepted_of_validate (lenient : Value.Lenient p)
    (finite : (Json.object payload).isFinite = true) (passed : (Json.object payload).everywhere p = true)
    (trimmed : ∀ name ∈ sectionNames payload, trimWhiteSpace name = name)
    (given : schema.validate (Value.ofJson (.object payload)) = .ok t) : t.Accepted σ p := by
  have read : schema.readEntries (Value.ofMembers payload) = .ok t := mapError_eq_ok.mp given
  have anyFlag : FlagIs (Value.ofMembers payload) fun _ => True :=
    ⟨fun _ _ _ _ _ => trivial, fun _ => trivial⟩
  refine (accepted_of_readEntries lenient anyFlag ?_ read).1
  intro v found
  have member := Entries.mem_of_get? found
  rw [Value.ofMembers_eq_mapValues] at member
  obtain ⟨e, inside, same⟩ := List.mem_map.mp member
  obtain ⟨key, rfl⟩ := Prod.mk.inj same
  exact sections_of_mem_payload finite passed trimmed inside key

end Payload

/-- Reading a document gives back the template that it was written from. -/
theorem ofDocument_toDocument (payload : Entries Json) (flag : Bool) (t : Template)
    (finite : (Json.object payload).isFinite = true)
    (trimmed : ∀ name ∈ sectionNames payload, trimWhiteSpace name = name)
    (given : ofDocument (Value.ofJson (.object payload)) flag = .ok t) :
    ofDocument (Value.ofJson t.toDocument) flag = .ok t := by
  obtain ⟨accepted, isDefault⟩ : t.Accepted .written (fun _ => true) ∧ t.isDefault = flag :=
    accepted_of_ofDocument ⟨fun _ => rfl, rfl⟩ finite (Json.everywhere_true _) trimmed given
  have again := accepted.comes_back flag
  rw [Json.arrange_written, arrange_written] at again
  rw [again, ← isDefault]

/-- Data with a section of unknown type, columns that are not in the order of their keys, a number in a
text, a color in upper case and texts with white space around them. -/
def unusualPayload : Entries Json := [
  ("id", .text " spring "), ("name", .text "Spring"),
  ("companyInfo", .object [("name", .text "  Meadow ")]),
  ("layout", .object [("colors", .object [("primary", .text "#ABC")])]),
  ("sections", .object [
    ("weather", .object [("rain", .list [.null, .int 3]), ("enabled", .bool false)]),
    ("productTable", .object [
      ("columns", .object [("total", .object [("widthPercent", .text "12.5")]), ("name", .object [])]),
      ("content", .object [("title", .text " Goods ")])])])]

/-- The template of this data. -/
def unusual : Template where
  id := "spring"
  name := "Spring"
  company := { name := "Meadow" }
  layout := { colors := { primary := "#abc" } }
  sections := [
    { variant := .unsupported "weather" [("rain", .list [.null, .int 3])], enabled := false },
    { variant := .table [
        ("total", { widthPercent := .ofDecimal false 125 (-1) }), ("name", {})]
      content := [("title", "Goods")] }]

/-- The template comes back in spite of all that is unusual in its data. -/
theorem unusual_ofDocument_toDocument :
    (Json.object unusualPayload).isFinite = true ∧
      (∀ name ∈ sectionNames unusualPayload, trimWhiteSpace name = name) ∧
      ofDocument (Value.ofJson (.object unusualPayload)) false = .ok unusual ∧
      ofDocument (Value.ofJson unusual.toDocument) false = .ok unusual := by
  have finite : (Json.object unusualPayload).isFinite = true := by decide
  have trimmed : ∀ name ∈ sectionNames unusualPayload, trimWhiteSpace name = name := by
    decide +kernel
  have given : ofDocument (Value.ofJson (.object unusualPayload)) false = .ok unusual :=
    toOption_eq_some.mp (by decide +kernel)
  exact ⟨finite, trimmed, given, ofDocument_toDocument unusualPayload false unusual finite trimmed given⟩

end Template

end InvoiceForms
