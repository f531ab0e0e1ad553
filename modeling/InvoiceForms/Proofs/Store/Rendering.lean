import InvoiceForms.Proofs.Render.Order
import InvoiceForms.Proofs.Store.Persistence
import InvoiceForms.Proofs.Template.RoundTrip

/-!
# Rendering templates that were stored

A store in a directory writes documents with sorted members, and the order in which a template names
its fields, columns and sections is gone when it is loaded again. Whether that shows in what is
rendered of it depends on the template alone.
-/

namespace InvoiceForms

open InvoiceForms.Results InvoiceForms.Text
open Assembler (RendersAlike)
open Runner (program)

namespace Template

/-- Data that is accepted as a template: its numbers are finite, the keys of its objects distinct, and
the names of its sections trimmed. -/
structure ReadFrom (payload : Entries Json) (t : Template) : Prop where
  finite : (Json.object payload).isFinite = true
  distinct : (Json.object payload).hasDistinctKeys = true
  trimmed : ∀ name ∈ sectionNames payload, trimWhiteSpace name = name
  read : schema.validate (Value.ofJson (.object payload)) = .ok t

theorem ReadFrom.accepted {σ : Arrangement} {payload : Entries Json} {t : Template}
    (given : t.ReadFrom payload) : t.Accepted σ Json.distinctHere :=
  accepted_of_validate ⟨fun _ => rfl, rfl⟩ given.finite given.distinct given.trimmed given.read

end Template

namespace FileStore

open StoreProgram

/-- To those who render it, a template that was accepted comes back from a store as it was stored
exactly when its integers are short enough to be written, the store can tell its default, and the
order in the template is the one that a store keeps. -/
theorem refetch_rendersAlike_iff {payload : Entries Json} {t : Template} {s : FileStore} {w : World}
    (given : t.ReadFrom payload) (calm : Calm (s.refetch t) w) (a : Assembler) (ctx : Context) :
    (∃ t', program.answer (s.refetch t) w = .ok (some t') ∧
        RendersAlike (a.assemble t' ctx none) (a.assemble t ctx none)) ↔
      t.toDocument.hasReadableIntegers = true ∧ (∃ p, s.pointer w.tree = .ok p) ∧
        t.KeepsOrder a ctx := by
  have accepted : t.Accepted .sorted Json.distinctHere := given.accepted
  rw [answer_refetch accepted calm]
  by_cases few : t.toDocument.hasReadableIntegers = true
  · rw [if_pos few]
    cases named : s.pointer w.tree with
    | error e =>
      constructor
      · rintro ⟨t', back, -⟩
        cases back
      · rintro ⟨-, ⟨p, read⟩, -⟩
        cases read
    | ok p =>
      constructor
      · rintro ⟨t', back, alike⟩
        cases back
        exact ⟨few, ⟨p, rfl⟩, (accepted.rendersAlike_sorted_iff _).mp alike⟩
      · rintro ⟨-, -, keeps⟩
        exact ⟨_, rfl, (accepted.rendersAlike_sorted_iff _).mpr keeps⟩
  · rw [if_neg few]
    constructor
    · rintro ⟨t', back, -⟩
      cases back
    · rintro ⟨readable, -⟩
      exact absurd readable few

/-- Storing a template and loading it again is calm when storing it is, and its file can be read
afterwards. -/
theorem calm_refetch {s : FileStore} {t : Template} {w : World} (stores : Calm (s.upsert t) w)
    (looks : Calm s.defaultId (program.after (s.upsert t) w))
    (reads : (Action.read (s.templatePath t.id)).Succeeds ((program.after s.defaultId
      (program.after (s.upsert t) w)).perform (.read (s.templatePath t.id))).1) :
    Calm (s.refetch t) w :=
  Calm.bind stores fun _ => Calm.bind looks fun _ => calm_load reads

/-- The rows of a table of products: a name and a total. -/
def productRows : String :=
  Builtin.loop "order.products" (Builtin.ref "name" ++ "|" ++ Builtin.ref "total")

/-- Data of a template with a table of products under columns with the given keys. -/
def tablePayload (columns : List String) : Entries Json := [
  ("id", .text "table"), ("name", .text "Table"), ("companyInfo", .object [("name", .text "Meadow")]),
  ("sections", .object [("productTable", .object [
    ("content", .object [("rows", .text productRows)]),
    ("columns", .object (columns.map fun key => (key, .object [])))])])]

/-- The template of this data. -/
def tableTemplate (columns : List String) : Template where
  id := "table"
  name := "Table"
  company := { name := "Meadow" }
  sections := [{
    variant := .table (columns.map fun key => (key, {}))
    content := [("rows", productRows)] }]

/-- An invoice over one product. -/
def oneProduct : Context where
  order := [("products", .list [.mapping [("name", .text "Rose"), ("total", .int 3)]])]

theorem readFrom_of_names : (tableTemplate ["name", "total"]).ReadFrom (tablePayload ["name", "total"]) :=
  ⟨by decide, by decide, by decide, toOption_eq_some.mp (by decide)⟩

theorem readFrom_of_titles : (tableTemplate ["title", "price"]).ReadFrom (tablePayload ["title", "price"]) :=
  ⟨by decide, by decide, by decide, toOption_eq_some.mp (by decide)⟩

/-- A table whose columns are in the order of their keys is rendered as before. -/
theorem ascending_columns_rendersAlike :
    (tableTemplate ["name", "total"]).ReadFrom (tablePayload ["name", "total"]) ∧
      Calm (refetch ⟨["store"]⟩ (tableTemplate ["name", "total"])) {} ∧
      ∃ t', program.answer (refetch ⟨["store"]⟩ (tableTemplate ["name", "total"])) {} =
          .ok (some t') ∧
        RendersAlike (Assembler.assemble {} t' oneProduct none)
          (Assembler.assemble {} (tableTemplate ["name", "total"]) oneProduct none) := by
  have calm : Calm (refetch ⟨["store"]⟩ (tableTemplate ["name", "total"])) {} :=
    calm_refetch (by decide) (by decide) (by decide)
  refine ⟨readFrom_of_names, calm, ?_⟩
  refine (refetch_rendersAlike_iff readFrom_of_names calm {} oneProduct).mpr ⟨?_, ?_, ?_⟩
  · decide
  · exact ⟨none, rfl⟩
  · exact Template.keepsOrder_of_pairwise (List.pairwise_singleton _ _) (by decide)

/-- A table whose columns are in another order is not: its cells come to stand under other columns. -/
theorem not_ascending_columns_rendersAlike :
    (tableTemplate ["title", "price"]).ReadFrom (tablePayload ["title", "price"]) ∧
      Calm (refetch ⟨["store"]⟩ (tableTemplate ["title", "price"])) {} ∧
      ¬ ∃ t', program.answer (refetch ⟨["store"]⟩ (tableTemplate ["title", "price"])) {} =
          .ok (some t') ∧
        RendersAlike (Assembler.assemble {} t' oneProduct none)
          (Assembler.assemble {} (tableTemplate ["title", "price"]) oneProduct none) := by
  have calm : Calm (refetch ⟨["store"]⟩ (tableTemplate ["title", "price"])) {} :=
    calm_refetch (by decide) (by decide) (by decide)
  refine ⟨readFrom_of_titles, calm, ?_⟩
  have accepted : (tableTemplate ["title", "price"]).Accepted .sorted Json.distinctHere :=
    readFrom_of_titles.accepted
  have assembled : (Assembler.assemble {} (tableTemplate ["title", "price"]) oneProduct
      none).toOption.isSome = true := by decide +kernel
  obtain ⟨d, made⟩ := Option.isSome_iff_exists.mp assembled
  rintro ⟨t', back, alike⟩
  rw [answer_refetch accepted calm, if_pos (by decide)] at back
  cases back
  have keeps := (accepted.rendersAlike_sorted_iff _).mp alike
  have columns := (keeps.sections ⟨d, toOption_eq_some.mp made⟩ _ List.mem_cons_self rfl
    (by decide)).columns
  exact absurd columns (by decide)

end FileStore

end InvoiceForms
