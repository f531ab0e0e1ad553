import InvoiceForms.Proofs.Service.Markup
import InvoiceForms.Service.Pages

/-!
# The tags of the pages

Which tags the overview and the preview have is decided by how many templates, sections, columns, rows,
cells and warnings there are, and by which fields are empty. All data stands in slots.
-/

namespace InvoiceForms

/-- What the tags of a section depend on: the numbers of its columns and of the cells in each row, or
which of its fields are there. -/
inductive SectionShape
  | table (columns : Nat) (cells : List Nat)
  | fields (present : List Bool)
deriving DecidableEq

/-- What the tags of a preview depend on: the shapes of its sections and the number of warnings. -/
structure DocumentShape where
  sections : List SectionShape
  warnings : Nat
deriving DecidableEq

def RenderedSection.shape (s : RenderedSection) : SectionShape :=
  if s.rows.isEmpty then .fields (s.fields.map fun field => decide (field.2 ≠ ""))
  else .table s.columns.length (s.rows.map List.length)

def RenderedDocument.shape (d : RenderedDocument) : DocumentShape :=
  ⟨d.sections.map RenderedSection.shape, d.warnings.length⟩

namespace Pages

open Markup

/-- The tags of a part that comes some number of times. -/
def repeated (n : Nat) (tags : List String) : List String := (List.replicate n tags).flatten

theorem repeated_length {α : Type} (xs : List α) (tags : List String) :
    xs.flatMap (fun _ => tags) = repeated xs.length tags := by
  rw [repeated, List.flatMap, List.map_const']

/-- The tags around the title, the styles and the body of a page. -/
def frameTags (body : List String) : List String :=
  ["!DOCTYPE html", "html lang=", "head", "meta charset=", "title", "/title", "style", "/style", "/head",
    "body", "nav", "a href=", "/a", "/nav"] ++ body ++ ["/body", "/html"]

/-- The tags of an overview of so many templates. -/
def overviewTags (templates : Nat) : List String :=
  frameTags (["h1", "/h1"] ++
    if templates = 0 then ["p class=", "/p"]
    else ["table", "thead", "tr"] ++ repeated 6 ["th", "/th"] ++ ["/tr", "/thead", "tbody"] ++
      repeated templates (["tr"] ++ repeated 5 ["td", "/td"] ++ ["td", "a href=", "/a", "/td", "/tr"]) ++
      ["/tbody", "/table"])

/-- The tags of a section. -/
def sectionTags (s : SectionShape) : List String :=
  ["section", "h2", "/h2"] ++
  (match s with
    | .table columns cells =>
      ["table", "thead", "tr"] ++ repeated columns ["th style=", "/th"] ++ ["/tr", "/thead", "tbody"] ++
        cells.flatMap (fun n => ["tr"] ++ repeated n ["td", "/td"] ++ ["/tr"]) ++ ["/tbody", "/table"]
    | .fields present => present.flatMap fun there => if there then ["div class=", "/div"] else []) ++
  ["/section"]

/-- The tags of a preview. -/
def previewTags (d : DocumentShape) : List String :=
  frameTags (["h1", "/h1", "p class=", "/p", "div class="] ++ d.sections.flatMap sectionTags ++ ["/div"] ++
    if d.warnings = 0 then []
    else ["h2", "/h2", "ul"] ++ repeated d.warnings ["li class=", "/li"] ++ ["/ul"])

theorem hasTags_frame {title style body : Markup} {tags : List String} (titled : HasTags title [])
    (styled : HasTags style []) (filled : HasTags body tags) :
    HasTags (frame title style body) (frameTags tags) := by
  show Reads .text _ (["!DOCTYPE html", "html lang=", "head", "meta charset=", "title"] ++ [] ++
    (["/title", "style"] ++ [] ++ [] ++ [] ++ [] ++ [] ++ [] ++ []) ++
    (["/style", "/head", "body"] ++ ["nav", "a href=", "/a", "/nav"] ++ tags) ++ ["/body", "/html"]) .text
  refine (((Reads.cons (.markup rfl ?_) titled).append (.cons ?styles styled)).append
    (.cons (HasTags.markup_append (.markup rfl ?_) (.markup rfl ?_)) filled)).append (.markup rfl ?_)
  case styles =>
    refine HasTags.markup_append (.markup_append (.markup_append (.markup_append (.markup_append
      (.markup_append ?_ ?_) ?_) ?_) ?_) ?_) ?_
    all_goals exact .markup rfl (by decide +kernel)
  all_goals decide +kernel

theorem hasTags_overviewRow (s : Template.Summary) : HasTags (overviewRow s)
    (["tr"] ++ repeated 5 ["td", "/td"] ++ ["td", "a href=", "/a", "/td", "/tr"]) := by
  have mark : HasTags [.markup (if s.isDefault then "&#10003;" else "")] [] := by
    cases s.isDefault with
    | true => exact .markup rfl (by decide)
    | false => exact .markup rfl (by decide)
  show Reads .text _ (["tr", "td"] ++ (["/td", "td"] ++ (["/td", "td"] ++ (["/td", "td"] ++
    (["/td", "td"] ++ ([] ++ (["/td", "td"] ++ ["a href=", "/a", "/td", "/tr"]))))))) .text
  refine .cons (.markup rfl ?_) <| .slot <| .cons (.markup rfl ?_) <| .slot <|
    .cons (.markup rfl ?_) <| .slot <| .cons (.markup rfl ?_) <| .slot <| .plain rfl ?_ <| .slot <|
    .cons (.markup rfl ?_) <| .cons mark <| .cons (.markup rfl ?_) <|
    .quoted "a href=".toList (.markup rfl ?_)
  all_goals decide

theorem hasTags_overviewTable (summaries : List Template.Summary) : HasTags (overviewTable summaries)
    (if summaries.length = 0 then ["p class=", "/p"]
      else ["table", "thead", "tr"] ++ repeated 6 ["th", "/th"] ++ ["/tr", "/thead", "tbody"] ++
        repeated summaries.length
          (["tr"] ++ repeated 5 ["td", "/td"] ++ ["td", "a href=", "/a", "/td", "/tr"]) ++
        ["/tbody", "/table"]) := by
  cases summaries with
  | nil =>
    show HasTags _ (["p class="] ++ ["/p"])
    refine .markup_append (.markup rfl ?_) (.markup rfl ?_)
    all_goals decide
  | cons s rest =>
    rw [if_neg (List.length_cons ▸ Nat.succ_ne_zero _), ← repeated_length]
    show Reads .text _ (["table", "thead", "tr", "th", "/th", "th", "/th", "th", "/th"] ++
      ["th", "/th", "th", "/th", "th", "/th", "/tr", "/thead", "tbody"] ++ _ ++ ["/tbody", "/table"]) .text
    refine (Reads.cons (HasTags.markup_append (.markup rfl ?_) (.markup rfl ?_))
      (HasTags.flatMap fun s _ => hasTags_overviewRow s)).append (.markup rfl ?_)
    all_goals decide +kernel

/-- An overview has the tags of its number of templates. -/
theorem hasTags_overview (summaries : List Template.Summary) :
    HasTags (overview summaries) (overviewTags summaries.length) := by
  have title : HasTags [.markup "Rechnungsvorlagen"] [] := .markup rfl (by decide)
  have heading : HasTags [.markup "\n<h1>Rechnungsvorlagen (", .slot (toString summaries.length),
      .markup ")</h1>\n"] (["h1"] ++ ["/h1"]) := by
    refine .cons (.markup rfl ?_) (.slot (.markup rfl ?_))
    all_goals decide
  have space : HasTags [.markup "\n"] [] := .markup rfl (by decide)
  have body := (heading.append (hasTags_overviewTable summaries)).append space
  rw [List.append_nil] at body
  exact hasTags_frame title .nil body

theorem hasTags_previewStyle (layout : Layout) : HasTags (previewStyle layout) [] := by
  refine .plain rfl ?_ <| .slot <| .plain rfl ?_ <| .slot <| .plain rfl ?_ <| .slot <|
    .plain rfl ?_ <| .slot <| .plain rfl ?_ <| .slot (.markup rfl ?_)
  all_goals decide

theorem hasTags_columnHead (c : RenderedColumn) : HasTags (columnHead c) ["th style=", "/th"] := by
  show Reads .text _ (["th style="] ++ ["/th"]) .text
  refine .plain rfl ?_ <| .quoted "th style=".toList <| .cons (.markup rfl ?_) <|
    .slot (.markup rfl ?_)
  all_goals decide

theorem hasTags_tableRow (cells : List String) :
    HasTags (tableRow cells) (["tr"] ++ repeated cells.length ["td", "/td"] ++ ["/tr"]) := by
  have cell (s : String) : HasTags [.markup "<td>", .slot s, .markup "</td>"] (["td"] ++ ["/td"]) := by
    refine .cons (.markup rfl ?_) (.slot (.markup rfl ?_))
    all_goals decide
  rw [← repeated_length]
  refine (Reads.cons (.markup rfl ?_) (HasTags.flatMap fun s _ => cell s)).append (.markup rfl ?_)
  all_goals decide

theorem hasTags_sectionTable (s : RenderedSection) : HasTags (sectionTable s)
    (["table", "thead", "tr"] ++ repeated s.columns.length ["th style=", "/th"] ++
      ["/tr", "/thead", "tbody"] ++
      (s.rows.map List.length).flatMap (fun n => ["tr"] ++ repeated n ["td", "/td"] ++ ["/tr"]) ++
      ["/tbody", "/table"]) := by
  rw [← repeated_length, List.flatMap_map, List.append_assoc _ ["/tr", "/thead", "tbody"]]
  refine ((Reads.cons (.markup rfl ?_) (HasTags.flatMap fun c _ => hasTags_columnHead c)).append
    (.cons (.markup rfl ?_) (HasTags.flatMap fun cells _ => hasTags_tableRow cells))).append
    (.markup rfl ?_)
  all_goals decide

theorem hasTags_sectionField (field : String × String) : HasTags (sectionField field)
    (if decide (field.2 ≠ "") then ["div class=", "/div"] else []) := by
  have filled : HasTags [.markup "<div class=\"field\">", .slot field.2, .markup "</div>"]
      (["div class="] ++ ["/div"]) := by
    refine .cons (.markup rfl ?_) (.slot (.markup rfl ?_))
    all_goals decide
  have before : HasTags [.markup "\n        "] [] := .markup rfl (by decide)
  have behind : HasTags [.markup "\n      "] [] := .markup rfl (by decide)
  have whole := (before.cons (filled.conditional (decide (field.2 ≠ "")))).append behind
  rwa [List.nil_append, List.append_nil] at whole

theorem hasTags_sectionFields (s : RenderedSection) : HasTags (sectionFields s)
    ((s.fields.map fun field => decide (field.2 ≠ "")).flatMap fun there =>
      if there then ["div class=", "/div"] else []) := by
  have before : HasTags [.markup "\n      "] [] := .markup rfl (by decide)
  have behind : HasTags [.markup "\n    "] [] := .markup rfl (by decide)
  have fields : HasTags (s.fields.flatMap sectionField) (s.fields.flatMap fun field =>
      if decide (field.2 ≠ "") then ["div class=", "/div"] else []) :=
    .flatMap fun field _ => hasTags_sectionField field
  have whole := (before.cons fields).append behind
  rw [List.nil_append, List.append_nil] at whole
  rw [List.flatMap_map]
  exact whole

theorem hasTags_sectionBlock (s : RenderedSection) :
    HasTags (sectionBlock s) (sectionTags s.shape) := by
  have heading : HasTags [.markup "\n  <section>\n    <h2>", .slot s.type, .markup "</h2>\n    "]
      (["section", "h2"] ++ ["/h2"]) := by
    refine .cons (.markup rfl ?_) (.slot (.markup rfl ?_))
    all_goals decide
  have ending : HasTags [.markup "\n  </section>\n"] ["/section"] := .markup rfl (by decide)
  unfold sectionBlock RenderedSection.shape
  refine (heading.append ?_).append ending
  by_cases empty : s.rows.isEmpty
  · rw [if_pos empty, if_pos empty]
    exact hasTags_sectionFields s
  · rw [if_neg empty, if_neg empty]
    exact hasTags_sectionTable s

theorem hasTags_warningItem (w : Warning) : HasTags (warningItem w) ["li class=", "/li"] := by
  have start : HasTags [.markup "\n  <li class=\"warning\">", .slot w.code, .markup ": ",
      .slot w.message] (["li class="] ++ []) := by
    refine .cons (.markup rfl ?_) (.slot (.plain rfl ?_ (.slot .nil)))
    all_goals decide
  have named (name : String) : HasTags [.markup " (", .slot name, .markup ")"] [] := by
    refine .plain rfl ?_ (.slot (.markup rfl ?_))
    all_goals decide
  have ending : HasTags [.markup "</li>\n"] ["/li"] := .markup rfl (by decide)
  show HasTags _ (["li class="] ++ [] ++ ["/li"])
  refine (start.append ?_).append ending
  split
  · next name _ =>
    have part := (named name).conditional (decide (name ≠ ""))
    rwa [ite_self] at part
  · exact .nil

theorem hasTags_warningList (warnings : List Warning) : HasTags (warningList warnings)
    (if warnings.length = 0 then []
      else ["h2", "/h2", "ul"] ++ repeated warnings.length ["li class=", "/li"] ++ ["/ul"]) := by
  cases warnings with
  | nil => exact .nil
  | cons w rest =>
    rw [if_neg (List.length_cons ▸ Nat.succ_ne_zero _), ← repeated_length]
    refine (Reads.cons (.markup rfl ?_) (HasTags.flatMap fun w _ => hasTags_warningItem w)).append
      (.markup rfl ?_)
    all_goals decide

theorem hasTags_origin (requested : String) (d : RenderedDocument) :
    HasTags (origin requested d) ["p class=", "/p"] := by
  have start (word : String) : HasTags [.markup "\n<p class=\"muted\">\n  Vorlage ",
      .slot d.templateId, .markup " (", .slot word, .markup ")\n  "] (["p class="] ++ []) := by
    refine .cons (.markup rfl ?_) (.slot (.plain rfl ?_ (.slot (.markup rfl ?_))))
    all_goals decide
  have asked : HasTags [.markup "&middot; angefragt: ", .slot requested] [] :=
    .plain rfl (by decide) (.slot .nil)
  have ending : HasTags [.markup "\n</p>\n\n"] ["/p"] := .markup rfl (by decide)
  have whole := ((start ((d.sourceKind.map (·.word)).getD "None")).append
    (asked.conditional (decide (d.sourceKind ≠ some .explicit)))).append ending
  rwa [ite_self, List.append_nil] at whole

/-- A preview has the tags of its shape. -/
theorem hasTags_preview (requested : String) (d : RenderedDocument) :
    HasTags (preview requested d) (previewTags d.shape) := by
  have title : HasTags [.markup "Vorschau ", .slot d.templateName] [] :=
    .plain rfl (by decide) (.slot .nil)
  have heading : HasTags [.markup "\n<h1>", .slot d.templateName, .markup "</h1>"]
      (["h1"] ++ ["/h1"]) := by
    refine .cons (.markup rfl ?_) (.slot (.markup rfl ?_))
    all_goals decide
  have opening : HasTags [.markup "<div class=\"document\">\n"] ["div class="] :=
    .markup rfl (by decide)
  have closing : HasTags [.markup "\n</div>\n\n"] ["/div"] := .markup rfl (by decide)
  have space : HasTags [.markup "\n"] [] := .markup rfl (by decide)
  have sections : HasTags (d.sections.flatMap sectionBlock)
      ((d.sections.map RenderedSection.shape).flatMap sectionTags) := by
    rw [List.flatMap_map]
    exact .flatMap fun s _ => hasTags_sectionBlock s
  have body := (((heading.append (hasTags_origin requested d)).append
    (opening.cons sections)).append (closing.cons (hasTags_warningList d.warnings))).append space
  have whole := hasTags_frame title (hasTags_previewStyle d.layout) body
  simp only [List.append_assoc, List.append_nil] at whole
  simp only [preview, previewTags, RenderedDocument.shape, List.append_assoc, List.cons_append]
  exact whole

end Pages

end InvoiceForms
