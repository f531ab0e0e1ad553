import InvoiceForms.Number.DoubleText
import InvoiceForms.Render.Rendered
import InvoiceForms.Service.Markup
import InvoiceForms.Template.Basic

/-!
# Pages

The two HTML pages: the overview of the stored templates, and the preview of a document.
-/

namespace InvoiceForms.Pages

open InvoiceForms.Number

/-- What all pages have in common, around a title, further styles and a body. -/
def frame (title style body : Markup) : Markup :=
  .markup ("<!DOCTYPE html>\n<html lang=\"de\">\n<head>\n  <meta charset=\"UTF-8\">\n  <title>") ::
  title ++
  .markup ("</title>\n  <style>\n" ++
    "    body \x7b font-family: Arial, sans-serif; margin: 2rem; color: #333333; \x7d\n" ++
    "    table \x7b border-collapse: collapse; width: 100%; \x7d\n" ++
    "    th, td \x7b border-bottom: 1px solid #dddddd; padding: 0.4rem; text-align: left; " ++
    "vertical-align: top; \x7d\n" ++
    "    .muted \x7b color: #777777; \x7d\n" ++
    "    .warning \x7b color: #a15c00; \x7d\n    ") ::
  style ++
  .markup ("\n  </style>\n</head>\n<body>\n" ++
    "  <nav><a href=\"/templates\">Vorlagen</a></nav>\n  ") ::
  body ++
  [.markup "\n</body>\n</html>"]

/-- The row of a template. -/
def overviewRow (s : Template.Summary) : Markup := [
  .markup "\n    <tr>\n      <td>", .slot s.id, .markup "</td>\n      <td>", .slot s.name,
  .markup "</td>\n      <td>", .slot s.company, .markup "</td>\n      <td>",
  .slot (toString s.enabledSections), .markup " / ", .slot (toString s.sections),
  .markup "</td>\n      <td>", .markup (if s.isDefault then "&#10003;" else ""),
  .markup "</td>\n      <td><a href=\"/templates/", .slot s.id,
  .markup "/preview\">Vorschau</a></td>\n    </tr>\n  "]

/-- The table of templates, or a note that there is none. -/
def overviewTable (summaries : List Template.Summary) : Markup :=
  if summaries.isEmpty then
    [.markup ("\n<p class=\"muted\">Keine Vorlagen gespeichert; " ++
      "die Standardvorlage wird verwendet.</p>\n")]
  else
    .markup ("\n<table>\n  <thead>\n    <tr><th>ID</th><th>Name</th><th>Firma</th>" ++
      "<th>Abschnitte</th><th>Standard</th><th></th></tr>\n  </thead>\n  <tbody>\n  ") ::
    summaries.flatMap overviewRow ++
    [.markup "\n  </tbody>\n</table>\n"]

/-- The overview of the stored templates. -/
def overview (summaries : List Template.Summary) : Markup :=
  frame [.markup "Rechnungsvorlagen"] []
    ([.markup "\n<h1>Rechnungsvorlagen (", .slot (toString summaries.length), .markup ")</h1>\n"] ++
      overviewTable summaries ++ [.markup "\n"])

/-- The styles of a preview. -/
def previewStyle (layout : Layout) : Markup := [
  .markup "\n    .document \x7b max-width: 210mm; font-family: ", .slot layout.fonts.family,
  .markup "; font-size: ", .slot (toString layout.fonts.body),
  .markup "px; \x7d\n    .document h2 \x7b color: ", .slot layout.colors.primary,
  .markup "; font-size: ", .slot (toString layout.fonts.subheading),
  .markup "px; \x7d\n    .document thead th \x7b background: ", .slot layout.colors.secondary,
  .markup "; \x7d\n    .field \x7b white-space: pre-line; \x7d\n"]

/-- The text above a column. -/
def columnHeading (c : RenderedColumn) : String := (c.label.filter (· ≠ "")).getD c.key

/-- The head of a column. -/
def columnHead (c : RenderedColumn) : Markup := [
  .markup "<th style=\"width: ", .slot c.widthPercent.toText, .markup "%\">",
  .slot (columnHeading c), .markup "</th>"]

/-- A row of a table. -/
def tableRow (cells : List String) : Markup :=
  .markup "\n        <tr>" ::
  cells.flatMap (fun cell => [.markup "<td>", .slot cell, .markup "</td>"]) ++
  [.markup "</tr>\n      "]

/-- The table of a section. -/
def sectionTable (s : RenderedSection) : Markup :=
  .markup "\n    <table>\n      <thead>\n        <tr>" ::
  s.columns.flatMap columnHead ++
  .markup "</tr>\n      </thead>\n      <tbody>\n      " ::
  s.rows.flatMap tableRow ++
  [.markup "\n      </tbody>\n    </table>\n    "]

/-- A field of a section, unless it is empty. -/
def sectionField (field : String × String) : Markup :=
  .markup "\n        " ::
  Markup.when (field.2 ≠ "")
    [.markup "<div class=\"field\">", .slot field.2, .markup "</div>"] ++
  [.markup "\n      "]

/-- The fields of a section. -/
def sectionFields (s : RenderedSection) : Markup :=
  .markup "\n      " :: s.fields.flatMap sectionField ++ [.markup "\n    "]

/-- A section of a document: its rows if it has any, else its fields. -/
def sectionBlock (s : RenderedSection) : Markup :=
  [.markup "\n  <section>\n    <h2>", .slot s.type, .markup "</h2>\n    "] ++
  (if s.rows.isEmpty then sectionFields s else sectionTable s) ++
  [.markup "\n  </section>\n"]

/-- A warning in the list of warnings. -/
def warningItem (w : Warning) : Markup :=
  [.markup "\n  <li class=\"warning\">", .slot w.code, .markup ": ", .slot w.message] ++
  (match w.sectionType with
    | some s => Markup.when (s ≠ "") [.markup " (", .slot s, .markup ")"]
    | none => []) ++
  [.markup "</li>\n"]

/-- The list of warnings, if there are any. -/
def warningList (warnings : List Warning) : Markup :=
  Markup.when (!warnings.isEmpty)
    (.markup "\n<h2>Hinweise</h2>\n<ul>\n" :: warnings.flatMap warningItem ++
      [.markup "\n</ul>\n"])

/-- Where the template of a document comes from, and which one was asked for if it is another. -/
def origin (requested : String) (d : RenderedDocument) : Markup :=
  let word := (d.sourceKind.map (·.word)).getD "None"
  [.markup "\n<p class=\"muted\">\n  Vorlage ", .slot d.templateId, .markup " (", .slot word,
    .markup ")\n  "] ++
  Markup.when (d.sourceKind ≠ some .explicit)
    [.markup "&middot; angefragt: ", .slot requested] ++
  [.markup "\n</p>\n\n"]

/-- The preview of a document. -/
def preview (requested : String) (d : RenderedDocument) : Markup :=
  frame [.markup "Vorschau ", .slot d.templateName] (previewStyle d.layout)
    ([.markup "\n<h1>", .slot d.templateName, .markup "</h1>"] ++ origin requested d ++
      .markup "<div class=\"document\">\n" :: d.sections.flatMap sectionBlock ++
      .markup "\n</div>\n\n" :: warningList d.warnings ++ [.markup "\n"])

end InvoiceForms.Pages
