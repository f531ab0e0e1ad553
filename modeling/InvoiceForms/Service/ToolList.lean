/-!
# The list of tools

The tools by name, each with the description that assistants choose by.
-/

namespace InvoiceForms

/-- A tool in the list. -/
structure ToolInfo where
  name : String
  description : String
deriving DecidableEq, Repr, Inhabited

namespace ToolInfo

/-- All tools in the order of their names. -/
def all : List ToolInfo := [
  { name := "delete_template"
    description :=
      "Delete a template permanently. The current default cannot be deleted." },
  { name := "get_template"
    description :=
      "Read a full template (camelCase JSON) plus its validation issues." },
  { name := "get_template_example"
    description :=
      "Return the builtin template and an example render request.\n" ++
      "\n" ++
      "        Field guidance for LLMs:\n" ++
      "        - sections are keyed by type; position orders them, enabled toggles them.\n" ++
      "        - content values may use \x7b\x7bcategory.path\x7d\x7d variables (see " ++
      "list_template_variables).\n" ++
      "        - productTable rows come from one " ++
      "\x7b\x7bloop:order.products\x7d\x7d...\x7b\x7b/loop\x7d\x7d block;\n" ++
      "          cells are separated by \"|\" in column order; \x7b\x7b@index\x7d\x7d is the " ++
      "row number.\n" ++
      "        - column widthPercent values of enabled columns must not exceed 100 in total.\n" ++
      "        " },
  { name := "list_template_variables"
    description :=
      "List every \x7b\x7bvariable\x7d\x7d template content may use, grouped by category." },
  { name := "list_templates"
    description :=
      "Read-only listing of stored invoice templates and the current default id." },
  { name := "preview_template"
    description :=
      "Render a template against built-in sample order data." },
  { name := "render_invoice_document"
    description :=
      "Render a structured invoice document (sections, rows, warnings).\n" ++
      "\n" ++
      "        The template is resolved as: requested template_id, then the default\n" ++
      "        template, then the builtin template; `source_kind` in the result says\n" ++
      "        which one was used. The result is layout data, not a PDF.\n" ++
      "        " },
  { name := "set_default_template"
    description :=
      "Make the given template the default used when no template is requested." },
  { name := "upsert_template"
    description :=
      "Create or replace a template in .invoice_templates/.\n" ++
      "\n" ++
      "        Templates with error-severity validation issues are rejected; warnings are\n" ++
      "        returned alongside the stored template. Setting isDefault=true makes the\n" ++
      "        template the single default (any previous default loses the flag).\n" ++
      "        " },
  { name := "validate_template"
    description :=
      "Validate an inline template or a stored one (by id) without saving.\n" ++
      "\n" ++
      "        Errors block document generation with that template; warnings never do.\n" ++
      "        " }]

end ToolInfo

end InvoiceForms
