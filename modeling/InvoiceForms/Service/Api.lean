import InvoiceForms.Service.Envelope
import InvoiceForms.Service.Pages
import InvoiceForms.Service.Tools
import InvoiceForms.Text.Wide

/-!
# The HTTP interface

Requests by method and path, with a text as body. Each route answers with JSON in an envelope or
with a page; failures that a route expects become answers with a status of their own, and the others
end the request as a `Failure`.
-/

namespace InvoiceForms

open InvoiceForms.Record InvoiceForms.Text

/-- What an answer holds. -/
inductive ResponseBody
  | json (value : Json)
  | text (s : String)
deriving DecidableEq, Inhabited

/-- An answer. -/
structure Response where
  status : Nat
  body : ResponseBody
deriving DecidableEq, Inhabited

/-- What a path stands for. -/
inductive Route
  | templates
  | template (id : String)
  | issues (id : String)
  | variableList
  | render
  | overview
  | preview (id : String)
deriving DecidableEq, Repr

namespace Route

/-- The methods that a route takes. -/
def methods : Route → List String
  | render => ["POST"]
  | _ => ["GET", "HEAD"]

/-- The route of the parts of a path. -/
def ofParts : List String → Option Route
  | ["", "api", "templates"] => some templates
  | ["", "api", "templates", id] => if id = "" then none else some (template id)
  | ["", "api", "templates", id, "issues"] => if id = "" then none else some (issues id)
  | ["", "api", "variables"] => some variableList
  | ["", "api", "render"] => some render
  | ["", "templates"] => some overview
  | ["", "templates", id, "preview"] => if id = "" then none else some (preview id)
  | _ => none

/-- The route of the characters of a path. -/
def ofChars? (path : List Char) : Option Route := ofParts ((split '/' path).map String.ofList)

/-- The route of a path. A line break at the end does not count, unless it is part of an id. -/
def ofPath? (path : String) : Option Route :=
  (ofChars? path.toList).orElse fun _ =>
    if path.toList.getLast? = some '\n' then ofChars? path.toList.dropLast else none

/-- The path with the slashes at its end taken away, or with one put there. -/
def otherSlash (path : String) : String :=
  if path.toList.getLast? = some '/' then String.ofList (dropEndWhile (· = '/') path.toList)
  else path ++ "/"

end Route

namespace Api

open ServiceProgram

mutual

/-- Whether a value has a number that JSON does not have. -/
def hasStrayNumber : Json → Bool
  | .float x => !x.isFinite
  | .list items => itemsHaveStray items
  | .object members => membersHaveStray members
  | _ => false

/-- `hasStrayNumber` of some item. -/
def itemsHaveStray : List Json → Bool
  | [] => false
  | x :: xs => hasStrayNumber x || itemsHaveStray xs

/-- `hasStrayNumber` of some member. -/
def membersHaveStray : List (String × Json) → Bool
  | [] => false
  | (_, x) :: members => hasStrayNumber x || membersHaveStray members

end

/-- A JSON answer. -/
def jsonResponse (status : Nat) (value : Json) : ServiceProgram Response :=
  if hasStrayNumber value then throw .notCompliant else return ⟨status, .json value⟩

/-- A JSON answer that all is well. -/
def okResponse (data : Json) : ServiceProgram Response := jsonResponse 200 (Envelope.ok data)

/-- A JSON answer with errors. -/
def errorResponse (status : Nat) (errors : List String) (data : Json) : ServiceProgram Response :=
  jsonResponse status (Envelope.error errors data)

/-- A text answer. -/
def textResponse (status : Nat) (s : String) : Response := ⟨status, .text s⟩

/-- Answers with the result of a program, or with an answer to its failure. -/
def answering {α : Type} (p : ServiceProgram α) (onOk : α → ServiceProgram Response)
    (onFailure : Failure → Option (ServiceProgram Response)) : ServiceProgram Response := do
  match ← ExceptT.lift p.run with
  | .ok a => onOk a
  | .error e => (onFailure e).getD (throw e)

/-- The answer to a store that cannot be used. -/
def unavailable? : Failure → Option (ServiceProgram Response)
  | .store (.unavailable cause) => some (errorResponse 503 [cause.message] .null)
  | _ => none

/-- Lists the stored templates. -/
def listTemplates (s : Settings) : ServiceProgram Response :=
  answering (onStore .store (Tools.listed s))
    (fun (ts, pointer) => okResponse (Tools.listing pointer ts))
    unavailable?

/-- The answer to a template that cannot be loaded. -/
def loadFailure? (id : String) : Failure → Option (ServiceProgram Response)
  | .store (.configuration cause) =>
    some (errorResponse 500 ["Template " ++ id ++ " is invalid: " ++ cause.message] .null)
  | e => unavailable? e

/-- Answers with a stored template. -/
def withTemplate (s : Settings) (id : String) (onOk : Template → ServiceProgram Response) :
    ServiceProgram Response :=
  answering (onStore .store (s.store.get id))
    (fun found => match found with
      | some t => onOk t
      | none => errorResponse 404 ["Template " ++ id ++ " not found"] .null)
    (loadFailure? id)

/-- Gives a template. -/
def getTemplate (s : Settings) (id : String) : ServiceProgram Response :=
  withTemplate s id fun t => okResponse t.dump

/-- Gives the issues of a template. -/
def templateIssues (s : Settings) (id : String) : ServiceProgram Response :=
  withTemplate s id fun t => do
    okResponse (Tools.issueReport t (← lift .unchecked (s.validator.validate t)))

/-- A fault of a request in words. -/
def faultText (f : Fault) : String :=
  joinWith "." (f.path.map (·.text)) ++ ": " ++ f.cause.message

/-- The journal entry of a document that could not be rendered. -/
def failedEntry (invariant : String) : JournalEntry where
  level := .warning
  origin := "invoice_templates.api.routes"
  message := "Render failed"
  details := [("invariant", .text invariant)]

/-- The answer to a document that cannot be rendered. -/
def renderFailure? : Failure → Option (ServiceProgram Response)
  | .render e =>
    e.invariant?.map fun invariant => do
      report (failedEntry invariant)
      errorResponse 500 [e.message] (.object [("invariant", .text invariant),
        ("issues", Issue.listToJson e.issues)])
  | e => unavailable? e

/-- Renders the document of a request. -/
def renderRequest (s : Settings) (payload : Json) : ServiceProgram Response := do
  match RenderRequest.schema.validate (.ofJson payload) with
  | .ok request =>
    answering (Tools.renderDocument s request) (fun d => okResponse d.toJson) renderFailure?
  | .error (.invalid e) => errorResponse 400 (e.faults.map faultText) .null
  | .error e => throw (.data e)

/-- A text without the mark that may stand at its start. -/
def dropByteOrderMark (s : String) : String :=
  match s.toList with
  | c :: cs => if c.toNat = 0xFEFF then String.ofList cs else s
  | [] => s

/-- The text of a body, in the encoding that its first bytes show. -/
def bodyText (bytes : ByteArray) : Except DecodeFault String :=
  match Encoding.detect (bytes.data.toList.take 4) with
  | .utf8 => (decode bytes).map dropByteOrderMark
  | e => e.decode bytes.data.toList

/-- Renders the document of a request given as a text. -/
def render (s : Settings) (body : String) : ServiceProgram Response := do
  match Json.parse (← lift .undecodable (bodyText (encode body))) with
  | .ok payload => renderRequest s payload
  | .error (.tooManyDigits count) => throw (.oversizedInteger (some count))
  | .error _ => errorResponse 400 ["Request body must be JSON"] .null

/-- The text of a page about a store that cannot be used. -/
def unavailablePage? : Failure → Option (ServiceProgram Response)
  | .store (.unavailable cause) =>
    some (return textResponse 503 ("Template store unavailable: " ++ cause.message))
  | _ => none

/-- Shows the stored templates. -/
def showOverview (s : Settings) : ServiceProgram Response :=
  answering (onStore .store s.store.list)
    (fun ts => return textResponse 200 (Pages.overview (ts.map (·.summary))).text)
    unavailablePage?

/-- The text of a page about a document that cannot be rendered. -/
def previewFailure? : Failure → Option (ServiceProgram Response)
  | .render e => e.invariant?.map fun _ => return textResponse 500 ("Render failed: " ++ e.message)
  | e => unavailablePage? e

/-- Shows a template with sample data. -/
def showPreview (s : Settings) (id : String) : ServiceProgram Response :=
  answering (Tools.previewDocument s (some id) (.text Language.de.tag))
    (fun d => return textResponse 200 (Pages.preview id d).text)
    previewFailure?

/-- Answers a request on a route. -/
def respond (s : Settings) (body : String) : Route → ServiceProgram Response
  | .templates => listTemplates s
  | .template id => getTemplate s id
  | .issues id => templateIssues s id
  | .variableList => okResponse Tools.listVariables
  | .render => render s body
  | .overview => showOverview s
  | .preview id => showPreview s id

/-- Answers a request. A path that is a route but for the slashes at its end leads there. -/
def handle (s : Settings) (method path body : String) : ServiceProgram Response :=
  match Route.ofPath? path with
  | some route =>
    if method ∈ route.methods then respond s body route
    else return textResponse 405 "Method Not Allowed"
  | none =>
    if path ≠ "/" ∧ (Route.ofPath? (Route.otherSlash path)).isSome then return textResponse 307 ""
    else return textResponse 404 "Not Found"

end Api

end InvoiceForms
