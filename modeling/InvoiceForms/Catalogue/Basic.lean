import InvoiceForms.Json.Parser
import InvoiceForms.Value.Shown

/-!
# Catalogues of variables

A catalogue describes the variables that content strings may refer to, by category: variables of the
invoice as a whole, and the fields that items of a list have inside a loop over it. A path that is
described again gets the new description in its old place. Editors show a catalogue and validation
looks variables up in it; rendering does not need one.
-/

namespace InvoiceForms

/-- A category of variables. -/
inductive Category
  | company
  | customer
  | invoice
  | order
  | product
  | totals
  | legal
deriving DecidableEq, Repr, Inhabited

namespace Category

/-- All categories, in the order of listings. -/
def all : List Category := [company, customer, invoice, order, product, totals, legal]

/-- The name of a category. -/
def name : Category → String
  | company => "company"
  | customer => "customer"
  | invoice => "invoice"
  | order => "order"
  | product => "product"
  | totals => "totals"
  | legal => "legal"

/-- The category with a name. -/
def ofName? (s : String) : Option Category := all.find? (·.name = s)

/-- The category that a value names, or why it names none. -/
def ofValue (v : Value) : Except String Category :=
  let unknown := Except.error <|
    if v.isWritable then v.shown ++ " is not a valid Category" else Json.unwritableIntegerMessage
  match v with
  | .text s => (ofName? s).elim unknown .ok
  | _ => unknown

/-- The heading of a category. -/
def label : Category → String
  | company => "Firma"
  | customer => "Kunde"
  | invoice => "Rechnung"
  | order => "Bestellung"
  | product => "Artikel"
  | totals => "Summen"
  | legal => "Rechtliches"

/-- The icon of a category. -/
def icon : Category → String
  | company => "🏢"
  | customer => "👤"
  | invoice => "📄"
  | order => "🛒"
  | product => "📦"
  | totals => "💰"
  | legal => "⚖️"

end Category

/-- The description of a variable. A variable with a list path is a field of the items there. -/
structure VariableInfo where
  category : Category
  path : String
  label : String
  iterable : Bool := false
  itemOf : Option String := none
deriving DecidableEq, Repr, Inhabited

namespace VariableInfo

/-- A variable with one value. -/
def scalar (category : Category) (path label : String) : VariableInfo :=
  { category := category, path := path, label := label }

/-- A variable that loops go over. -/
def list (category : Category) (path label : String) : VariableInfo :=
  { category := category, path := path, label := label, iterable := true }

/-- A field of the items of a list. -/
def field (category : Category) (listPath path label : String) : VariableInfo :=
  { category := category, path := path, label := label, itemOf := some listPath }

/-- A path between double braces. -/
def braced (path : String) : String := "\x7b\x7b" ++ path ++ "\x7d\x7d"

/-- What refers to a variable in a content string. -/
def token (v : VariableInfo) : String :=
  if v.iterable then braced ("loop:" ++ v.path) ++ "..." ++ braced "/loop" else braced v.path

/-- The list that a variable is an item field of. -/
def listPath? (v : VariableInfo) : Option String := v.itemOf.filter (· ≠ "")

end VariableInfo

/-- The variables of invoices by path, and the item fields of lists by list path. -/
structure Catalogue where
  entries : Entries VariableInfo := []
  itemFields : Entries (Entries VariableInfo) := []
deriving DecidableEq, Repr, Inhabited

namespace Catalogue

/-- Puts a description in. -/
def register (c : Catalogue) (v : VariableInfo) : Catalogue :=
  match v.listPath? with
  | some listPath =>
    let fields := (c.itemFields.get? listPath).getD []
    { c with itemFields := c.itemFields.set listPath (fields.set v.path v) }
  | none => { c with entries := c.entries.set v.path v }

/-- The catalogue of descriptions, put in from left to right. -/
def ofList (vs : List VariableInfo) : Catalogue := vs.foldl register {}

/-- The description of a variable. -/
def get? (c : Catalogue) (path : String) : Option VariableInfo := c.entries.get? path

/-- Whether there is a variable with a path. -/
def isKnown (c : Catalogue) (path : String) : Bool := c.entries.has path

/-- The item fields of a list. -/
def fieldsOf (c : Catalogue) (listPath : String) : List VariableInfo :=
  ((c.itemFields.get? listPath).getD []).values

/-- All variables. -/
def all (c : Catalogue) : List VariableInfo := c.entries.values

/-- The variables of a category. -/
def byCategory (c : Catalogue) (category : Category) : List VariableInfo :=
  c.all.filter (·.category = category)

/-- How many variables there are. -/
def count (c : Catalogue) : Nat := c.entries.length

/-- One variable in a listing. -/
def entryOf (v : VariableInfo) : Json := .object [
  ("path", .text v.path), ("label", .text v.label), ("token", .text v.token),
  ("iterable", .bool v.iterable)]

/-- One item field in a listing. -/
def itemEntryOf (v : VariableInfo) : Json := .object [
  ("path", .text v.path), ("label", .text v.label), ("token", .text (VariableInfo.braced v.path)),
  ("item_of", .ofText? v.itemOf)]

/-- The list whose items are products. -/
def productList : String := "order.products"

/-- What a listing shows in a category: for products the fields of the product list. -/
def listedIn (c : Catalogue) (category : Category) : List Json :=
  if category = .product then (c.fieldsOf productList).map itemEntryOf
  else (c.byCategory category).map entryOf

/-- A category in a listing. -/
def categoryEntry (category : Category) (entries : List Json) : Json := .object [
  ("name", .text category.name), ("label", .text category.label), ("icon", .text category.icon),
  ("variables", .list entries)]

/-- The listing of a catalogue. Categories without entries are left out. -/
def toJson (c : Catalogue) : Json := .object [
  ("total_variables", .ofNat c.count),
  ("categories", .list (Category.all.filterMap fun category =>
    match c.listedIn category with
    | [] => none
    | entries => some (categoryEntry category entries)))]

end Catalogue

end InvoiceForms
