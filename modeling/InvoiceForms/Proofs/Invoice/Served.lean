import Mathlib.Data.List.TakeDrop
import InvoiceForms.Catalogue.Standard
import InvoiceForms.Invoice.Sample
import InvoiceForms.Proofs.Content.Lookups
import InvoiceForms.Proofs.Content.Warnings
import InvoiceForms.Proofs.Json.Entries
import InvoiceForms.Proofs.Value.Shapes

/-!
# The catalogue and the context of an invoice

The catalogue says which variables there are, the context of an invoice says what they are. The two
are written apart from each other, and they agree: whatever the company, the customer, the order and
the invoice, the context has every variable that the catalogue describes, as a text, or as null where
an input that may be left out was left out; and it has every list, whose items have the fields that
the catalogue describes. So a variable of the catalogue is unresolved only where such an input is
missing.
-/

namespace InvoiceForms

open InvoiceForms.Number InvoiceForms.Record InvoiceForms.Results InvoiceForms.Text

namespace Value

/-- Values in which every item of a list passes a test, wherever the list stands. -/
inductive ListsHold (p : Value → Prop) : Value → Prop
  | null : ListsHold p null
  | leaf {v : Value} (leaf : v.isLeaf = true) : ListsHold p v
  | list {items : List Value} (passes : ∀ item ∈ items, p item)
      (within : ∀ item ∈ items, ListsHold p item) : ListsHold p (list items)
  | mapping {entries : Entries Value} (within : ∀ e ∈ entries, ListsHold p e.2) :
      ListsHold p (mapping entries)

namespace ListsHold

variable {p : Value → Prop} {v u : Value}

theorem select? (holds : ListsHold p v) {segment : List Char}
    (found : v.select? segment = .ok (some u)) : ListsHold p u := by
  cases holds with
  | null => cases found
  | leaf leaf =>
    rw [select?_of_isLeaf leaf] at found
    cases found
  | @list items _ within =>
    simp only [Value.select?, itemAt?] at found
    split at found
    · obtain ⟨n, -, there⟩ := map_eq_ok.mp found
      exact within u (List.mem_of_getElem? there)
    · cases found
  | @mapping entries within =>
    simp only [Value.select?, Except.ok.injEq] at found
    exact within _ (Entries.mem_of_get? found)

/-- Where lists hold what they should, they do so behind every path. -/
theorem walk? (holds : ListsHold p v) {segments : List (List Char)}
    (found : walk? segments v = .ok (some u)) : ListsHold p u := by
  induction segments generalizing v with
  | nil =>
    cases found
    exact holds
  | cons segment rest ih =>
    rw [Value.walk?] at found
    split at found
    · cases found
    · split at found
      · cases found
      · cases found
      · next next selected => exact ih (holds.select? selected) found

theorem lookup (holds : ListsHold p v) {path : String} (found : v.lookup path = .ok u) :
    ListsHold p u := by
  obtain ⟨there, walked, rfl⟩ := map_eq_ok.mp found
  cases there with
  | none => exact .null
  | some u => exact holds.walk? walked

/-- A loop is over a list, all of whose items pass the test. -/
theorem of_list {items : List Value} (holds : ListsHold p (Value.list items)) :
    ∀ item ∈ items, p item := by
  cases holds with
  | leaf leaf => cases leaf
  | list passes _ => exact passes

theorem ne_tuple {items : List Value} (holds : ListsHold p v) : v ≠ .tuple items := by
  rintro rfl
  cases holds with
  | leaf leaf => cases leaf

@[simp] theorem text (s : String) : ListsHold p (.text s) := .leaf rfl

@[simp] theorem bool (b : Bool) : ListsHold p (.bool b) := .leaf rfl

@[simp] theorem int (n : Int) : ListsHold p (.int n) := .leaf rfl

@[simp] theorem ofText? (s : Option String) : ListsHold p (Value.ofText? s) := by
  cases s
  · exact .null
  · exact .leaf rfl

@[simp] theorem mapping_iff {entries : Entries Value} :
    ListsHold p (.mapping entries) ↔ ∀ e ∈ entries, ListsHold p e.2 := by
  refine ⟨fun holds => ?_, .mapping⟩
  cases holds with
  | leaf leaf => cases leaf
  | mapping within => exact within

end ListsHold

end Value

namespace Context

/-- Contexts in which every item of a list passes a test. -/
structure ListsHold (p : Value → Prop) (ctx : Context) : Prop where
  company : (Value.mapping ctx.company).ListsHold p
  customer : (Value.mapping ctx.customer).ListsHold p
  invoice : (Value.mapping ctx.invoice).ListsHold p
  order : (Value.mapping ctx.order).ListsHold p
  totals : (Value.mapping ctx.totals).ListsHold p
  legal : (Value.mapping ctx.legal).ListsHold p

namespace ListsHold

variable {p : Value → Prop} {ctx : Context}

theorem category? (holds : ctx.ListsHold p) {name : List Char} {entries : Entries Value}
    (found : ctx.category? name = some entries) : (Value.mapping entries).ListsHold p := by
  rw [Context.category?] at found
  split at found <;> cases found
  · exact holds.company
  · exact holds.customer
  · exact holds.invoice
  · exact holds.order
  · exact holds.totals
  · exact holds.legal

theorem lookup (holds : ctx.ListsHold p) {path : String} {v : Value}
    (found : ctx.lookup path = .ok v) : v.ListsHold p := by
  simp only [Context.lookup] at found
  split at found
  · cases found
    exact .null
  · next entries known =>
    have category := holds.category? known
    split at found
    · cases found
      exact category
    · exact category.lookup found

end ListsHold

end Context

/-- The inputs that may be left out and are variables themselves, by the path of the variable. -/
def optionalInputs (company : Company) (customer : Customer) : Entries (Option String) := [
  ("company.address.street", company.address.street),
  ("company.address.postalCode", company.address.postalCode),
  ("company.address.city", company.address.city),
  ("company.address.country", company.address.country),
  ("company.contact.phone", company.contact.phone),
  ("company.contact.email", company.contact.email),
  ("company.contact.website", company.contact.website),
  ("company.taxInfo.taxNumber", company.taxInfo.taxNumber),
  ("company.taxInfo.vatId", company.taxInfo.vatId),
  ("company.taxInfo.ceo", company.taxInfo.ceo),
  ("company.taxInfo.legalForm", company.taxInfo.legalForm),
  ("company.taxInfo.taxOffice", company.taxInfo.taxOffice),
  ("company.taxInfo.registrationCourt", company.taxInfo.registrationCourt),
  ("company.bankDetails.bankName", company.bankDetails.bankName),
  ("company.bankDetails.iban", company.bankDetails.iban),
  ("company.bankDetails.bic", company.bankDetails.bic),
  ("company.logo.url", company.logo.url),
  ("customer.businessName", customer.businessName),
  ("customer.email", customer.email),
  ("customer.phone", customer.phone),
  ("customer.customerNumber", customer.customerNumber),
  ("customer.address.street", customer.address.street),
  ("customer.address.postalCode", customer.address.postalCode),
  ("customer.address.city", customer.address.city),
  ("customer.address.country", customer.address.country)]

/-- An optional text as data is that text, or null. -/
theorem ofJson_dump_optionalText (most : Nat) (naming : Naming) (s : Option String) :
    Value.ofJson ((optionalText most).dump naming s) = Value.ofText? s := by
  cases s <;> rfl

/-- What variables see of an address. -/
def Address.data (a : Address) : Value := .mapping [
  ("street", .ofText? a.street), ("postalCode", .ofText? a.postalCode), ("city", .ofText? a.city),
  ("country", .ofText? a.country)]

theorem Address.ofJson_dump (a : Address) :
    Value.ofJson (Address.schema.dump .keys a) = a.data := by
  simp only [Address.data, ← ofJson_dump_optionalText 0 .keys]
  rfl

/-- What variables see of a company. -/
theorem documentData_company (c : Company) : documentData Company.schema c = [
    ("name", .text c.name), ("address", c.address.data),
    ("contact", .mapping [("phone", .ofText? c.contact.phone), ("email", .ofText? c.contact.email),
      ("website", .ofText? c.contact.website)]),
    ("taxInfo", .mapping [("taxNumber", .ofText? c.taxInfo.taxNumber),
      ("vatId", .ofText? c.taxInfo.vatId), ("ceo", .ofText? c.taxInfo.ceo),
      ("legalForm", .ofText? c.taxInfo.legalForm), ("taxOffice", .ofText? c.taxInfo.taxOffice),
      ("registrationCourt", .ofText? c.taxInfo.registrationCourt)]),
    ("bankDetails", .mapping [("bankName", .ofText? c.bankDetails.bankName),
      ("iban", .ofText? c.bankDetails.iban), ("bic", .ofText? c.bankDetails.bic)]),
    ("logo", .mapping [("enabled", .bool c.logo.enabled), ("url", .ofText? c.logo.url),
      ("width", .int c.logo.width), ("height", .int c.logo.height)]),
    ("smallBusiness", .bool c.smallBusiness), ("paymentTermsDays", .int c.paymentTermsDays)] := by
  simp only [← Address.ofJson_dump, ← ofJson_dump_optionalText 0 .keys]
  rfl

/-- What variables see of a customer. -/
theorem documentData_customer (c : Customer) : documentData Customer.schema c = [
    ("name", .text c.name), ("businessName", .ofText? c.businessName),
    ("email", .ofText? c.email), ("phone", .ofText? c.phone),
    ("customerNumber", .ofText? c.customerNumber), ("address", c.address.data)] := by
  simp only [← Address.ofJson_dump, ← ofJson_dump_optionalText 0 .keys]
  rfl

namespace Catalogue

variable {vs : List VariableInfo} {v : VariableInfo}

theorem mem_entries_foldl {c : Catalogue} {e : String × VariableInfo}
    (member : e ∈ (vs.foldl register c).entries) :
    e ∈ c.entries ∨ e.2 ∈ vs ∧ e.2.path = e.1 ∧ e.2.listPath? = none := by
  induction vs generalizing c with
  | nil => exact .inl member
  | cons first vs ih =>
    rcases ih member with before | ⟨later, own, single⟩
    · unfold register at before
      split at before
      · exact .inl before
      · next single =>
        rcases Entries.mem_set before with rfl | before
        · exact .inr ⟨List.mem_cons_self, rfl, single⟩
        · exact .inl before
    · exact .inr ⟨List.mem_cons_of_mem _ later, own, single⟩

/-- A catalogue describes a variable under its own path, and no fields of items among the variables. -/
theorem get?_ofList {path : String} (described : (ofList vs).get? path = some v) :
    v ∈ vs ∧ v.path = path ∧ v.listPath? = none :=
  (mem_entries_foldl (Entries.mem_of_get? described)).resolve_left List.not_mem_nil

end Catalogue

namespace Context

variable {ctx : Context}

/-- A context serves a catalogue when it has every variable that the catalogue describes: a single one
as a text, or as null if it is absent, and a list with items that have the described fields and no
other. Rendering a single variable warns only when it is absent. -/
structure Serves (ctx : Context) (catalogue : Catalogue) (absent : String → Prop) : Prop where
  single : ∀ {path : String} {v : VariableInfo}, catalogue.get? path = some v →
    v.iterable = false →
    (∃ s, ctx.toMapping.lookup? path = .ok (some (.text s)) ∧
      resolve ctx.lookup path = .ok ⟨s, []⟩ ∧ ¬ absent path) ∨
    (ctx.toMapping.lookup? path = .ok (some .null) ∧
      resolve ctx.lookup path = .ok ⟨"", [.unresolved path]⟩ ∧ absent path)
  list : ∀ {path : String} {v : VariableInfo}, catalogue.get? path = some v →
    v.iterable = true →
    ∃ items, ctx.toMapping.lookup? path = .ok (some (.list items)) ∧
      ∀ item ∈ items, ∃ entries, item = .mapping entries ∧
        Entries.keys entries = (catalogue.fieldsOf path).map (·.path) ∧
        ∀ e ∈ entries, e.2 ≠ .null
  unresolved : ∀ {path : String} {v : VariableInfo}, catalogue.get? path = some v →
    v.iterable = false → ∀ {content : String} {e : Expansion},
    Expansion.ofContent ctx.lookup content = .ok e → Warning.unresolved path ∈ e.warnings →
    absent path

variable {company : Company} {customer : Customer} {order : Order} {invoice : Invoice}

/-- Whether a context has an optional text at a path, and has none only because an input was left
out. -/
def HasInput (ctx : Context) (company : Company) (customer : Customer) (path : String) : Prop :=
  ∃ s, ctx.toMapping.lookup? path = .ok (some (.ofText? s)) ∧
    ((optionalInputs company customer).get? path = some none ↔ s = none)

theorem HasInput.ofOptional {path : String} {s : Option String}
    (input : (optionalInputs company customer).get? path = some s)
    (found : ctx.toMapping.lookup? path = .ok (some (.ofText? s))) :
    ctx.HasInput company customer path :=
  ⟨s, found, by rw [input, Option.some_inj]⟩

theorem HasInput.ofText {path s : String}
    (input : path ∉ Entries.keys (optionalInputs company customer))
    (found : ctx.toMapping.lookup? path = .ok (some (.text s))) :
    ctx.HasInput company customer path :=
  ⟨some s, found, by rw [Entries.get?_eq_none_iff.mpr input]; simp⟩

/-- Every single variable of the standard catalogue is an optional input or a text. Each of them is
looked up: there is no rule that the paths follow. -/
theorem hasInput_of_mem (made : Context.ofInvoice company customer order invoice = .ok ctx) :
    ∀ v ∈ Catalogue.standardVariables, v.itemOf = none → v.iterable = false →
      ctx.HasInput company customer v.path := by
  obtain ⟨due, -, made⟩ := bind_eq_ok.mp made
  obtain ⟨terms, -, made⟩ := bind_eq_ok.mp made
  rw [return_eq_ok, documentData_company, documentData_customer] at made
  subst made
  simp only [Catalogue.standardVariables, List.forall_mem_cons]
  and_intros
  all_goals first
    | exact fun notItem _ => absurd notItem (Option.some_ne_none _)
    | exact fun _ notList => absurd notList (by decide)
    | exact fun _ none => absurd none List.not_mem_nil
    | exact fun _ _ => .ofText (by simp [optionalInputs, Entries.keys, VariableInfo.scalar])
        (Value.lookup?_of_spelled rfl rfl)
    | exact fun _ _ => .ofOptional rfl (Value.lookup?_of_spelled rfl rfl)

/-- The variables of the standard catalogue are described under their own paths, apart from the fields
of items. -/
theorem standard_get? {path : String} {v : VariableInfo}
    (described : Catalogue.standard.get? path = some v) :
    v ∈ Catalogue.standardVariables ∧ v.itemOf = none ∧ v.path = path := by
  obtain ⟨member, own, single⟩ := Catalogue.get?_ofList described
  have named : ∀ v ∈ Catalogue.standardVariables, v.itemOf ≠ some "" := by decide
  refine ⟨member, ?_, own⟩
  cases item : v.itemOf with
  | none => rfl
  | some list =>
    have empty : list = "" := by simpa [VariableInfo.listPath?, item] using single
    exact absurd (item.trans (congrArg some empty)) (named v member)

/-- Whether an item of a list is a mapping with certain fields, all of them leaves. -/
def FieldsAre (fields : List String) (item : Value) : Prop :=
  ∃ entries, item = .mapping entries ∧ Entries.keys entries = fields ∧
    ∀ e ∈ entries, e.2.isLeaf = true

/-- The fields of the items of a list that the standard catalogue describes. -/
def standardFields (path : String) : List String := (Catalogue.standard.fieldsOf path).map (·.path)

theorem standardFields_products : standardFields "order.products" =
    ["position", "name", "description", "quantity", "unit", "unitPrice", "total"] := by decide

theorem standardFields_notices : standardFields "legal.notices" = ["text"] := by decide

theorem fieldsAre_of_mem_productEntries {money : Double → String} {position : Nat}
    {items : List LineItem} {item : Value} (member : item ∈ productEntries money position items) :
    FieldsAre (standardFields "order.products") item := by
  rw [standardFields_products]
  induction items generalizing position with
  | nil => cases member
  | cons first items ih =>
    rcases List.mem_cons.mp member with rfl | later
    · refine ⟨_, rfl, rfl, ?_⟩
      simp [Value.isLeaf, Value.ofNat]
    · exact ih later

theorem fieldsAre_of_mem_notices {notices : List String} {item : Value}
    (member : item ∈ notices.map fun s => Value.mapping [("text", .text s)]) :
    FieldsAre (standardFields "legal.notices") item := by
  obtain ⟨s, -, rfl⟩ := List.mem_map.mp member
  exact ⟨_, rfl, standardFields_notices.symm, by simp [Value.isLeaf]⟩

/-- The lists of the standard catalogue are there, and their items have the fields described. -/
theorem hasList (made : Context.ofInvoice company customer order invoice = .ok ctx) {path : String}
    (list : path = "order.products" ∨ path = "legal.notices") :
    ∃ items, ctx.toMapping.lookup? path = .ok (some (.list items)) ∧
      ∀ item ∈ items, FieldsAre (standardFields path) item := by
  obtain ⟨due, -, made⟩ := bind_eq_ok.mp made
  obtain ⟨terms, -, made⟩ := bind_eq_ok.mp made
  rw [return_eq_ok] at made
  subst made
  rcases list with rfl | rfl
  · exact ⟨_, rfl, fun item member => fieldsAre_of_mem_productEntries member⟩
  · exact ⟨_, rfl, fun item member => fieldsAre_of_mem_notices member⟩

/-- An item of one of the two lists. -/
def IsItem (item : Value) : Prop :=
  FieldsAre (standardFields "order.products") item ∨ FieldsAre (standardFields "legal.notices") item

theorem FieldsAre.listsHold {p : Value → Prop} {fields : List String} {item : Value}
    (are : FieldsAre fields item) : item.ListsHold p := by
  obtain ⟨entries, rfl, -, leaves⟩ := are
  exact .mapping fun e member => .leaf (leaves e member)

/-- There are no other lists in the context of an invoice. -/
theorem listsHold_of_ofInvoice (made : Context.ofInvoice company customer order invoice = .ok ctx) :
    ctx.ListsHold IsItem := by
  obtain ⟨due, -, made⟩ := bind_eq_ok.mp made
  obtain ⟨terms, -, made⟩ := bind_eq_ok.mp made
  rw [return_eq_ok, documentData_company, documentData_customer] at made
  subst made
  have products {money : Double → String} {items : List LineItem} :
      (Value.list (productEntries money 1 items)).ListsHold IsItem :=
    .list (fun _ member => .inl (fieldsAre_of_mem_productEntries member))
      fun _ member => (fieldsAre_of_mem_productEntries member).listsHold
  have notices {notices : List String} :
      (Value.list (notices.map fun s => .mapping [("text", .text s)])).ListsHold IsItem :=
    .list (fun _ member => .inr (fieldsAre_of_mem_notices member))
      fun _ member => (fieldsAre_of_mem_notices member).listsHold
  constructor <;> simp [Address.data, products, notices]

/-- An item has nothing where the context has something: no category is a field of items. -/
theorem lookup_of_isItem {item v : Value} (isItem : IsItem item) {path : String}
    (there : ctx.toMapping.lookup? path = .ok (some v)) : item.lookup path = .ok .null := by
  have category := Value.mem_keys_of_lookup? there
  simp only [IsItem, standardFields_products, standardFields_notices] at isItem
  rcases isItem with ⟨entries, rfl, fields, -⟩ | ⟨entries, rfl, fields, -⟩
  all_goals
    refine Value.lookup_of_not_mem_keys fun field => ?_
    rw [fields] at field
    generalize String.ofList (pieces '.' path.toList).1 = name at category field
    simp only [Entries.keys, List.map_cons, List.map_nil, List.mem_cons, List.not_mem_nil,
      or_false] at category field
    rcases category with rfl | rfl | rfl | rfl | rfl | rfl <;> simp at field

/-- An item of a list that a loop is over is one of the two kinds. -/
theorem isItem_of_mem (made : Context.ofInvoice company customer order invoice = .ok ctx)
    {loop : String} {items : List Value}
    (list : ctx.lookup loop = .ok (.list items) ∨ ctx.lookup loop = .ok (.tuple items)) {item : Value}
    (member : item ∈ items) : IsItem item := by
  have holds := listsHold_of_ofInvoice made
  rcases list with found | found
  · exact (holds.lookup found).of_list item member
  · exact absurd rfl (holds.lookup found).ne_tuple

/-- A single variable that an expansion warns of is an input that was left out: an item of a loop has
no such variable, so it was looked up in the context. -/
theorem absent_of_unresolved (made : Context.ofInvoice company customer order invoice = .ok ctx)
    {path : String} {v : VariableInfo} (described : Catalogue.standard.get? path = some v)
    (notList : v.iterable = false) {w : Warning} (arises : w.Arises ctx.lookup)
    (same : w = .unresolved path) :
    (optionalInputs company customer).get? path = some none := by
  obtain ⟨member, notItem, rfl⟩ := standard_get? described
  obtain ⟨s, there, input⟩ := hasInput_of_mem made v member notItem notList
  cases arises with
  | @looked path value found textless =>
    obtain rfl : path = v.path := congrArg Warning.path same
    rw [lookup_of_lookup? there, Except.ok.injEq] at found
    subst found
    cases s with
    | none => exact input.mpr rfl
    | some s => cases textless
  | @item loop path items item value list inside found present textless =>
    obtain rfl : path = v.path := congrArg Warning.path same
    rw [lookup_of_isItem (isItem_of_mem made list inside) there] at found
    cases found
    exact absurd rfl present
  | number =>
    rw [← show Token.itemNumber = v.path from congrArg Warning.path same] at there
    have category := Value.mem_keys_of_lookup? there
    simp [Token.itemNumber, pieces, Entries.keys] at category
  | invalidLoopTarget | nestedLoop | unclosedLoop | strayCloser | ignoredLoop =>
    simp [Warning.unresolved, Warning.invalidLoopTarget, Warning.nestedLoop, Warning.unclosedLoop,
      Warning.strayCloser, Warning.ignoredLoop] at same

/-- The context of an invoice serves the standard catalogue. A variable is absent when the input that
it stands for may be left out and was. -/
theorem ofInvoice_serves_standard
    (made : Context.ofInvoice company customer order invoice = .ok ctx) :
    ctx.Serves .standard fun path => (optionalInputs company customer).get? path = some none where
  single := by
    intro path v described notList
    obtain ⟨member, notItem, rfl⟩ := standard_get? described
    obtain ⟨s, there, input⟩ := hasInput_of_mem made v member notItem notList
    rw [input]
    have found := lookup_of_lookup? there
    cases s with
    | none => exact .inr ⟨there, by rw [resolve, found]; rfl, rfl⟩
    | some s => exact .inl ⟨s, there, by rw [resolve, found]; rfl, nofun⟩
  list := by
    intro path v described isList
    obtain ⟨member, -, rfl⟩ := standard_get? described
    have lists : ∀ v ∈ Catalogue.standardVariables, v.iterable = true →
        v.path = "order.products" ∨ v.path = "legal.notices" := by decide
    obtain ⟨items, there, each⟩ := hasList made (lists v member isList)
    refine ⟨items, there, fun item inside => ?_⟩
    obtain ⟨entries, rfl, keys, leaves⟩ := each item inside
    refine ⟨entries, rfl, keys, fun e within null => ?_⟩
    have leaf := leaves e within
    rw [null] at leaf
    cases leaf
  unresolved := by
    intro path v described notList content e given warned
    exact absent_of_unresolved made described notList
      (Expansion.arises_of_mem_warnings given warned) rfl

/-- The context of the sample company, customer and order serves the standard catalogue. -/
theorem sample_serves_standard :
    let invoice : Invoice := { number := "RE-1", invoiceDate := default, dueDate := some default }
    ∃ ctx, Context.ofInvoice Sample.company Sample.customer (Sample.order default) invoice = .ok ctx ∧
      ctx.Serves .standard fun path =>
        (optionalInputs Sample.company Sample.customer).get? path = some none := by
  intro invoice
  obtain ⟨ctx, made⟩ : ∃ ctx, Context.ofInvoice Sample.company Sample.customer
      (Sample.order default) invoice = .ok ctx := ⟨_, rfl⟩
  exact ⟨ctx, made, ofInvoice_serves_standard made⟩

end Context

end InvoiceForms
