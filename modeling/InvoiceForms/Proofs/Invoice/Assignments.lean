import InvoiceForms.Invoice.Order
import InvoiceForms.Proofs.Record.Assignments
import InvoiceForms.Proofs.Template.Documents

/-!
# What templates, orders and invoices keep

Templates have no two sections of one type, the items of an order cost nothing negative together, and no
invoice is due before its date. All three hold of records that are let through, and until an assignment gives
a field a value that it can take but that spoils the whole.
-/

namespace InvoiceForms

open InvoiceForms.Calendar InvoiceForms.Number InvoiceForms.Record InvoiceForms.Results

/-- No two sections of a template have the same type. -/
def Template.TypesApart (t : Template) : Prop := (t.sections.map (·.type)).Nodup

/-- Sections that share a type spoil a template. -/
def Template.Spoils (_ : Template) (name : String) (v : Value) : Prop :=
  name = "sections" ∧ ∃ sections, Template.readSections v = .ok sections ∧
    ¬ (sections.map (·.type)).Nodup

/-- The subtotal of an order is not negative. -/
def Order.SubtotalKept (order : Order) : Prop := order.subtotal.lt (.zero false) = false

/-- Items that cost something negative together spoil an order. -/
def Order.Spoils (_ : Order) (name : String) (v : Value) : Prop :=
  name = "items" ∧ ∃ items, (Codec.list 1 LineItem.schema.codec).read v = .ok items ∧
    ((Double.sum (items.map LineItem.total)).roundPlaces 2).lt (.zero false) = true

/-- Decides whether an assignment spoils an order by reading the items. -/
instance (order : Order) (name : String) (v : Value) : Decidable (order.Spoils name v) :=
  decidable_of_iff (name = "items" ∧ ∃ items ∈ ((Codec.list 1 LineItem.schema.codec).read v).toOption,
    ((Double.sum (items.map LineItem.total)).roundPlaces 2).lt (.zero false) = true)
    (by simp [Order.Spoils, toOption_eq_some])

/-- An invoice is not due before its date. -/
def Invoice.DueInTime (invoice : Invoice) : Prop :=
  ∀ due, invoice.dueDate = some due → due.before invoice.invoiceDate = false

/-- A date behind the due date, or a due date before the date, spoils an invoice. -/
def Invoice.Spoils (invoice : Invoice) (name : String) (v : Value) : Prop :=
  (name = "invoice_date" ∧ ∃ day due, Codec.date.read v = .ok day ∧ invoice.dueDate = some due ∧
      due.before day = true) ∨
    (name = "due_date" ∧ ∃ due, (Codec.optional .date).read v = .ok (some due) ∧
      due.before invoice.invoiceDate = true)

theorem Template.guards_types : Template.schema.Guards Template.TypesApart Template.Spoils where
  reads := rfl
  free := rfl
  forbids := rfl
  assignable := by decide
  check_iff t := by
    rw [TypesApart, ← checked_eq_ok_iff, Schema.checked]
    split <;> simp [*, refuse]
  spoils_iff t name v kept := by
    constructor
    · rintro ⟨rfl, sections, read, shared⟩
      exact ⟨_, ⟨_, rfl, RecordField.make_read_eq_ok.mpr ⟨sections, read, rfl⟩⟩, shared⟩
    · rintro ⟨change, taken, broken⟩
      obtain ⟨f, isField, rfl, read⟩ := taken.exists_field
      simp only [Template.schema, List.mem_cons, List.not_mem_nil, or_false] at isField
      rcases isField with rfl | rfl | rfl | rfl | rfl | rfl
      all_goals obtain ⟨x, own, rfl⟩ := RecordField.make_read_eq_ok.mp read
      iterate 5 exact absurd kept broken
      exact ⟨rfl, x, own, broken⟩

theorem Order.guards_subtotal : Order.schema.Guards Order.SubtotalKept Order.Spoils where
  reads := rfl
  free := rfl
  forbids := rfl
  assignable := by decide
  check_iff order := by
    show order.checkSubtotal = .ok () ↔ _
    rw [checkSubtotal, SubtotalKept]
    split <;> simp [*]
  spoils_iff order name v kept := by
    constructor
    · rintro ⟨rfl, items, read, negative⟩
      refine ⟨_, ⟨_, rfl, RecordField.make_read_eq_ok.mpr ⟨items, read, rfl⟩⟩, fun still => ?_⟩
      exact Bool.false_ne_true (still.symm.trans negative)
    · rintro ⟨change, taken, broken⟩
      obtain ⟨f, isField, rfl, read⟩ := taken.exists_field
      simp only [Order.schema, List.mem_cons, List.not_mem_nil, or_false] at isField
      rcases isField with rfl | rfl | rfl | rfl | rfl
      all_goals obtain ⟨x, own, rfl⟩ := RecordField.make_read_eq_ok.mp read
      case inr.inr.inl => exact ⟨rfl, x, own, eq_true_of_ne_false broken⟩
      all_goals exact absurd kept broken

theorem Invoice.guards_dueDate : Invoice.schema.Guards Invoice.DueInTime Invoice.Spoils where
  reads := rfl
  free := rfl
  forbids := rfl
  assignable := by decide
  check_iff invoice := by
    show invoice.checkDueDate = .ok () ↔ _
    rw [checkDueDate, DueInTime]
    cases invoice.dueDate <;> simp
  spoils_iff invoice name v kept := by
    constructor
    · rintro (⟨rfl, day, due, read, given, early⟩ | ⟨rfl, due, read, early⟩)
      · refine ⟨_, ⟨_, rfl, RecordField.make_read_eq_ok.mpr ⟨day, read, rfl⟩⟩, fun still => ?_⟩
        exact Bool.false_ne_true ((still due given).symm.trans early)
      · refine ⟨_, ⟨_, rfl, RecordField.make_read_eq_ok.mpr ⟨some due, read, rfl⟩⟩, fun still => ?_⟩
        exact Bool.false_ne_true ((still due rfl).symm.trans early)
    · rintro ⟨change, taken, broken⟩
      obtain ⟨f, isField, rfl, read⟩ := taken.exists_field
      obtain ⟨due, violated⟩ := not_forall.mp broken
      obtain ⟨given, early⟩ := Classical.not_imp.mp violated
      simp only [Invoice.schema, List.mem_cons, List.not_mem_nil, or_false] at isField
      rcases isField with rfl | rfl | rfl | rfl | rfl | rfl | rfl | rfl
      all_goals obtain ⟨x, own, rfl⟩ := RecordField.make_read_eq_ok.mp read
      case inr.inl => exact .inl ⟨rfl, x, due, own, given, eq_true_of_ne_false early⟩
      case inr.inr.inl =>
        cases given
        exact .inr ⟨rfl, due, own, eq_true_of_ne_false early⟩
      all_goals exact absurd (kept due given) early

/-- Templates, orders and invoices that are let through keep what the check of the whole is for along a run
of assignments, and lose nothing by those that are refused, exactly when none of the assignments spoils it. -/
theorem invariants_survive_iff (data : Value) (edits : List (String × Value)) :
    (∀ t, Template.schema.validate data = .ok t →
        Template.schema.Safeguards Template.TypesApart Template.Spoils t edits) ∧
      (∀ order, Order.schema.validate data = .ok order →
        Order.schema.Safeguards Order.SubtotalKept Order.Spoils order edits) ∧
      ∀ invoice, Invoice.schema.validate data = .ok invoice →
        Invoice.schema.Safeguards Invoice.DueInTime Invoice.Spoils invoice edits :=
  ⟨fun _ given => Template.guards_types.safeguards given edits,
    fun _ given => Order.guards_subtotal.safeguards given edits,
    fun _ given => Invoice.guards_dueDate.safeguards given edits⟩

/-- A run of assignments that keeps the subtotal: a voucher costs less than nothing, but not together with
the rose, an item without a price is refused by its field and leaves no trace, and the new number is taken. -/
theorem voucher_kept :
    let ordered : Date := ⟨2025, 1, 10, by decide, by decide, by decide, by decide⟩
    let order : Order :=
      { number := "O-1", orderDate := ordered, items := [{ name := "Rose", unitPrice := .ofInt 3 }] }
    let edits : List (String × Value) :=
      [("items", .list [.mapping [("name", .text "Rose"), ("unit_price", .int 3)],
          .mapping [("name", .text "Voucher"), ("unit_price", .int (-1))]]),
        ("items", .list [.mapping [("name", .text "Rose")]]),
        ("number", .text "O-2")]
    Order.schema.validate (.mapping [("number", .text "O-1"), ("orderDate", .text "2025-01-10"),
        ("items", .list [.mapping [("name", .text "Rose"), ("unitPrice", .int 3)]])]) = .ok order ∧
      (Order.schema.steps ⟨order, []⟩ edits).map (fun step =>
        (step.outcome.refusal.isSome, step.after.record.number, step.after.record.subtotal)) =
          [(false, "O-1", .ofInt 2), (true, "O-1", .ofInt 2), (false, "O-2", .ofInt 2)] ∧
      Order.schema.Survives Order.SubtotalKept ⟨order, []⟩ edits := by
  intro ordered order edits
  have given : Order.schema.validate (.mapping [("number", .text "O-1"), ("orderDate", .text "2025-01-10"),
      ("items", .list [.mapping [("name", .text "Rose"), ("unitPrice", .int 3)]])]) = .ok order := by
    decide +kernel
  have safeguards := (invariants_survive_iff _ edits).2.1 order given
  exact ⟨given, by decide +kernel, safeguards.survives_iff.mpr (by decide +kernel)⟩

/-- Items that cost something negative are refused and stay in the order. A new number is refused after them,
and stays as well. -/
theorem negative_items_stay :
    let ordered : Date := ⟨2025, 1, 10, by decide, by decide, by decide, by decide⟩
    let order : Order :=
      { number := "O-1", orderDate := ordered, items := [{ name := "Rose", unitPrice := .ofInt 3 }] }
    let edits : List (String × Value) :=
      [("items", .list [.mapping [("name", .text "Rose"), ("unit_price", .int (-5))]]),
        ("number", .text "O-2")]
    Order.schema.validate (.mapping [("number", .text "O-1"), ("orderDate", .text "2025-01-10"),
        ("items", .list [.mapping [("name", .text "Rose"), ("unitPrice", .int 3)]])]) = .ok order ∧
      (Order.schema.steps ⟨order, []⟩ edits).map (fun step =>
        (step.outcome.refusal.isSome, step.after.record.number, step.after.record.subtotal)) =
          [(true, "O-1", .ofInt (-5)), (true, "O-2", .ofInt (-5))] ∧
      ¬ Order.schema.Survives Order.SubtotalKept ⟨order, []⟩ edits := by
  intro ordered order edits
  have shown : (Order.schema.steps ⟨order, []⟩ edits).map (fun step =>
      (step.outcome.refusal.isSome, step.after.record.number, step.after.record.subtotal)) =
        [(true, "O-1", .ofInt (-5)), (true, "O-2", .ofInt (-5))] := by decide +kernel
  refine ⟨by decide +kernel, shown, fun survives => ?_⟩
  obtain ⟨step, inside, same⟩ := List.mem_map.mp (shown.symm ▸ List.mem_cons_self)
  have negative : step.after.record.subtotal = .ofInt (-5) := congrArg (fun facts => facts.2.2) same
  have kept : step.after.record.subtotal.lt (.zero false) = false := (survives step inside).1
  rw [negative] at kept
  exact absurd kept (by decide +kernel)

end InvoiceForms
