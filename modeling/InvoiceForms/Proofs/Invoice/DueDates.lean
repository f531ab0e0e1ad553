import InvoiceForms.Invoice.Facts
import InvoiceForms.Proofs.Calendar.Ordinals
import InvoiceForms.Proofs.Record.Records

/-!
# Due dates

A company may grant any number of days, so that the day on which an invoice falls due need not be in the
calendar, and the number need not be short enough to be written out. For companies and invoices that their
schemas let through, these are the only reasons why there is no context (`Context.ofInvoice_gives_due_date`).
-/

namespace InvoiceForms

open InvoiceForms.Calendar InvoiceForms.Record InvoiceForms.Results

/-- What is held to be at least zero is. -/
theorem Record.Bounds.nonneg_of_checkInt {n m : Int} (passed : Bounds.nonNegative.checkInt n = .ok m) :
    0 ≤ m := by
  unfold Bounds.checkInt at passed
  split at passed
  · cases passed
  · next unbroken =>
    cases passed
    by_contra negative
    have broken : decide (((0 : Nat) : Int) ≤ n) = false := decide_eq_false negative
    simp only [Bounds.broken?, Bounds.nonNegative, Option.filter, broken] at unbroken
    cases unbroken

/-- A company that is let through grants no negative number of days. -/
theorem Company.paymentTermsDays_nonneg {v : Value} {company : Company}
    (given : Company.schema.validate v = .ok company) : 0 ≤ company.paymentTermsDays := by
  obtain ⟨entries, read⟩ := Schema.exists_readEntries given
  obtain ⟨fresh, taken, extra, -⟩ := Schema.readEntries_eq_ok.mp read
  obtain rfl : fresh = company := congrArg Prod.fst extra
  refine Schema.preserved_of_readFields (p := fun c => 0 ≤ c.paymentTermsDays) ?_ taken (by decide)
  simp only [Company.schema, List.forall_mem_cons, List.not_mem_nil, false_implies, implies_true, and_true]
  and_intros
  all_goals
    intro v change c read held
    obtain ⟨x, own, rfl⟩ := RecordField.make_read_eq_ok.mp read
  iterate 7 exact held
  obtain ⟨n, -, passed⟩ := bind_eq_ok.mp own
  exact Bounds.nonneg_of_checkInt passed

/-- An invoice that is let through has no due date before its own. -/
theorem Invoice.checkDueDate_of_validate {v : Value} {invoice : Invoice}
    (given : Invoice.schema.validate v = .ok invoice) : invoice.checkDueDate = .ok () :=
  Schema.check_of_validate given

/-- The day on which an invoice falls due: the given one, or the one that comes so many days after the date
of the invoice as the company grants, counted day by day. -/
def Invoice.FallsDue (company : Company) (invoice : Invoice) (due : Date) : Prop :=
  match invoice.dueDate with
  | some given => due = given
  | none => Date.later company.paymentTermsDays.toNat invoice.invoiceDate = some due

/-- The text of a date on an invoice. -/
def Invoice.dateText (invoice : Invoice) (d : Date) : String :=
  Format.date (invoice.dateStyle.getD (Format.defaultStyle invoice.language.tag)) invoice.language.tag d

/-- The calendar has the day on which an invoice falls due. -/
def Invoice.InCalendar (company : Company) (invoice : Invoice) : Prop :=
  invoice.dueDate = none →
    invoice.invoiceDate.ordinal + company.paymentTermsDays ≤ Date.last.ordinal

/-- The payment terms of an invoice name no number that is too long to be written out. -/
def Invoice.HasTerms (company : Company) (invoice : Invoice) : Prop :=
  presentText? invoice.paymentTerms = none → (Value.int company.paymentTermsDays).isWritable = true

/-- The number of days is bounded in two ways before days are added; no day is lost by that, since the
calendar ends earlier. -/
theorem dateAfter_eq_ok {d due : Date} {days : Int} (nonneg : 0 ≤ days) :
    dateAfter d days = .ok due ↔ Date.later days.toNat d = some due := by
  obtain ⟨n, rfl⟩ := Int.eq_ofNat_of_zero_le nonneg
  rw [Int.toNat_natCast]
  have beyond (many : Date.last.ordinal < n) : Date.later n d = none := by
    rw [← Option.not_isSome_iff_eq_none, Date.later_isSome_iff]
    omega
  have few : Date.last.ordinal < 999999999 := by decide
  unfold dateAfter
  split
  · rw [beyond (by omega)]
    exact iff_of_false nofun nofun
  · split
    · rw [beyond (by omega)]
      exact iff_of_false nofun nofun
    · rw [Date.addDays?_eq_later]
      cases Date.later n d with
      | some e => rw [Except.ok.injEq, Option.some.injEq]
      | none => exact iff_of_false nofun nofun

section Due

variable {company : Company} {invoice : Invoice}

theorem dueDate_eq_ok (nonneg : 0 ≤ company.paymentTermsDays) {due : Date} :
    dueDate company invoice = .ok due ↔ invoice.FallsDue company due := by
  unfold dueDate Invoice.FallsDue
  cases invoice.dueDate with
  | some given => rw [Except.ok.injEq, eq_comm]
  | none => exact dateAfter_eq_ok nonneg

theorem exists_fallsDue_iff (nonneg : 0 ≤ company.paymentTermsDays) :
    (∃ due, invoice.FallsDue company due) ↔ invoice.InCalendar company := by
  unfold Invoice.FallsDue Invoice.InCalendar
  cases invoice.dueDate with
  | some given => exact iff_of_true ⟨given, rfl⟩ nofun
  | none =>
    rw [← Option.isSome_iff_exists, Date.later_isSome_iff]
    constructor
    · intro within _
      omega
    · intro within
      have within := within rfl
      omega

/-- An invoice does not fall due before its date. -/
theorem not_before_of_fallsDue (checked : invoice.checkDueDate = .ok ()) {due : Date}
    (falls : invoice.FallsDue company due) : due.before invoice.invoiceDate = false := by
  unfold Invoice.FallsDue at falls
  unfold Invoice.checkDueDate at checked
  cases given : invoice.dueDate with
  | some own =>
    rw [given] at falls checked
    subst falls
    split at checked
    · cases checked
    · next notBefore => exact eq_false_of_ne_true notBefore
  | none =>
    rw [given] at falls
    rw [Bool.eq_false_iff, ne_eq, Date.before_iff, Date.ordinal_of_later falls]
    omega

theorem exists_paymentTerms_iff :
    (∃ terms, paymentTerms company invoice = .ok terms) ↔ invoice.HasTerms company := by
  unfold paymentTerms Invoice.HasTerms
  cases presentText? invoice.paymentTerms with
  | some terms => exact iff_of_true ⟨terms, rfl⟩ nofun
  | none =>
    by_cases short : (Value.int company.paymentTermsDays).isWritable = true
    · exact iff_of_true ⟨_, if_pos short⟩ fun _ => short
    · refine iff_of_false ?_ fun all => short (all rfl)
      rintro ⟨terms, made⟩
      dsimp only at made
      rw [if_neg short] at made
      cases made

end Due

namespace Context

/-- For every company and every invoice that their schemas let through, and every customer and every order.
There is a context exactly when the calendar has the day on which the invoice falls due, and the payment
terms need not write out a number of days that is too long. Its due date is then the given one, or the one
that comes so many days after the date of the invoice as the company grants; it is never before that date. -/
theorem ofInvoice_gives_due_date {companyData invoiceData : Value} {company : Company} {invoice : Invoice}
    (companyRead : Company.schema.validate companyData = .ok company)
    (invoiceRead : Invoice.schema.validate invoiceData = .ok invoice) (customer : Customer) (order : Order) :
    Gives (Context.ofInvoice company customer order invoice)
      (invoice.InCalendar company ∧ invoice.HasTerms company)
      fun ctx => ∃ due, invoice.FallsDue company due ∧ due.before invoice.invoiceDate = false ∧
        ctx.invoice.get? "dueDate" = some (.text (invoice.dateText due)) where
  exists_iff := by
    have nonneg := Company.paymentTermsDays_nonneg companyRead
    rw [← exists_fallsDue_iff nonneg, ← exists_paymentTerms_iff]
    constructor
    · rintro ⟨ctx, made⟩
      obtain ⟨due, falls, made⟩ := bind_eq_ok.mp made
      obtain ⟨terms, written, -⟩ := bind_eq_ok.mp made
      exact ⟨⟨due, (dueDate_eq_ok nonneg).mp (mapError_eq_ok.mp falls)⟩, terms, written⟩
    · rintro ⟨⟨due, falls⟩, terms, written⟩
      have found : (dueDate company invoice).mapError InvoiceFault.dueDate = .ok due :=
        mapError_eq_ok.mpr ((dueDate_eq_ok nonneg).mpr falls)
      exact ⟨_, bind_eq_ok.mpr ⟨due, found, bind_eq_ok.mpr ⟨terms, written, rfl⟩⟩⟩
  each ctx made := by
    have nonneg := Company.paymentTermsDays_nonneg companyRead
    obtain ⟨due, found, made⟩ := bind_eq_ok.mp made
    obtain ⟨terms, -, made⟩ := bind_eq_ok.mp made
    rw [return_eq_ok] at made
    have falls := (dueDate_eq_ok nonneg).mp (mapError_eq_ok.mp found)
    refine ⟨due, falls, not_before_of_fallsDue (Invoice.checkDueDate_of_validate invoiceRead) falls, ?_⟩
    rw [← made]
    rfl

/-- The data of a company that grants so many days. -/
def grantingData (days : Int) : Value := .mapping [("name", .text "Meadow"), ("paymentTermsDays", .int days)]

/-- The data of a customer. -/
def customerData : Value := .mapping [("name", .text "Maria")]

/-- The data of an order of one item. -/
def orderData : Value := .mapping [("number", .text "O-1"), ("orderDate", .text "2025-01-10"),
  ("items", .list [.mapping [("name", .text "Rose"), ("unitPrice", .int 3)]])]

/-- The data of an invoice without a due date of its own. -/
def openInvoiceData : Value := .mapping [("number", .text "R-1"), ("invoiceDate", .text "2025-01-15")]

/-- The customer, the order and the invoice that these data describe. -/
structure Ordered (customer : Customer) (order : Order) (invoice : Invoice) : Prop where
  customer : Customer.schema.validate customerData = .ok customer
  order : Order.schema.validate orderData = .ok order
  invoice : Invoice.schema.validate openInvoiceData = .ok invoice

/-- The day of the invoice. -/
def midJanuary : Date := ⟨2025, 1, 15, by decide, by decide, by decide, by decide⟩

theorem exists_ordered :
    ∃ customer order, Ordered customer order { number := "R-1", invoiceDate := midJanuary } := by
  let ordered : Date := ⟨2025, 1, 10, by decide, by decide, by decide, by decide⟩
  let rose : LineItem := { name := "Rose", unitPrice := .ofInt 3 }
  refine ⟨{ name := "Maria" }, { number := "O-1", orderDate := ordered, items := [rose] }, ?_, ?_, ?_⟩
  all_goals decide +kernel

/-- Thirty days after the fifteenth of January it is the fourteenth of February. -/
theorem thirty_days_gives_due_date :
    ∃ company customer order invoice, Company.schema.validate (grantingData 30) = .ok company ∧
      Ordered customer order invoice ∧ ∃ ctx, Context.ofInvoice company customer order invoice = .ok ctx ∧
        ctx.invoice.get? "dueDate" = some (.text "14.02.2025") := by
  obtain ⟨customer, order, ordered⟩ := exists_ordered
  have companyRead : Company.schema.validate (grantingData 30) =
      .ok { name := "Meadow", paymentTermsDays := 30 } := by decide
  have gives := ofInvoice_gives_due_date companyRead ordered.invoice customer order
  obtain ⟨ctx, made⟩ := gives.exists_iff.mpr ⟨fun _ => by decide, fun _ => by decide⟩
  obtain ⟨due, falls, -, shown⟩ := gives.each ctx made
  have day : due = ⟨2025, 2, 14, by decide, by decide, by decide, by decide⟩ :=
    Option.some.inj (falls.symm.trans (by decide))
  refine ⟨_, customer, order, _, companyRead, ordered, ctx, made, ?_⟩
  rw [shown, day]
  decide

/-- Three million days later the calendar is over. -/
theorem three_million_days_outside_calendar :
    ∃ company customer order invoice, Company.schema.validate (grantingData 3000000) = .ok company ∧
      Ordered customer order invoice ∧
      Context.ofInvoice company customer order invoice = .error (.dueDate .outsideCalendar) := by
  obtain ⟨customer, order, ordered⟩ := exists_ordered
  have companyRead : Company.schema.validate (grantingData 3000000) =
      .ok { name := "Meadow", paymentTermsDays := 3000000 } := by decide
  have beyond : dueDate { name := "Meadow", paymentTermsDays := 3000000 }
      { number := "R-1", invoiceDate := midJanuary } = .error .outsideCalendar := by decide
  refine ⟨_, customer, order, _, companyRead, ordered, ?_⟩
  unfold ofInvoice
  rw [beyond]
  rfl

end Context

end InvoiceForms
