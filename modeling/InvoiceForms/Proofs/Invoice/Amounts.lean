import InvoiceForms.Proofs.Invoice.DueDates
import InvoiceForms.Proofs.Number.Places
import InvoiceForms.Proofs.Record.Records
import InvoiceForms.Proofs.Text.Digits

/-!
# Amounts of money

An amount is written as digits, a separator and two digits when it is finite and has no sign. For the net
amount of an order this is decided by the sum of its items before it is rounded: the check of the subtotal
lets through what is not finite, and what is negative but rounds to zero.
-/

namespace InvoiceForms

open InvoiceForms.Number InvoiceForms.Record InvoiceForms.Results InvoiceForms.Text

namespace Format

/-- The character between the whole part and the cents. -/
def separator : Language → Char
  | .de => ','
  | .en => '.'

/-- A plain amount: one or more digits, the separator of the language, two digits, and the currency. -/
def IsPlain (language : Language) (currency text : String) : Prop :=
  ∃ (whole : List Char) (tens ones : Char), whole ≠ [] ∧
    (∀ c ∈ whole ++ [tens, ones], isAsciiDigit c = true) ∧
    text = String.ofList (whole ++ [separator language, tens, ones]) ++ " " ++ currency

/-- Cents are two digits. -/
theorem exists_cents (n : Nat) (small : n < 100) : ∃ tens ones,
    List.replicate (2 - (Nat.toDigits 10 n).length) '0' ++ Nat.toDigits 10 n = [tens, ones] ∧
      ∀ c ∈ [tens, ones], isAsciiDigit c = true := by
  have length : ∀ n < 100,
      (List.replicate (2 - (Nat.toDigits 10 n).length) '0' ++ Nat.toDigits 10 n).length = 2 := by
    decide
  obtain ⟨tens, ones, chars⟩ := List.length_eq_two.mp (length n small)
  refine ⟨tens, ones, chars, fun c inside => ?_⟩
  rw [← chars, List.mem_append] at inside
  rcases inside with filled | digit
  · obtain rfl := List.eq_of_mem_replicate filled
    decide
  · exact isAsciiDigit_of_mem_toDigits digit

/-- A finite double with two places: its sign, digits, a point and two digits. -/
theorem exists_toFixed (s : Bool) (e : Fin 2047) (f : Fin 4503599627370496) :
    ∃ (whole : List Char) (tens ones : Char), whole ≠ [] ∧
      (∀ c ∈ whole ++ [tens, ones], isAsciiDigit c = true) ∧
      (Double.finite s e f).toFixed 2 =
        String.ofList (Double.signChars s ++ (whole ++ ['.', tens, ones])) := by
  generalize cents : roundDiv (Double.magnitudeOf e f * Nat.pow 10 2) Double.unitDenominator = m
  have small : m % Nat.pow 10 2 < 100 := Nat.mod_lt _ (by decide)
  obtain ⟨tens, ones, chars, digits⟩ := exists_cents _ small
  refine ⟨Nat.toDigits 10 (m / Nat.pow 10 2), tens, ones, Nat.toDigits_ne_nil, fun c inside => ?_, ?_⟩
  · rcases List.mem_append.mp inside with front | back
    · exact isAsciiDigit_of_mem_toDigits front
    · exact digits c back
  · rw [Double.toFixed, cents, chars, if_neg (by decide), List.append_assoc]

/-- Nothing but the point depends on the language. -/
theorem localized_ofList (language : Language) (cs : List Char) : localized language.tag (String.ofList cs) =
    String.ofList (cs.map fun c => if c = '.' then separator language else c) := by
  cases language with
  | de =>
    rw [localized, if_neg (by decide), String.toList_ofList]
    rfl
  | en =>
    have same : (fun c => if c = '.' then separator .en else c) = id := by
      funext c
      split
      · next point => exact point.symm
      · rfl
    rw [localized, if_pos (by rfl), same, List.map_id]

/-- What does not start with a digit is no plain amount. -/
theorem not_isPlain {language : Language} {currency : String} {c : Char} (cs : List Char)
    (other : isAsciiDigit c = false) :
    ¬ IsPlain language currency (String.ofList (c :: cs) ++ " " ++ currency) := by
  rintro ⟨whole, tens, ones, some, digits, same⟩
  have chars : c :: cs = whole ++ [separator language, tens, ones] := by
    have lists := congrArg String.toList same
    simp only [String.toList_append, String.toList_ofList] at lists
    exact List.append_cancel_right (List.append_cancel_right lists)
  cases whole with
  | nil => exact some rfl
  | cons d ds =>
    have digit := digits d List.mem_cons_self
    rw [← (List.cons.inj chars).1, other] at digit
    cases digit

/-- An amount is written plainly when it is finite and has no sign. -/
theorem currency_isPlain_iff (language : Language) (currency : String) (x : Double) :
    IsPlain language currency (Format.currency language.tag currency x) ↔
      x.isFinite = true ∧ x.isNegative = false := by
  unfold Format.currency
  cases x with
  | nan =>
    refine iff_of_false ?_ nofun
    rw [show Double.nan.toFixed 2 = String.ofList ['n', 'a', 'n'] from rfl, localized_ofList]
    exact not_isPlain _ rfl
  | infinity s =>
    refine iff_of_false ?_ nofun
    rw [Double.toFixed, localized_ofList]
    cases s <;> exact not_isPlain _ rfl
  | finite s e f =>
    obtain ⟨whole, tens, ones, some, digits, text⟩ := exists_toFixed s e f
    rw [text, localized_ofList]
    cases s with
    | true => exact iff_of_false (not_isPlain _ rfl) nofun
    | false =>
      refine iff_of_true ⟨whole, tens, ones, some, digits, ?_⟩ ⟨rfl, rfl⟩
      have kept (cs : List Char) (plain : ∀ c ∈ cs, isAsciiDigit c = true) :
          cs.map (fun c => if c = '.' then separator language else c) = cs := by
        refine (List.map_congr_left fun c inside => if_neg ?_).trans (List.map_id cs)
        rintro rfl
        exact absurd (plain _ inside) (by decide)
      have front := kept whole fun c inside => digits c (List.mem_append_left _ inside)
      have cents := kept [tens, ones] fun c inside => digits c (List.mem_append_right _ inside)
      rw [Double.signChars, if_neg Bool.false_ne_true, List.nil_append, List.map_append, front, List.map_cons,
        if_pos rfl, cents]

end Format

/-- What the items of an order cost together, before it is rounded to cents. -/
def Order.itemsTotal (order : Order) : Double := Double.sum (order.items.map LineItem.total)

theorem Order.isNegative_itemsTotal_iff (order : Order) :
    order.itemsTotal.isNegative = true ↔ order.itemsTotal.lt (.zero false) = true := by
  have other : order.itemsTotal ≠ .zero true := Double.sum_ne_zero _
  rw [Double.lt_zero_iff, and_iff_left other]

namespace Context

variable {data : Value} {company : Company} {customer : Customer} {order : Order} {invoice : Invoice}
  {ctx : Context} {text : String}

/-- The text under which a context shows the net amount. -/
structure ShowsNet (ctx : Context) (text : String) : Prop where
  net : ctx.totals.get? "net" = some (.text text)
  subtotal : ctx.order.get? "subtotal" = some (.text text)
  netTotal : ctx.order.get? "netTotal" = some (.text text)

theorem showsNet_of_ofInvoice (made : ofInvoice company customer order invoice = .ok ctx) :
    ctx.ShowsNet (Format.currency invoice.language.tag invoice.currency order.subtotal) := by
  obtain ⟨due, -, made⟩ := bind_eq_ok.mp made
  obtain ⟨terms, -, made⟩ := bind_eq_ok.mp made
  cases made
  exact ⟨rfl, rfl, rfl⟩

/-- What can be said of the net amount of an order that is let through, and of the text that shows it. -/
structure NetAmount (order : Order) (invoice : Invoice) (text : String) : Prop where
  notBelowZero : order.subtotal.lt (.zero false) = false
  finite_iff : order.subtotal.isFinite = true ↔ order.itemsTotal.isFinite = true
  plain_iff : Format.IsPlain invoice.language invoice.currency text ↔
    order.itemsTotal.isFinite = true ∧ order.itemsTotal.lt (.zero false) = false
  /-- What is not finite is no number, or infinite without a sign. -/
  infinite : order.itemsTotal.isFinite = false → order.subtotal = .nan ∨ order.subtotal = .infinity false
  /-- What is negative is rounded to the negative zero. -/
  negative : order.itemsTotal.lt (.zero false) = true → order.subtotal = .zero true

/-- The subtotal of an order that is let through is finite when the sum of its items is, and the net amount
is written plainly when that sum is finite and not negative. -/
theorem netAmount_of_validate (accepted : Order.schema.validate data = .ok order)
    (made : ofInvoice company customer order invoice = .ok ctx) :
    ∃ text, ctx.ShowsNet text ∧ NetAmount order invoice text := by
  have checked : order.checkSubtotal = .ok () := Schema.check_of_validate accepted
  have notBelowZero : order.subtotal.lt (.zero false) = false := by
    unfold Order.checkSubtotal at checked
    split at checked
    · cases checked
    · next other => exact eq_false_of_ne_true other
  have finite : order.subtotal.isFinite = order.itemsTotal.isFinite := Double.isFinite_roundPlaces _ _
  have sign : order.subtotal.isNegative = order.itemsTotal.isNegative := Double.isNegative_roundPlaces _ _
  refine ⟨_, showsNet_of_ofInvoice made, notBelowZero, by rw [finite], ?_, ?_, ?_⟩
  · rw [Format.currency_isPlain_iff, finite, sign]
    refine and_congr_right fun _ => ?_
    rw [← Bool.not_eq_true, ← Bool.not_eq_true, order.isNegative_itemsTotal_iff]
  · intro infinite
    rw [← finite] at infinite
    cases shown : order.subtotal with
    | nan => exact .inl rfl
    | infinity s =>
      rw [shown] at notBelowZero
      cases s with
      | false => exact .inr rfl
      | true => cases notBelowZero
    | finite s e f =>
      rw [shown] at infinite
      cases infinite
  · intro negative
    have signed := sign.trans (order.isNegative_itemsTotal_iff.mpr negative)
    by_contra other
    have below := (Double.lt_zero_iff _).mpr ⟨signed, other⟩
    rw [notBelowZero] at below
    cases below

/-- The data of an order of items with these prices. -/
def pricedData (prices : List Value) : Value := .mapping [
  ("number", .text "O-1"), ("orderDate", .text "2025-01-15"),
  ("items", .list (prices.map fun price => .mapping [("name", .text "Rose"), ("unitPrice", price)]))]

/-- The order of items with these prices. -/
def pricedOrder (prices : List Double) : Order where
  number := "O-1"
  orderDate := midJanuary
  items := prices.map fun price => { name := "Rose", unitPrice := price }

/-- An invoice that is due at once. -/
def dueAtOnce : Invoice where
  number := "R-1"
  invoiceDate := midJanuary
  dueDate := some midJanuary
  paymentTerms := some "sofort"

theorem exists_dueAtOnce (order : Order) :
    ∃ ctx, ofInvoice { name := "Meadow" } { name := "Maria" } order dueAtOnce = .ok ctx := ⟨_, rfl⟩

/-- Three euros are a plain amount. -/
theorem three_euros_plain :
    ∃ ctx text, Order.schema.validate (pricedData [.int 3]) = .ok (pricedOrder [.ofInt 3]) ∧
      ofInvoice { name := "Meadow" } { name := "Maria" } (pricedOrder [.ofInt 3]) dueAtOnce = .ok ctx ∧
      ctx.ShowsNet text ∧ Format.IsPlain .de "EUR" text := by
  have accepted : Order.schema.validate (pricedData [.int 3]) = .ok (pricedOrder [.ofInt 3]) := by
    decide +kernel
  obtain ⟨ctx, made⟩ := exists_dueAtOnce (pricedOrder [.ofInt 3])
  obtain ⟨text, shows, amount⟩ := netAmount_of_validate accepted made
  exact ⟨ctx, text, accepted, made, shows, amount.plain_iff.mpr ⟨by decide +kernel, by decide +kernel⟩⟩

/-- Thirty cents less ten and less twenty are a little below zero, and are shown with a sign. An item of
infinite price makes an infinite subtotal. -/
theorem goodwill_not_plain :
    let tenths (negative : Bool) (n : Nat) : Double := .ofDecimal negative n (-1)
    let goodwill := [tenths false 3, tenths true 1, tenths true 2]
    (Order.schema.validate (pricedData (goodwill.map .float)) = .ok (pricedOrder goodwill) ∧
      (∃ ctx, ofInvoice { name := "Meadow" } { name := "Maria" } (pricedOrder goodwill) dueAtOnce = .ok ctx ∧
        ctx.ShowsNet "-0,00 EUR") ∧ ¬ Format.IsPlain .de "EUR" "-0,00 EUR") ∧
    Order.schema.validate (pricedData [.text "inf"]) = .ok (pricedOrder [.infinity false]) ∧
      (pricedOrder [.infinity false]).subtotal = .infinity false := by
  intro tenths goodwill
  obtain ⟨ctx, made⟩ := exists_dueAtOnce (pricedOrder goodwill)
  have shows := showsNet_of_ofInvoice made
  have text : Format.currency dueAtOnce.language.tag dueAtOnce.currency (pricedOrder goodwill).subtotal =
      "-0,00 EUR" := by decide +kernel
  rw [text] at shows
  refine ⟨⟨by decide +kernel, ⟨ctx, made, shows⟩, ?_⟩, by decide +kernel, by decide +kernel⟩
  have dash : isAsciiDigit '-' = false := by decide
  exact Format.not_isPlain ['0', ',', '0', '0'] dash

end Context

end InvoiceForms
