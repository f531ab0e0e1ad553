import InvoiceForms.Proofs.Invoice.Amounts
import InvoiceForms.Proofs.Number.GeneralText

/-!
# Quantities of items

The quantity of an item that is let through is above zero. Where it is a whole number below a million, an
invoice shows its numeral, and no other whole quantity is shown so. From a million on it shows six digits
and a power of ten, so that neighbours look alike.
-/

namespace InvoiceForms

open InvoiceForms.Calendar InvoiceForms.Number InvoiceForms.Record InvoiceForms.Results

/-- What passes the bound of positive numbers is above zero. -/
theorem Record.Bounds.zero_lt_of_checkDouble {x y : Double}
    (passed : Bounds.positive.checkDouble x = .ok y) : (Double.ofInt 0).lt y = true := by
  unfold Bounds.checkDouble at passed
  split at passed
  · cases passed
  · next whole =>
    cases passed
    by_contra below
    have reached : (Double.ofInt 0).lt x = false := eq_false_of_ne_true below
    simp [Bounds.broken?, Bounds.positive, Option.filter, reached] at whole

namespace LineItem

variable {data : Value} {item : LineItem} {n : Int}

/-- An item that is let through has a quantity above zero: the field demands it, and so is the one that
stands for it. -/
theorem zero_lt_quantity (accepted : schema.validate data = .ok item) :
    (Double.ofInt 0).lt item.quantity = true := by
  obtain ⟨entries, given⟩ := Schema.exists_readEntries accepted
  obtain ⟨fresh, taken, extra, -⟩ := Schema.readEntries_eq_ok.mp given
  obtain rfl : fresh = item := congrArg Prod.fst extra
  refine Schema.preserved_of_readFields (p := fun x : LineItem => (Double.ofInt 0).lt x.quantity = true)
    ?_ taken (by decide +kernel)
  intro f member v change r content above
  simp only [schema, List.mem_cons, List.not_mem_nil, or_false] at member
  rcases member with rfl | rfl | rfl | rfl | rfl
  all_goals obtain ⟨x, read, rfl⟩ := RecordField.make_read_eq_ok.mp content
  · exact above
  · exact above
  · obtain ⟨y, -, bounded⟩ := bind_eq_ok.mp read
    exact Bounds.zero_lt_of_checkDouble bounded
  · exact above
  · exact above

/-- A whole quantity is a positive number of wholes. -/
theorem exists_units (accepted : schema.validate data = .ok item)
    (whole : item.quantity.toInt? = some n) :
    ∃ k : Nat, n = k ∧ 0 < k ∧ item.quantity.units? = some ((k : Int) * Double.unitDenominator) := by
  have units := Double.units_of_toInt? whole
  have above := zero_lt_quantity accepted
  have zero : (Double.ofInt 0).units? = some 0 := Double.units_zero false
  rw [Double.lt_of_units zero units, decide_eq_true_iff] at above
  have wholes := Int.natCast_nonneg Double.unitDenominator
  have positive : 0 < n := lt_of_mul_lt_mul_right (by rwa [zero_mul]) wholes
  exact ⟨n.toNat, by omega, by omega, by rw [units, Int.toNat_of_nonneg positive.le]⟩

end LineItem

namespace Format

variable {x : Double} {k : Nat}

theorem mem_quantity_of_many (units : x.units? = some ((k : Int) * Double.unitDenominator))
    (many : 1000000 ≤ k) : 'e' ∈ (quantity x).toList := Double.mem_toGeneral many units

theorem toList_toString (k : Nat) : (toString k).toList = Nat.toDigits 10 k := String.toList_ofList

theorem toString_injective {l : Nat} (same : toString k = toString l) : k = l := by
  have digits : Nat.toDigits 10 k = Nat.toDigits 10 l := by
    rw [← toList_toString, same, toList_toString]
  rw [← Nat.ofDigitChars_ten_toDigits (n := k), digits, Nat.ofDigitChars_ten_toDigits]

/-- A power of ten stands in no numeral. -/
theorem not_mem_toString (k : Nat) : 'e' ∉ (toString k).toList := by
  intro inside
  rw [toList_toString] at inside
  exact absurd (Text.isAsciiDigit_of_mem_toDigits inside) (by decide)

/-- A positive whole number is written as its numeral below a million. -/
theorem quantity_eq_toString_iff (positive : 0 < k)
    (units : x.units? = some ((k : Int) * Double.unitDenominator)) :
    quantity x = toString k ↔ k < 1000000 := by
  constructor
  · intro same
    by_contra many
    have marked := mem_quantity_of_many units (Nat.le_of_not_lt many)
    rw [same] at marked
    exact not_mem_toString k marked
  · exact Double.toGeneral_of_few positive units

end Format

/-- Items are written one by one. -/
theorem getElem?_productEntries (money : Double → String) (items : List LineItem) (position i : Nat) :
    (productEntries money position items)[i]? = items[i]?.map (productEntry money (position + i)) := by
  induction items generalizing position i with
  | nil => rfl
  | cons item items ih =>
    cases i with
    | zero => rfl
    | succ i =>
      rw [productEntries, List.getElem?_cons_succ, List.getElem?_cons_succ, ih, Nat.add_assoc,
        Nat.add_comm 1]

namespace Context

variable {data : Value} {company : Company} {customer : Customer} {order : Order} {invoice : Invoice}
  {ctx : Context} {item : LineItem} {i : Nat} {n : Int}

/-- Whether a text is the quantity that a context shows for the item at a place. -/
def ShowsQuantity (ctx : Context) (i : Nat) (text : String) : Prop :=
  ∃ products members, ctx.order.get? "products" = some (.list products) ∧
    products[i]? = some (.mapping members) ∧ Entries.get? "quantity" members = some (.text text)

theorem products_of_ofInvoice (made : ofInvoice company customer order invoice = .ok ctx) :
    ∃ money, ctx.order.get? "products" = some (.list (productEntries money 1 order.items)) := by
  obtain ⟨due, -, made⟩ := bind_eq_ok.mp made
  obtain ⟨terms, -, made⟩ := bind_eq_ok.mp made
  cases made
  exact ⟨_, rfl⟩

theorem showsQuantity_iff (made : ofInvoice company customer order invoice = .ok ctx)
    (placed : order.items[i]? = some item) (text : String) :
    ctx.ShowsQuantity i text ↔ text = Format.quantity item.quantity := by
  obtain ⟨money, products⟩ := products_of_ofInvoice made
  have entry := getElem?_productEntries money order.items 1 i
  rw [placed] at entry
  constructor
  · rintro ⟨products', members, listed, found, shown⟩
    rw [products] at listed
    cases listed
    rw [entry] at found
    cases found
    cases shown
    rfl
  · rintro rfl
    exact ⟨_, _, products, entry, rfl⟩

/-- The quantity of an item that is let through is shown by its numeral if it is a whole number below a
million, and then no other whole quantity looks like it; a whole number from a million on is not. -/
theorem quantity_shown_iff (made : ofInvoice company customer order invoice = .ok ctx)
    (accepted : LineItem.schema.validate data = .ok item) (placed : order.items[i]? = some item)
    (whole : item.quantity.toInt? = some n) : ∃ text, ctx.ShowsQuantity i text ∧
      (text = toString n ↔ n < 1000000) ∧
      (n < 1000000 → ∀ data' other j m, LineItem.schema.validate data' = .ok other →
        order.items[j]? = some other → other.quantity.toInt? = some m →
        ctx.ShowsQuantity j text → m = n) := by
  obtain ⟨k, rfl, positive, units⟩ := LineItem.exists_units accepted whole
  have numeral := Format.quantity_eq_toString_iff positive units
  refine ⟨_, (showsQuantity_iff made placed _).mpr rfl, ?_, ?_⟩
  · rw [show toString (k : Int) = toString k from rfl, numeral]
    omega
  · intro few data' other j m accepted' placed' whole' shown
    obtain ⟨l, rfl, positive', units'⟩ := LineItem.exists_units accepted' whole'
    have same := (showsQuantity_iff made placed' _).mp shown
    rw [numeral.mpr (by omega)] at same
    -- Were the other quantity a million or more, the numeral would have a power of ten.
    by_cases few' : l < 1000000
    · rw [(Format.quantity_eq_toString_iff positive' units').mpr few'] at same
      exact congrArg Nat.cast (Format.toString_injective same).symm
    · have marked := Format.mem_quantity_of_many units' (Nat.le_of_not_lt few')
      rw [← same] at marked
      exact absurd marked (Format.not_mem_toString k)

/-- The data of an item of some number of roses. -/
def rosesData (n : Int) : Value :=
  .mapping [("name", .text "Rose"), ("quantity", .int n), ("unitPrice", .int 3)]

/-- So many roses. -/
def roses (n : Int) : LineItem := { name := "Rose", quantity := .ofInt n, unitPrice := .ofInt 3 }

/-- An order of items of roses. -/
def rosesOrder (ns : List Int) : Order where
  number := "O-1"
  orderDate := midJanuary
  items := ns.map roses

/-- Six digits are shown as they are. -/
theorem six_digits_shown : ∃ ctx,
    ofInvoice { name := "Meadow" } { name := "Maria" } (rosesOrder [999999]) dueAtOnce = .ok ctx ∧
      LineItem.schema.validate (rosesData 999999) = .ok (roses 999999) ∧
      (rosesOrder [999999]).items[0]? = some (roses 999999) ∧
      (roses 999999).quantity.toInt? = some 999999 ∧ ctx.ShowsQuantity 0 "999999" := by
  obtain ⟨ctx, made⟩ := exists_dueAtOnce (rosesOrder [999999])
  have accepted : LineItem.schema.validate (rosesData 999999) = .ok (roses 999999) := by decide +kernel
  have whole : (roses 999999).quantity.toInt? = some 999999 := by decide +kernel
  have placed : (rosesOrder [999999]).items[0]? = some (roses 999999) := rfl
  obtain ⟨text, shown, numeral, -⟩ := quantity_shown_iff made accepted placed whole
  obtain rfl := numeral.mpr (by decide)
  exact ⟨ctx, made, accepted, placed, whole, shown⟩

/-- Seven digits are not, and neighbours look alike. -/
theorem seven_digits_alike : ∃ ctx,
    ofInvoice { name := "Meadow" } { name := "Maria" } (rosesOrder [1234567, 1234568]) dueAtOnce = .ok ctx ∧
      (∀ n ∈ [1234567, 1234568], LineItem.schema.validate (rosesData n) = .ok (roses n) ∧
        (roses n).quantity.toInt? = some n) ∧
      ctx.ShowsQuantity 0 "1.23457e+06" ∧ ctx.ShowsQuantity 1 "1.23457e+06" := by
  obtain ⟨ctx, made⟩ := exists_dueAtOnce (rosesOrder [1234567, 1234568])
  have first : (rosesOrder [1234567, 1234568]).items[0]? = some (roses 1234567) := rfl
  have second : (rosesOrder [1234567, 1234568]).items[1]? = some (roses 1234568) := rfl
  refine ⟨ctx, made, by decide +kernel, ?_, ?_⟩
  · exact (showsQuantity_iff made first _).mpr (by decide +kernel)
  · exact (showsQuantity_iff made second _).mpr (by decide +kernel)

end Context

end InvoiceForms
