import InvoiceForms.Content.Path
import InvoiceForms.Proofs.Results
import InvoiceForms.Proofs.Text.Trim
import InvoiceForms.Value.Shown

/-!
# Where paths lead

A path leads from a value to another one, segment by segment: by a key, by the number of an item, or by
the name of a field. A look-up finds that value, and nothing where the path leads nowhere, with one
exception: a list does not take a segment that looks like the number of an item and is none that can be
read. There the walk is stuck, and the look-up fails.
-/

namespace InvoiceForms

open InvoiceForms.Number InvoiceForms.Results InvoiceForms.Text

/-- The values of the digits of a text that consists of decimal digits. -/
def DigitsOf (cs : List Char) (ds : List Nat) : Prop :=
  List.Forall₂ (fun c d => decimalValue? c = some d) cs ds

section Digits

theorem isDigitLike_of_decimalValue? {c : Char} {d : Nat} (digit : decimalValue? c = some d) :
    isDigitLike c = true := by
  rw [isDigitLike, digit]
  rfl

/-- The numbers of the characters that are white space. -/
def whiteSpaces : List Nat := [
  9, 10, 11, 12, 13, 0x20, 0x85, 0xA0, 0x1680, 0x2000, 0x2001, 0x2002, 0x2003, 0x2004, 0x2005, 0x2006,
  0x2007, 0x2008, 0x2009, 0x200A, 0x2028, 0x2029, 0x202F, 0x205F, 0x3000]

/-- White space is no digit. -/
theorem not_isWhiteSpace_of_isDigitLike {c : Char} (digit : isDigitLike c = true) :
    isWhiteSpace c = false := by
  by_contra blank
  rw [Bool.not_eq_false] at blank
  have member : c.toNat ∈ whiteSpaces := by
    simp only [isWhiteSpace, Bool.or_eq_true, Bool.and_eq_true, decide_eq_true_iff, beq_iff_eq] at blank
    simp only [whiteSpaces, List.mem_cons, List.not_mem_nil]
    omega
  have none : ∀ n ∈ whiteSpaces,
      (decimalZeros.findSome? fun z => if z ≤ n ∧ n < z + 10 then some (n - z) else none) = none ∧
        (otherDigitRanges.any fun r => r.1 ≤ n && n ≤ r.2) = false := by decide
  obtain ⟨notDecimal, notOther⟩ := none _ member
  rw [isDigitLike, decimalValue?, notDecimal, notOther] at digit
  cases digit

variable {cs : List Char}

/-- Of a text without underscores, all digits are read, and nothing else. The induction is on the
characters, two of which the reader looks at. -/
theorem underscored?_eq_some_iff (nonempty : cs ≠ []) (plain : '_' ∉ cs) {ds : List Nat} :
    underscored? decimalValue? cs = some ds ↔ DigitsOf cs ds := by
  induction cs generalizing ds with
  | nil => exact absurd rfl nonempty
  | cons c cs ih =>
    cases cs with
    | nil =>
      rw [underscored?, Option.map_eq_some_iff, DigitsOf, List.forall₂_cons_left_iff]
      constructor
      · rintro ⟨d, digit, rfl⟩
        exact ⟨d, [], digit, .nil, rfl⟩
      · rintro ⟨d, _, digit, ⟨⟩, rfl⟩
        exact ⟨d, digit, rfl⟩
    | cons c' cs =>
      have other : c' ≠ '_' := by
        rintro rfl
        exact plain (List.mem_cons_of_mem _ List.mem_cons_self)
      have rest := @ih (List.cons_ne_nil _ _) fun inside => plain (List.mem_cons_of_mem _ inside)
      rw [underscored?, DigitsOf, List.forall₂_cons_left_iff]
      swap
      · exact other
      constructor
      · intro read
        split at read
        · next d ds' digit others =>
          cases read
          exact ⟨d, ds', digit, rest.mp others, rfl⟩
        · cases read
      · rintro ⟨d, ds', digit, others, rfl⟩
        rw [digit, rest.mpr others]

/-- Digits are read as the number that they write, unless there are too many of them. -/
theorem itemIndex_eq_ok_iff (nonempty : cs ≠ []) (digits : cs.all isDigitLike = true) {n : Nat} :
    itemIndex cs = .ok n ↔
      ∃ ds, DigitsOf cs ds ∧ cs.length ≤ maxIntegerDigits ∧ ofDigits ds = n := by
  have each (c : Char) (member : c ∈ cs) : isDigitLike c = true := List.all_eq_true.mp digits c member
  have trimmed : trim isWhiteSpace cs = cs :=
    trim_of_not fun c member => not_isWhiteSpace_of_isDigitLike (each c member)
  have unsigned : takeSign cs = (false, cs) := by
    unfold takeSign
    split
    · next rest => exact absurd (each '-' List.mem_cons_self) (by decide)
    · next rest => exact absurd (each '+' List.mem_cons_self) (by decide)
    · rfl
  have plain : '_' ∉ cs := fun inside => absurd (each '_' inside) (by decide)
  rw [itemIndex, readInteger, trimmed, unsigned]
  dsimp only
  cases read : underscored? decimalValue? cs with
  | none =>
    refine iff_of_false nofun ?_
    rintro ⟨ds, written, -⟩
    rw [(underscored?_eq_some_iff nonempty plain).mpr written] at read
    cases read
  | some ds =>
    have written := (underscored?_eq_some_iff nonempty plain).mp read
    have only {ds' : List Nat} (other : DigitsOf cs ds') : ds' = ds := by
      have same := (underscored?_eq_some_iff nonempty plain).mpr other
      rw [read] at same
      exact (Option.some.inj same).symm
    rw [integerOf, ← written.length_eq]
    by_cases tooMany : maxIntegerDigits < cs.length
    · rw [if_pos tooMany]
      refine iff_of_false nofun ?_
      rintro ⟨_, _, few, _⟩
      exact Nat.not_le_of_gt tooMany few
    · rw [if_neg tooMany]
      show (Except.ok (ofDigits ds) : Except LookupFault Nat) = .ok n ↔ _
      constructor
      · intro same
        exact ⟨ds, written, Nat.le_of_not_lt tooMany, Except.ok.inj same⟩
      · rintro ⟨ds', other, -, rfl⟩
        rw [only other]

end Digits

namespace Value

/-- A segment that leads from a value to the next one. -/
def Selects (v : Value) (segment : List Char) (next : Value) : Prop :=
  match v with
  | mapping entries => Entries.get? (String.ofList segment) entries = some next
  | list items => ∃ ds, DigitsOf segment ds ∧ items[ofDigits ds]? = some next
  | tuple items => ∃ ds, DigitsOf segment ds ∧ items[ofDigits ds]? = some next
  | record _ fields _ =>
    segment.head? ≠ some '_' ∧ Entries.get? (String.ofList segment) fields = some next
  | _ => False

/-- A segment that looks like the number of an item, and is none or one with too many digits. -/
def Misleading (segment : List Char) : Prop :=
  segment.all isDigitLike = true ∧ ∀ ds, DigitsOf segment ds → maxIntegerDigits < segment.length

/-- A list does not take a misleading segment. -/
def Refuses (segment : List Char) (v : Value) : Prop :=
  (∃ items, v = list items ∨ v = tuple items) ∧ Misleading segment

/-- Segments that lead from a value to another one. -/
def Leads (target : Value) : List (List Char) → Value → Prop
  | [], v => v = target
  | segment :: rest, v => segment ≠ [] ∧ ∃ next, v.Selects segment next ∧ Leads target rest next

/-- Segments of which one meets a list that does not take it. -/
def Stuck : List (List Char) → Value → Prop
  | [], _ => False
  | segment :: rest, v =>
    segment ≠ [] ∧ (v.Refuses segment ∨ ∃ next, v.Selects segment next ∧ Stuck rest next)

section Select

variable {segment : List Char} (nonempty : segment ≠ []) {items : List Value} {v : Value}

include nonempty

theorem itemAt?_of_misleading (misleading : Misleading segment) :
    ∃ e, itemAt? items segment = .error e := by
  rw [itemAt?, if_pos misleading.1]
  cases read : itemIndex segment with
  | error e => exact ⟨e, rfl⟩
  | ok n =>
    obtain ⟨ds, written, few, -⟩ := (itemIndex_eq_ok_iff nonempty misleading.1).mp read
    exact absurd (misleading.2 ds written) (Nat.not_lt_of_ge few)

theorem itemAt?_of_not_misleading (plain : ¬ Misleading segment) :
    ∃ found, itemAt? items segment = .ok found ∧
      ∀ next, found = some next ↔ ∃ ds, DigitsOf segment ds ∧ items[ofDigits ds]? = some next := by
  rw [itemAt?]
  by_cases digits : segment.all isDigitLike = true
  · obtain ⟨ds, written, few⟩ : ∃ ds, DigitsOf segment ds ∧ segment.length ≤ maxIntegerDigits := by
      by_contra without
      push Not at without
      exact plain ⟨digits, without⟩
    have read := (itemIndex_eq_ok_iff nonempty digits).mpr ⟨ds, written, few, rfl⟩
    rw [if_pos digits, read]
    refine ⟨items[ofDigits ds]?, rfl, fun next => ⟨fun found => ⟨ds, written, found⟩, ?_⟩⟩
    rintro ⟨ds', other, found⟩
    have same := (itemIndex_eq_ok_iff nonempty digits).mpr ⟨ds', other, few, rfl⟩
    rw [read, Except.ok.injEq] at same
    rw [same]
    exact found
  · rw [if_neg digits]
    refine ⟨none, rfl, fun next => iff_of_false nofun ?_⟩
    rintro ⟨ds, written, -⟩
    refine digits (List.all_eq_true.mpr fun c member => ?_)
    obtain ⟨i, inside, rfl⟩ := List.getElem_of_mem member
    exact isDigitLike_of_decimalValue? (written.get inside (written.length_eq ▸ inside))

theorem select?_of_refuses (refuses : v.Refuses segment) : ∃ e, v.select? segment = .error e := by
  obtain ⟨⟨items, rfl | rfl⟩, misleading⟩ := refuses
  · exact itemAt?_of_misleading nonempty misleading
  · exact itemAt?_of_misleading nonempty misleading

theorem select?_of_not_refuses (takes : ¬ v.Refuses segment) :
    ∃ found, v.select? segment = .ok found ∧ ∀ next, found = some next ↔ v.Selects segment next := by
  cases v with
  | list items =>
    exact itemAt?_of_not_misleading nonempty fun misleading => takes ⟨⟨items, .inl rfl⟩, misleading⟩
  | tuple items =>
    exact itemAt?_of_not_misleading nonempty fun misleading => takes ⟨⟨items, .inr rfl⟩, misleading⟩
  | mapping entries => exact ⟨_, rfl, fun next => Iff.rfl⟩
  | record title fields extras =>
    refine ⟨_, rfl, fun next => ?_⟩
    rw [Selects]
    by_cases hidden : segment.head? = some '_'
    · rw [if_pos hidden]
      exact iff_of_false nofun fun shown => shown.1 hidden
    · rw [if_neg hidden, and_iff_right hidden]
  | _ => exact ⟨none, rfl, fun next => iff_of_false nofun id⟩

end Select

variable {segments : List (List Char)} {v : Value}

/-- A walk that is stuck fails. The induction is on the segments that are left. -/
theorem walk?_of_stuck (stuck : Stuck segments v) : ∃ e, walk? segments v = .error e := by
  induction segments generalizing v with
  | nil => cases stuck
  | cons segment rest ih =>
    obtain ⟨nonempty, here⟩ := stuck
    rw [walk?, if_neg nonempty]
    by_cases refuses : v.Refuses segment
    · obtain ⟨e, failed⟩ := select?_of_refuses nonempty refuses
      rw [failed]
      exact ⟨e, rfl⟩
    · obtain ⟨next, selects, later⟩ := here.resolve_left refuses
      obtain ⟨found, selected, only⟩ := select?_of_not_refuses nonempty refuses
      rw [selected, (only next).mpr selects]
      exact ih later

/-- Any other walk finds what the segments lead to, and nothing when they lead nowhere. -/
theorem walk?_of_not_stuck (free : ¬ Stuck segments v) :
    ∃ found, walk? segments v = .ok found ∧
      ∀ target, found = some target ↔ Leads target segments v := by
  induction segments generalizing v with
  | nil => exact ⟨some v, rfl, fun target => Option.some_inj⟩
  | cons segment rest ih =>
    rw [walk?]
    by_cases empty : segment = []
    · rw [if_pos empty]
      exact ⟨none, rfl, fun target => iff_of_false nofun fun leads => leads.1 empty⟩
    · rw [if_neg empty]
      have takes : ¬ v.Refuses segment := fun refuses => free ⟨empty, .inl refuses⟩
      obtain ⟨found, selected, only⟩ := select?_of_not_refuses empty takes
      rw [selected]
      cases found with
      | none =>
        refine ⟨none, rfl, fun target => iff_of_false nofun ?_⟩
        rintro ⟨-, next, selects, -⟩
        cases (only next).mpr selects
      | some next =>
        have selects := (only next).mp rfl
        obtain ⟨found, walked, reached⟩ := ih fun stuck => free ⟨empty, .inr ⟨next, selects, stuck⟩⟩
        refine ⟨found, walked, fun target => (reached target).trans ?_⟩
        constructor
        · exact fun leads => ⟨empty, next, selects, leads⟩
        · rintro ⟨-, next', selects', leads⟩
          cases (only next').mpr selects'
          exact leads

/-- What stands where segments lead; null where there is nothing. -/
def reach (segments : List (List Char)) (v : Value) : Except LookupFault Value :=
  (walk? segments v).map (·.getD null)

/-- The one value that segments lead to, or null when there is none. -/
def Finds (segments : List (List Char)) (v found : Value) : Prop :=
  ∀ target, target ≠ null → (found = target ↔ Leads target segments v)

theorem Finds.unique {found found' : Value} (finds : Finds segments v found)
    (finds' : Finds segments v found') : found = found' := by
  by_cases present : found' = null
  · by_contra other
    have leads := (finds found fun absent => other (absent.trans present.symm)).mp rfl
    exact other ((finds' found fun absent => other (absent.trans present.symm)).mpr leads).symm
  · exact (finds found' present).mpr ((finds' found' present).mp rfl)

/-- What is said of all that is found is said of the one value. -/
theorem Finds.forall_iff {found : Value} (finds : Finds segments v found) {p : Value → Prop} :
    (∀ found, Finds segments v found → p found) ↔ p found :=
  ⟨fun each => each found finds, fun here _ finds' => finds.unique finds' ▸ here⟩

/-- Null is found when the segments lead to nothing else. -/
theorem Finds.eq_null_iff {found : Value} (finds : Finds segments v found) :
    found = null ↔ ∀ target, Leads target segments v → target = null := by
  constructor
  · rintro rfl target leads
    by_contra present
    exact present ((finds target present).mpr leads).symm
  · intro none
    by_contra present
    exact present (none found ((finds found present).mp rfl))

theorem exists_reach (free : ¬ Stuck segments v) :
    ∃ found, reach segments v = .ok found ∧ Finds segments v found := by
  obtain ⟨found, walked, reached⟩ := walk?_of_not_stuck free
  refine ⟨found.getD null, by rw [reach, walked]; rfl, fun target present => ?_⟩
  rw [← reached]
  cases found with
  | none => exact iff_of_false (Ne.symm present) nofun
  | some found => exact Option.some_inj.symm

theorem finds_of_reach {found : Value} (given : reach segments v = .ok found) :
    ¬ Stuck segments v ∧ Finds segments v found := by
  have free : ¬ Stuck segments v := by
    intro stuck
    obtain ⟨e, failed⟩ := walk?_of_stuck stuck
    rw [reach, failed] at given
    cases given
  obtain ⟨found', same, finds⟩ := exists_reach free
  rw [given, Except.ok.injEq] at same
  subst same
  exact ⟨free, finds⟩

/-- What goes on from a look-up gives a result when the walk is free and what is found gives one. -/
theorem exists_reach_bind_iff {β : Type} {f : Value → Except LookupFault β} :
    (∃ b, (reach segments v >>= f) = .ok b) ↔
      ¬ Stuck segments v ∧ ∀ found, Finds segments v found → ∃ b, f found = .ok b := by
  rw [exists_bind_eq_ok]
  constructor
  · rintro ⟨found, given, rest⟩
    obtain ⟨free, finds⟩ := finds_of_reach given
    exact ⟨free, fun found' finds' => finds.unique finds' ▸ rest⟩
  · rintro ⟨free, each⟩
    obtain ⟨found, given, finds⟩ := exists_reach free
    exact ⟨found, given, each found finds⟩

/-- Only a misleading segment is what a walk can be stuck at. -/
theorem exists_misleading_of_stuck (stuck : Stuck segments v) :
    ∃ segment ∈ segments, Misleading segment := by
  induction segments generalizing v with
  | nil => cases stuck
  | cons segment rest ih =>
    obtain ⟨-, ⟨-, misleading⟩ | ⟨next, -, later⟩⟩ := stuck
    · exact ⟨segment, List.mem_cons_self, misleading⟩
    · obtain ⟨other, member, misleading⟩ := ih later
      exact ⟨other, List.mem_cons_of_mem _ member, misleading⟩

section Written

theorem isWritable_of_mem_items {items : List Value} (written : itemsWritable items = true) {v : Value}
    (member : v ∈ items) : v.isWritable = true := by
  induction items with
  | nil => cases member
  | cons first items ih =>
    rw [itemsWritable, Bool.and_eq_true] at written
    rcases List.mem_cons.mp member with rfl | later
    · exact written.1
    · exact ih written.2 later

theorem isWritable_of_get? {entries : Entries Value} (written : entriesWritable entries = true)
    {key : String} {v : Value} (found : entries.get? key = some v) : v.isWritable = true := by
  induction entries with
  | nil => cases found
  | cons entry entries ih =>
    obtain ⟨name, first⟩ := entry
    rw [entriesWritable, Bool.and_eq_true] at written
    rw [Entries.get?] at found
    split at found
    · cases found
      exact written.1
    · exact ih written.2 found

theorem Selects.isWritable {segment : List Char} {next : Value} (selects : v.Selects segment next)
    (written : v.isWritable = true) : next.isWritable = true := by
  cases v with
  | mapping entries =>
    rw [Value.isWritable] at written
    exact isWritable_of_get? written selects
  | list items | tuple items =>
    rw [Value.isWritable] at written
    obtain ⟨ds, -, found⟩ := selects
    exact isWritable_of_mem_items written (List.mem_of_getElem? found)
  | record title fields extras =>
    rw [Value.isWritable, Bool.and_eq_true] at written
    exact isWritable_of_get? written.1 selects.2
  | _ => cases selects

/-- Where paths lead in data that can be written out, all can be written out. -/
theorem Leads.isWritable {target : Value} (leads : Leads target segments v)
    (written : v.isWritable = true) : target.isWritable = true := by
  induction segments generalizing v with
  | nil =>
    cases leads
    exact written
  | cons segment rest ih =>
    obtain ⟨-, next, selects, later⟩ := leads
    exact ih later (selects.isWritable written)

end Written

/-- Where a path leads from a value. -/
def LeadsTo (v : Value) (path : String) (target : Value) : Prop := Leads target (split '.' path.toList) v

/-- A path at which a look-up in a value fails. -/
def Breaks (v : Value) (path : String) : Prop := Stuck (split '.' path.toList) v

end Value

end InvoiceForms
