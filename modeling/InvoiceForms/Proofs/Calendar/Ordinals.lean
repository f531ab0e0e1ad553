import Mathlib.Order.Monotone.Basic
import InvoiceForms.Calendar.Date

/-!
# Days one after another

Dates are counted, and days are added by way of the count. Here the count is checked against the calendar
itself: the day after a date is found by turning the page (`Date.next?`), its number is one more
(`Date.ordinal_of_next?`), and adding days is turning so many pages (`Date.addDays?_eq_later`). The count goes
from 1 to that of the last day, and every date comes back from its number.
-/

namespace InvoiceForms.Calendar

/-- The number of days in a year. -/
def daysInYear (year : Nat) : Nat := if isLeap year then 366 else 365

/-- Twelve months have days. -/
theorem daysInMonth_pos_iff {year month : Nat} :
    0 < daysInMonth year month ↔ 1 ≤ month ∧ month ≤ 12 := by
  unfold daysInMonth
  constructor
  · intro some
    split at some <;> omega
  · intro bounds
    split
    case h_12 => split <;> decide
    case h_13 =>
      -- None of the twelve numbers is left.
      simp only [imp_false] at *
      omega
    all_goals decide

/-- Walks from a start that is not too late to the step of a count that a number falls into. -/
def walkTo (f : Nat → Nat) : Nat → Nat → Nat → Nat
  | 0, start, _ => start
  | fuel + 1, start, n => if n ≤ f (start + 1) then start else walkTo f fuel (start + 1) n

/-- The step is found when the fuel lasts. The induction is on the fuel. -/
theorem walkTo_eq {f : Nat → Nat} (mono : Monotone f) {fuel start step n : Nat} (behind : start ≤ step)
    (lasts : step ≤ start + fuel) (above : f step < n) (within : n ≤ f (step + 1)) :
    walkTo f fuel start n = step := by
  induction fuel generalizing start with
  | zero => exact Nat.le_antisymm behind lasts
  | succ fuel ih =>
    rw [walkTo]
    rcases Nat.eq_or_lt_of_le behind with rfl | further
    · rw [if_pos within]
    · have passed : f (start + 1) < n := Nat.lt_of_le_of_lt (mono further) above
      rw [if_neg (Nat.not_le.mpr passed)]
      exact ih further (by omega)

namespace Date

theorem yearOf_eq_walkTo (fuel year n : Nat) : yearOf fuel year n = walkTo daysBeforeYear fuel year n := by
  induction fuel generalizing year with
  | zero => rfl
  | succ fuel ih => rw [yearOf, walkTo, ih]

theorem monthOf_eq_walkTo (year fuel month n : Nat) :
    monthOf year fuel month n = walkTo (daysBeforeMonth year) fuel month n := by
  induction fuel generalizing month with
  | zero => rfl
  | succ fuel ih => rw [monthOf, walkTo, ih]

/-- A year starts when the one before is over. -/
theorem daysBeforeYear_succ {year : Nat} (pos : 0 < year) :
    daysBeforeYear (year + 1) = daysBeforeYear year + daysInYear year := by
  obtain ⟨y, rfl⟩ := Nat.exists_eq_succ_of_ne_zero (Nat.ne_of_gt pos)
  have hundreds : (y + 1) % 100 = 0 → (y + 1) % 4 = 0 := by omega
  have fourHundreds : (y + 1) % 400 = 0 → (y + 1) % 100 = 0 := by omega
  have fewer : y / 100 ≤ y / 4 := Nat.div_le_div_left (by decide) (by decide)
  simp only [daysBeforeYear, daysInYear, isLeap, Nat.succ_eq_add_one, Nat.add_sub_cancel, Nat.succ_div,
    Nat.dvd_iff_mod_eq_zero, Bool.and_eq_true, Bool.or_eq_true, decide_eq_true_eq]
  grind

/-- A month starts when the one before is over. -/
theorem daysBeforeMonth_succ (year month : Nat) :
    daysBeforeMonth year (month + 1) = daysBeforeMonth year month + daysInMonth year month := by
  cases month <;> rfl

/-- The days of all months are those of the year. -/
theorem daysBeforeMonth_thirteen (year : Nat) : daysBeforeMonth year 13 = daysInYear year := by
  simp only [daysBeforeMonth, daysInMonth, daysInYear]
  split <;> rfl

theorem monotone_daysBeforeYear : Monotone daysBeforeYear := by
  refine monotone_nat_of_le_succ fun year => ?_
  rcases Nat.eq_zero_or_pos year with rfl | pos
  · exact Nat.le_refl _
  · rw [daysBeforeYear_succ pos]
    exact Nat.le_add_right _ _

theorem monotone_daysBeforeMonth (year : Nat) : Monotone (daysBeforeMonth year) := by
  refine monotone_nat_of_le_succ fun month => ?_
  rw [daysBeforeMonth_succ]
  exact Nat.le_add_right _ _

section Count

variable (d : Date)

theorem month_bounds : 1 ≤ d.month ∧ d.month ≤ 12 :=
  daysInMonth_pos_iff.mp (Nat.lt_of_lt_of_le d.day_pos d.day_le)

/-- The number of a date in its year. -/
def dayOfYear : Nat := daysBeforeMonth d.year d.month + d.day

theorem dayOfYear_le_succ : d.dayOfYear ≤ daysBeforeMonth d.year (d.month + 1) := by
  rw [daysBeforeMonth_succ]
  exact Nat.add_le_add_left d.day_le _

/-- A year has no more dates than days. -/
theorem dayOfYear_le : d.dayOfYear ≤ daysInYear d.year := by
  rw [← daysBeforeMonth_thirteen]
  exact Nat.le_trans d.dayOfYear_le_succ
    (monotone_daysBeforeMonth d.year (Nat.succ_le_succ d.month_bounds.2))

theorem ordinal_eq : d.ordinal = daysBeforeYear d.year + d.dayOfYear := Nat.add_assoc _ _ _

/-- The number of a date lies between those of the first days of its year and of the next. -/
theorem ordinal_bounds : daysBeforeYear d.year < d.ordinal ∧ d.ordinal ≤ daysBeforeYear (d.year + 1) := by
  have first : 0 < d.dayOfYear := Nat.lt_of_lt_of_le d.day_pos (Nat.le_add_left _ _)
  have last := d.dayOfYear_le
  rw [ordinal_eq, daysBeforeYear_succ d.year_pos]
  omega

/-- The search for a year starts no later than the year and reaches it. -/
theorem year_bounds : d.ordinal / 366 + 1 ≤ d.year ∧ d.year ≤ d.ordinal / 366 + 1 + 30 := by
  have above := d.ordinal_bounds.1
  have within := d.ordinal_bounds.2
  have pos := d.year_pos
  have le := d.year_le
  simp only [daysBeforeYear, Nat.add_sub_cancel] at above within
  omega

/-- A date comes back from its number. -/
theorem ofOrdinal?_ordinal : ofOrdinal? d.ordinal = some d := by
  have year : yearOf 30 (d.ordinal / 366 + 1) d.ordinal = d.year := by
    rw [yearOf_eq_walkTo]
    exact walkTo_eq monotone_daysBeforeYear d.year_bounds.1 d.year_bounds.2 d.ordinal_bounds.1
      d.ordinal_bounds.2
  have rest : d.ordinal - daysBeforeYear d.year = d.dayOfYear := by
    rw [ordinal_eq, Nat.add_sub_cancel_left]
  have month : monthOf d.year 11 1 d.dayOfYear = d.month := by
    rw [monthOf_eq_walkTo]
    exact walkTo_eq (monotone_daysBeforeMonth d.year) d.month_bounds.1 d.month_bounds.2
      (Nat.lt_add_of_pos_right d.day_pos) d.dayOfYear_le_succ
  have day : d.dayOfYear - daysBeforeMonth d.year d.month = d.day := Nat.add_sub_cancel_left _ _
  unfold ofOrdinal?
  dsimp only
  rw [year, rest, month, day, of?, dif_pos ⟨d.year_pos, d.year_le, d.day_pos, d.day_le⟩]

end Count

/-- The numbers of a date that exists. -/
theorem of?_eq_some {year month day : Nat} {d : Date} (given : of? year month day = some d) :
    d.year = year ∧ d.month = month ∧ d.day = day := by
  unfold of? at given
  split at given
  · cases given
    exact ⟨rfl, rfl, rfl⟩
  · cases given

/-- A number gives the date that has it. -/
theorem ordinal_of_ofOrdinal? {n : Nat} {d : Date} (given : ofOrdinal? n = some d) : d.ordinal = n := by
  unfold ofOrdinal? at given
  dsimp only at given
  obtain ⟨year, month, day⟩ := of?_eq_some given
  have pos := d.day_pos
  rw [← year] at month day
  rw [← month] at day
  rw [ordinal]
  omega

/-- The last date. -/
def last : Date := ⟨9999, 12, 31, by decide, by decide, by decide, by decide⟩

theorem ordinal_last : last.ordinal = daysBeforeYear (9999 + 1) := by decide

theorem ordinal_le_last (d : Date) : d.ordinal ≤ last.ordinal := by
  rw [ordinal_last]
  exact Nat.le_trans d.ordinal_bounds.2 (monotone_daysBeforeYear (Nat.succ_le_succ d.year_le))

theorem before_eq_true {a b : Date} : a.before b = true ↔
    a.year < b.year ∨ a.year = b.year ∧ (a.month < b.month ∨ a.month = b.month ∧ a.day < b.day) := by
  simp only [before, Bool.or_eq_true, Bool.and_eq_true, decide_eq_true_eq]

theorem ordinal_lt_of_before {a b : Date} (earlier : a.before b = true) : a.ordinal < b.ordinal := by
  rcases before_eq_true.mp earlier with year | ⟨year, month | ⟨month, day⟩⟩
  · calc
      a.ordinal ≤ daysBeforeYear (a.year + 1) := a.ordinal_bounds.2
      _ ≤ daysBeforeYear b.year := monotone_daysBeforeYear year
      _ < b.ordinal := b.ordinal_bounds.1
  · have inYear : a.dayOfYear < b.dayOfYear := by
      calc
        a.dayOfYear ≤ daysBeforeMonth a.year (a.month + 1) := a.dayOfYear_le_succ
        _ ≤ daysBeforeMonth a.year b.month := monotone_daysBeforeMonth a.year month
        _ = daysBeforeMonth b.year b.month := by rw [year]
        _ < b.dayOfYear := Nat.lt_add_of_pos_right b.day_pos
    rw [ordinal_eq, ordinal_eq, year]
    exact Nat.add_lt_add_left inYear _
  · rw [ordinal, ordinal, year, month]
    exact Nat.add_lt_add_left day _

/-- A date is before another when its number is smaller. -/
theorem before_iff {a b : Date} : a.before b = true ↔ a.ordinal < b.ordinal := by
  refine ⟨ordinal_lt_of_before, fun less => ?_⟩
  by_contra notBefore
  by_cases after : b.before a = true
  · exact Nat.lt_asymm less (ordinal_lt_of_before after)
  · rw [before_eq_true] at notBefore after
    have year : a.year = b.year := by omega
    have month : a.month = b.month := by omega
    have day : a.day = b.day := by omega
    rw [ordinal, ordinal, year, month, day] at less
    exact Nat.lt_irrefl _ less

/-- The next day: the next of the month, or the first of the next month or year, as long as the calendar goes
on. -/
def next? (d : Date) : Option Date :=
  if d.day < daysInMonth d.year d.month then of? d.year d.month (d.day + 1)
  else if d.month < 12 then of? d.year (d.month + 1) 1
  else of? (d.year + 1) 1 1

/-- The day that comes so many days later, one after another. -/
def later : Nat → Date → Option Date
  | 0, d => some d
  | n + 1, d => d.next?.bind (later n)

/-- The next day has the next number. -/
theorem ordinal_of_next? {d e : Date} (given : d.next? = some e) : e.ordinal = d.ordinal + 1 := by
  unfold next? at given
  split at given
  · obtain ⟨year, month, day⟩ := of?_eq_some given
    rw [ordinal, year, month, day, ordinal, Nat.add_assoc _ d.day 1]
  · next full =>
    have day : d.day = daysInMonth d.year d.month := Nat.le_antisymm d.day_le (Nat.not_lt.mp full)
    split at given
    · obtain ⟨year, month, first⟩ := of?_eq_some given
      rw [ordinal, year, month, first, daysBeforeMonth_succ, ordinal, day, Nat.add_assoc _ _ 1]
      omega
    · next december =>
      have month : d.month = 12 := Nat.le_antisymm d.month_bounds.2 (Nat.not_lt.mp december)
      obtain ⟨year, january, first⟩ := of?_eq_some given
      have whole := daysBeforeMonth_thirteen d.year
      have start : daysBeforeMonth (d.year + 1) 1 = 0 := rfl
      rw [daysBeforeMonth_succ] at whole
      rw [ordinal, year, january, first, start, daysBeforeYear_succ d.year_pos, ordinal, day, month, ← whole]
      omega

/-- Every day but the last has a next. -/
theorem next?_isSome {d : Date} (earlier : d.ordinal < last.ordinal) : d.next?.isSome = true := by
  have inCalendar {year month day : Nat} (yearPos : 0 < year) (yearLe : year ≤ 9999) (dayPos : 0 < day)
      (dayLe : day ≤ daysInMonth year month) : (of? year month day).isSome = true := by
    rw [of?, dif_pos ⟨yearPos, yearLe, dayPos, dayLe⟩]
    rfl
  unfold next?
  split
  · next room => exact inCalendar d.year_pos d.year_le (Nat.succ_pos _) room
  · next full =>
    split
    · next more =>
      exact inCalendar d.year_pos d.year_le Nat.one_pos (daysInMonth_pos_iff.mpr ⟨Nat.succ_pos _, more⟩)
    · next december =>
      -- The number of this day is that of all days up to the next year, and there the calendar ends.
      have day : d.day = daysInMonth d.year d.month := Nat.le_antisymm d.day_le (Nat.not_lt.mp full)
      have month : d.month = 12 := Nat.le_antisymm d.month_bounds.2 (Nat.not_lt.mp december)
      have whole := daysBeforeMonth_thirteen d.year
      rw [daysBeforeMonth_succ, ← month, ← day] at whole
      have ends : d.ordinal = daysBeforeYear (d.year + 1) := by
        rw [daysBeforeYear_succ d.year_pos, ← whole, ordinal, Nat.add_assoc]
      have notLast : d.year ≠ 9999 := by
        intro year
        rw [ends, year, ordinal_last] at earlier
        exact Nat.lt_irrefl _ earlier
      exact inCalendar (Nat.succ_pos _) (Nat.lt_of_le_of_ne d.year_le notLast) Nat.one_pos (show 1 ≤ 31 by decide)

/-- The day that comes so many days later has a number so much larger. -/
theorem ordinal_of_later {n : Nat} {d e : Date} (given : later n d = some e) :
    e.ordinal = d.ordinal + n := by
  induction n generalizing d with
  | zero =>
    cases given
    rfl
  | succ n ih =>
    obtain ⟨next, turned, rest⟩ := Option.bind_eq_some_iff.mp given
    rw [ih rest, ordinal_of_next? turned]
    omega

/-- There is such a day exactly as long as the calendar goes on. -/
theorem later_isSome_iff {n : Nat} {d : Date} :
    (later n d).isSome = true ↔ d.ordinal + n ≤ last.ordinal := by
  constructor
  · intro there
    obtain ⟨e, given⟩ := Option.isSome_iff_exists.mp there
    rw [← ordinal_of_later given]
    exact e.ordinal_le_last
  · intro within
    induction n generalizing d with
    | zero => rfl
    | succ n ih =>
      obtain ⟨next, turned⟩ := Option.isSome_iff_exists.mp (next?_isSome (d := d) (by omega))
      rw [later, turned, Option.bind_some]
      refine ih ?_
      rw [ordinal_of_next? turned]
      omega

/-- Adding days to a date is going on day by day. -/
theorem addDays?_eq_later (d : Date) (n : Nat) : d.addDays? n = later n d := by
  have pos : 0 < d.ordinal := Nat.lt_of_le_of_lt (Nat.zero_le _) d.ordinal_bounds.1
  have sum : ((d.ordinal : Int) + n).toNat = d.ordinal + n := by omega
  unfold addDays?
  dsimp only
  rw [if_neg (by omega), sum]
  cases given : later n d with
  | some e => rw [← ordinal_of_later given, ofOrdinal?_ordinal]
  | none =>
    cases found : ofOrdinal? (d.ordinal + n) with
    | none => rfl
    | some e =>
      have within := e.ordinal_le_last
      rw [ordinal_of_ofOrdinal? found, ← later_isSome_iff, given] at within
      cases within

end Date

end InvoiceForms.Calendar
