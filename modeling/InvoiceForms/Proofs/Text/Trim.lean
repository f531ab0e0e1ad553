import Mathlib.Data.List.DropRight
import InvoiceForms.Text.Blank

/-!
# Trimmed texts

Trimming takes away the blanks around a text and nothing else. Trimming a trimmed text and lowering a
lowered one change nothing.
-/

namespace InvoiceForms.Text

theorem dropEndWhile_eq_rdropWhile (p : Char → Bool) (cs : List Char) :
    dropEndWhile p cs = cs.rdropWhile p := rfl

/-- Characters without blanks stay as they are when trimmed. -/
theorem trim_of_not {p : Char → Bool} {cs : List Char} (none : ∀ c ∈ cs, p c = false) :
    trim p cs = cs := by
  have front : cs.dropWhile p = cs := by
    cases cs with
    | nil => rfl
    | cons c cs => exact List.dropWhile_cons_of_neg (by simp [none c List.mem_cons_self])
  rw [trim, front, dropEndWhile_eq_rdropWhile, List.rdropWhile_eq_self_iff]
  intro nonempty
  simp [none _ (List.getLast_mem nonempty)]

/-- Trimming twice is trimming once. -/
theorem trim_trim (p : Char → Bool) (cs : List Char) : trim p (trim p cs) = trim p cs := by
  have front : (trim p cs).dropWhile p = trim p cs := by
    rw [trim, dropEndWhile_eq_rdropWhile]
    cases shape : cs.dropWhile p with
    | nil => simp [List.rdropWhile]
    | cons c rest =>
      have other : p c = false := by
        have kept : (cs.dropWhile p).dropWhile p = cs.dropWhile p := List.dropWhile_idempotent p cs
        rw [shape] at kept
        by_contra blank
        rw [List.dropWhile_cons_of_pos (by simpa using blank)] at kept
        have short := (List.dropWhile_sublist p (l := rest)).length_le
        rw [kept, List.length_cons] at short
        omega
      have start := List.rdropWhile_prefix p (c :: rest)
      cases body : (c :: rest).rdropWhile p with
      | nil => rfl
      | cons d tail =>
        rw [body, List.cons_prefix_cons] at start
        rw [List.dropWhile_cons_of_neg]
        rw [start.1, other]
        exact Bool.false_ne_true
  rw [trim, front, trim, dropEndWhile_eq_rdropWhile, dropEndWhile_eq_rdropWhile]
  exact List.rdropWhile_idempotent p _

section Ends

variable {p : Char → Bool}

/-- What is left of a list begins with no character of those dropped. -/
theorem head?_dropWhile_eq_false (cs : List Char) {c : Char} (first : c ∈ (cs.dropWhile p).head?) :
    p c = false := by
  have stop := List.head?_dropWhile_not p cs
  rw [Option.mem_def.mp first] at stop
  exact stop

/-- A text is its trimmed middle between blanks, and that has no blanks at its ends. -/
theorem exists_trim (p : Char → Bool) (cs : List Char) : ∃ front back,
    cs = front ++ trim p cs ++ back ∧ (∀ c ∈ front, p c = true) ∧ (∀ c ∈ back, p c = true) ∧
      (∀ c ∈ (trim p cs).head?, p c = false) ∧ ∀ c ∈ (trim p cs).getLast?, p c = false := by
  have behind : cs.dropWhile p =
      trim p cs ++ ((cs.dropWhile p).reverse.takeWhile p).reverse := by
    rw [trim, dropEndWhile, ← List.reverse_append, List.takeWhile_append_dropWhile, List.reverse_reverse]
  refine ⟨cs.takeWhile p, ((cs.dropWhile p).reverse.takeWhile p).reverse, ?_, ?_, ?_, ?_, ?_⟩
  · rw [List.append_assoc, ← behind, List.takeWhile_append_dropWhile]
  · exact fun c member => List.mem_takeWhile_imp member
  · exact fun c member => List.mem_takeWhile_imp (List.mem_reverse.mp member)
  · intro c first
    apply head?_dropWhile_eq_false cs
    rw [behind, List.head?_append, Option.mem_def.mp first]
    rfl
  · intro c last
    apply head?_dropWhile_eq_false (cs.dropWhile p).reverse
    rwa [trim, dropEndWhile, List.getLast?_reverse] at last

/-- Blanks around a text without blanks at its ends are what trimming takes away. -/
theorem trim_append {front middle back : List Char} (blankFront : ∀ c ∈ front, p c = true)
    (blankBack : ∀ c ∈ back, p c = true) (starts : ∀ c ∈ middle.head?, p c = false)
    (ends : ∀ c ∈ middle.getLast?, p c = false) : trim p (front ++ middle ++ back) = middle := by
  have stops {a b : List Char} (first : ∀ c ∈ a.head?, p c = false) (nonempty : a ≠ []) :
      (a ++ b).dropWhile p = a ++ b := by
    cases a with
    | nil => contradiction
    | cons c a =>
      have other := first c rfl
      rw [List.cons_append, List.dropWhile_cons_of_neg (by simp [other])]
  rw [trim, dropEndWhile, List.append_assoc, List.dropWhile_append_of_pos blankFront]
  by_cases empty : middle = []
  · have none : back.dropWhile p = [] := List.dropWhile_eq_nil_iff.mpr blankBack
    rw [empty, List.nil_append, none]
    rfl
  · have last : ∀ c ∈ middle.reverse.head?, p c = false := by
      rw [List.head?_reverse]
      exact ends
    have alone := stops (b := []) last (by simpa using empty)
    rw [List.append_nil] at alone
    rw [stops starts empty, List.reverse_append, List.dropWhile_append_of_pos (by simpa using blankBack),
      alone, List.reverse_reverse]

end Ends

@[simp] theorem trimWhiteSpace_trimWhiteSpace (s : String) :
    trimWhiteSpace (trimWhiteSpace s) = trimWhiteSpace s := by
  rw [trimWhiteSpace, trimWhiteSpace, String.toList_ofList, trim_trim]

/-- Lowering moves the letters from A to Z up by 32. -/
theorem toNat_toLower (c : Char) :
    c.toLower.toNat = if 65 ≤ c.toNat ∧ c.toNat ≤ 90 then c.toNat + 32 else c.toNat := by
  have bounds : (c.val ≥ 'A'.val ∧ c.val ≤ 'Z'.val) ↔ (65 ≤ c.toNat ∧ c.toNat ≤ 90) := Iff.rfl
  unfold Char.toLower
  by_cases upper : c.val ≥ 'A'.val ∧ c.val ≤ 'Z'.val
  · rw [dif_pos upper, if_pos (bounds.mp upper)]
    have small := (bounds.mp upper).2
    show (c.val + ('a'.val - 'A'.val)).toNat = c.toNat + 32
    rw [UInt32.toNat_add]
    have step : ('a'.val - 'A'.val).toNat = 32 := by decide
    have same : c.val.toNat = c.toNat := rfl
    rw [step, same]
    omega
  · rw [dif_neg upper, if_neg (fun h => upper (bounds.mpr h))]

theorem eq_of_toNat_eq {c d : Char} (same : c.toNat = d.toNat) : c = d :=
  Char.ext (UInt32.toNat_inj.mp same)

theorem toLower_toLower (c : Char) : c.toLower.toLower = c.toLower := by
  apply eq_of_toNat_eq
  rw [toNat_toLower, toNat_toLower]
  by_cases upper : 65 ≤ c.toNat ∧ c.toNat ≤ 90
  · rw [if_pos upper, if_neg (by omega)]
  · rw [if_neg upper, if_neg upper]

@[simp] theorem lowerAscii_lowerAscii (s : String) : lowerAscii (lowerAscii s) = lowerAscii s := by
  rw [lowerAscii, lowerAscii, String.toList_ofList, List.map_map]
  congr 2
  funext c
  exact toLower_toLower c

end InvoiceForms.Text
