import Mathlib.Data.List.TakeWhile
import InvoiceForms.Proofs.Json.Entries
import InvoiceForms.Proofs.Json.Everywhere
import InvoiceForms.Proofs.Json.Numbers
import InvoiceForms.Proofs.Json.Texts
import InvoiceForms.Proofs.Results

/-!
# What is written is read

A JSON value that is written in any style is read as the same value, as long as no object repeats a
key and no integer is too long. The reader takes one of its fuel for each value and for each place
in a list or an object, and a text has more characters than that.
-/

namespace InvoiceForms.Json

open InvoiceForms.Number InvoiceForms.Results InvoiceForms.Text

mutual

/-- The fuel that reading a value takes. -/
def steps : Json → Nat
  | list items => 1 + stepsItems items
  | object members => 1 + stepsMembers members
  | null => 1
  | bool _ => 1
  | int _ => 1
  | float _ => 1
  | text _ => 1

/-- `steps` for the items of a list. -/
def stepsItems : List Json → Nat
  | [] => 0
  | x :: xs => 1 + steps x + stepsItems xs

/-- `steps` for members. -/
def stepsMembers : List (String × Json) → Nat
  | [] => 0
  | (_, x) :: members => 1 + steps x + stepsMembers members

end

/-- Whether a value may begin with a character: it is no blank, closing bracket or byte order mark. -/
def beginsValue (c : Char) : Bool := !isGap c && c ≠ ']' && c.toNat ≠ 0xFEFF

/-- Whether a word or a number may begin with a character. -/
def beginsAtom (c : Char) : Bool := beginsValue c && c ≠ '"' && c ≠ '[' && c ≠ '\x7b'

/-- A text whose first character passes a test. -/
def Begins (p : Char → Bool) (cs : List Char) : Prop := ∃ c rest, cs = c :: rest ∧ p c = true

theorem begins_cons {p : Char → Bool} {c : Char} (passed : p c = true) (rest : List Char) :
    Begins p (c :: rest) := ⟨c, rest, rfl, passed⟩

theorem Begins.append {p : Char → Bool} {cs : List Char} (begins : Begins p cs) (rest : List Char) :
    Begins p (cs ++ rest) := by
  obtain ⟨c, more, rfl, passed⟩ := begins
  exact begins_cons passed (more ++ rest)

theorem begins_of_startsDigit {cs : List Char} (starts : StartsDigit cs) : Begins beginsAtom cs := by
  obtain ⟨d, rest, rfl, digit⟩ := starts
  refine begins_cons ?_ rest
  have listed := mem_of_isAsciiDigit digit
  simp only [List.mem_cons, List.not_mem_nil, or_false] at listed
  rcases listed with rfl | rfl | rfl | rfl | rfl | rfl | rfl | rfl | rfl | rfl <;> rfl

theorem begins_printInt (n : Int) : Begins beginsAtom (printInt n) := by
  unfold printInt
  split
  · exact begins_cons (by decide) _
  · exact begins_of_startsDigit (startsDigit_toDigits _)

theorem begins_printDouble (x : Double) : Begins beginsAtom (printDouble x) := by
  cases x with
  | nan =>
    rw [printDouble_nan]
    exact begins_cons (by decide) _
  | infinity negative =>
    rw [printDouble_infinity]
    cases negative <;> exact begins_cons (by decide) _
  | finite negative e f =>
    rw [printDouble_finite, textChars_finite]
    cases negative with
    | false => exact begins_of_startsDigit (startsDigit_textChars e f)
    | true => exact begins_cons (by decide) _

theorem Begins.value_of_atom {cs : List Char} (begins : Begins beginsAtom cs) :
    Begins beginsValue cs := by
  obtain ⟨c, rest, same, passed⟩ := begins
  refine ⟨c, rest, same, ?_⟩
  simp only [beginsAtom, Bool.and_eq_true] at passed
  exact passed.1.1.1

theorem begins_printValue (style : Style) (depth : Nat) (j : Json) :
    Begins beginsValue (printValue style depth j) := by
  cases j with
  | null => exact begins_cons (by decide) _
  | bool b => cases b <;> exact begins_cons (by decide) _
  | int n => exact (begins_printInt n).value_of_atom
  | float x => exact (begins_printDouble x).value_of_atom
  | text s => exact begins_cons (by decide) _
  | list items => cases items <;> exact begins_cons (by decide) _
  | object members => cases members <;> exact begins_cons (by decide) _

theorem begins_printText (style : Style) (s : String) : Begins beginsValue (printText style.ascii s) :=
  begins_cons (by decide) _

theorem length_printValue_pos (style : Style) (depth : Nat) (j : Json) :
    1 ≤ (printValue style depth j).length := by
  obtain ⟨c, rest, chars, -⟩ := begins_printValue style depth j
  rw [chars, List.length_cons]
  omega

mutual

/-- A written value has a character for each step of reading it. -/
theorem steps_le_length (style : Style) : ∀ (depth : Nat) (j : Json),
    steps j ≤ (printValue style depth j).length
  | depth, null => length_printValue_pos style depth null
  | depth, bool b => length_printValue_pos style depth (bool b)
  | depth, int n => length_printValue_pos style depth (int n)
  | depth, float x => length_printValue_pos style depth (float x)
  | depth, text s => length_printValue_pos style depth (text s)
  | depth, list [] => length_printValue_pos style depth (list [])
  | depth, list (x :: xs) => by
    have first := steps_le_length style (depth + 1) x
    have others := stepsItems_le_length style (depth + 1) xs
    simp only [printValue, steps, stepsItems, List.length_cons, List.length_append,
      List.cons_append]
    omega
  | depth, object [] => length_printValue_pos style depth (object [])
  | depth, object ((key, x) :: members) => by
    have first := steps_le_length style (depth + 1) x
    have others := stepsMembers_le_length style (depth + 1) members
    simp only [printValue, steps, stepsMembers, List.length_cons, List.length_append,
      List.cons_append]
    omega

theorem stepsItems_le_length (style : Style) : ∀ (depth : Nat) (items : List Json),
    stepsItems items ≤ (printItems style depth items).length
  | _, [] => Nat.le_refl 0
  | depth, x :: xs => by
    have first := steps_le_length style depth x
    have others := stepsItems_le_length style depth xs
    simp only [printItems, stepsItems, List.length_cons, List.length_append, List.cons_append]
    omega

theorem stepsMembers_le_length (style : Style) : ∀ (depth : Nat) (members : List (String × Json)),
    stepsMembers members ≤ (printMembers style depth members).length
  | _, [] => Nat.le_refl 0
  | depth, (key, x) :: members => by
    have first := steps_le_length style depth x
    have others := stepsMembers_le_length style depth members
    simp only [printMembers, stepsMembers, List.length_cons, List.length_append, List.cons_append]
    omega

end

theorem skipGap_of_begins {cs : List Char} (begins : Begins beginsValue cs) (rest : List Char) :
    skipGap (cs ++ rest) = cs ++ rest := by
  obtain ⟨c, more, rfl, passed⟩ := begins
  rw [skipGap, List.cons_append, List.dropWhile_cons_of_neg]
  simp only [beginsValue, Bool.and_eq_true, Bool.not_eq_true'] at passed
  exact Bool.not_eq_true _ ▸ passed.1.1

/-- Line breaks between the parts are skipped. -/
theorem skipGap_gap_append (style : Style) (depth : Nat) (rest : List Char) :
    skipGap (gap style depth ++ rest) = skipGap rest := by
  obtain ⟨indent, ascii⟩ := style
  cases indent with
  | none => rfl
  | some n =>
    show List.dropWhile isGap (List.replicate (n * depth) ' ' ++ rest) = _
    induction n * depth with
    | zero => rfl
    | succ k ih =>
      rw [List.replicate_succ, List.cons_append, List.dropWhile_cons_of_pos rfl]
      exact ih

theorem skipGap_afterComma_append (style : Style) (depth : Nat) (rest : List Char) :
    skipGap (afterComma style depth ++ rest) = skipGap rest := by
  obtain ⟨indent, ascii⟩ := style
  cases indent with
  | none => rfl
  | some n => exact skipGap_gap_append ⟨some n, ascii⟩ depth rest

theorem endsNumber_cons {c : Char} (ends : isAsciiDigit c = false ∧ c ≠ '.' ∧ c ≠ 'e' ∧ c ≠ 'E')
    (rest : List Char) : EndsNumber (c :: rest) := by
  intro d first
  cases first
  exact ends

theorem endsNumber_gap {c : Char} (ends : isAsciiDigit c = false ∧ c ≠ '.' ∧ c ≠ 'e' ∧ c ≠ 'E')
    (style : Style) (depth : Nat) (rest : List Char) :
    EndsNumber (gap style depth ++ c :: rest) := by
  obtain ⟨indent, ascii⟩ := style
  cases indent with
  | none => exact endsNumber_cons ends rest
  | some n => exact endsNumber_cons (by decide) _

theorem readValue_of_atom {cs : List Char} (begins : Begins beginsAtom cs) (fuel : Nat)
    (rest : List Char) : readValue (fuel + 1) (cs ++ rest) = readAtom (cs ++ rest) := by
  obtain ⟨c, more, rfl, passed⟩ := begins
  simp only [beginsAtom, Bool.and_eq_true, decide_eq_true_eq] at passed
  obtain ⟨⟨⟨-, quote⟩, bracket⟩, brace⟩ := passed
  unfold readValue
  split
  · next same => exact absurd (List.cons.inj same).1 quote
  · next same => exact absurd (List.cons.inj same).1 bracket
  · next same => exact absurd (List.cons.inj same).1 brace
  · rfl

theorem printText_append (ascii : Bool) (s : String) (rest : List Char) :
    printText ascii s ++ rest = '"' :: (s.toList.flatMap (printChar ascii) ++ '"' :: rest) := by
  rw [printText, List.cons_append, List.cons_append, List.append_assoc, List.singleton_append]

section Readers

variable {fuel : Nat} {cs afterKey afterColon left more after : List Char} {key : String} {x : Json}
  {xs : List Json} {members : List (String × Json)}

/-- A list that is not empty is read as its items. -/
theorem readValue_bracket (begins : Begins beginsValue (skipGap cs))
    (items : readItems fuel (skipGap cs) = .ok (xs, after)) :
    readValue (fuel + 1) ('[' :: cs) = .ok (list xs, after) := by
  simp only [readValue]
  split
  · next closed =>
    obtain ⟨c, rest, same, passed⟩ := begins
    rw [closed] at same
    obtain ⟨rfl, -⟩ := List.cons.inj same
    cases passed
  · rw [items]
    rfl

/-- An object that is not empty is read as its members. -/
theorem readValue_brace (opening : ∃ rest, skipGap cs = '"' :: rest)
    (given : readMembers fuel (skipGap cs) = .ok (members, after)) :
    readValue (fuel + 1) ('\x7b' :: cs) = .ok (object (Entries.ofList members), after) := by
  obtain ⟨rest, same⟩ := opening
  rw [same] at given
  simp only [readValue]
  rw [same]
  exact bind_eq_ok.mpr ⟨(members, after), given, rfl⟩

theorem readItems_last (first : readValue fuel cs = .ok (x, left))
    (closing : skipGap left = ']' :: after) : readItems (fuel + 1) cs = .ok ([x], after) := by
  refine bind_eq_ok.mpr ⟨(x, left), first, ?_⟩
  dsimp only
  rw [closing]
  rfl

theorem readItems_more (first : readValue fuel cs = .ok (x, left))
    (comma : skipGap left = ',' :: more) (others : readItems fuel (skipGap more) = .ok (xs, after)) :
    readItems (fuel + 1) cs = .ok (x :: xs, after) := by
  refine bind_eq_ok.mpr ⟨(x, left), first, ?_⟩
  dsimp only
  rw [comma]
  exact bind_eq_ok.mpr ⟨(xs, after), others, rfl⟩

theorem readMembers_last (named : readText cs = .ok (key, afterKey))
    (colon : skipGap afterKey = ':' :: afterColon)
    (value : readValue fuel (skipGap afterColon) = .ok (x, left))
    (closing : skipGap left = '\x7d' :: after) :
    readMembers (fuel + 1) ('"' :: cs) = .ok ([(key, x)], after) := by
  refine bind_eq_ok.mpr ⟨(key, afterKey), named, ?_⟩
  dsimp only
  rw [colon]
  refine bind_eq_ok.mpr ⟨(x, left), value, ?_⟩
  dsimp only
  rw [closing]
  rfl

theorem readMembers_more (named : readText cs = .ok (key, afterKey))
    (colon : skipGap afterKey = ':' :: afterColon)
    (value : readValue fuel (skipGap afterColon) = .ok (x, left))
    (comma : skipGap left = ',' :: more)
    (others : readMembers fuel (skipGap more) = .ok (members, after)) :
    readMembers (fuel + 1) ('"' :: cs) = .ok ((key, x) :: members, after) := by
  refine bind_eq_ok.mpr ⟨(key, afterKey), named, ?_⟩
  dsimp only
  rw [colon]
  refine bind_eq_ok.mpr ⟨(x, left), value, ?_⟩
  dsimp only
  rw [comma]
  exact bind_eq_ok.mpr ⟨(members, after), others, rfl⟩

end Readers

/-- Whether a value is read as it was written, as far as its parts are. -/
def restorableHere (j : Json) : Bool := distinctHere j && readableHere j

/-- What stands behind the last item of a list or the last member of an object ends a number. -/
theorem endsNumber_items (style : Style) (depth : Nat) (xs : List Json) (outer : Nat)
    (rest : List Char) :
    EndsNumber (printItems style depth xs ++ (gap style outer ++ ']' :: rest)) := by
  cases xs with
  | nil => exact endsNumber_gap (by decide) style outer rest
  | cons x xs => exact endsNumber_cons (by decide) _

theorem endsNumber_members (style : Style) (depth : Nat) (members : List (String × Json))
    (outer : Nat) (rest : List Char) :
    EndsNumber (printMembers style depth members ++ (gap style outer ++ '\x7d' :: rest)) := by
  cases members with
  | nil => exact endsNumber_gap (by decide) style outer rest
  | cons e members => exact endsNumber_cons (by decide) _

mutual

/-- A written value is read, and what follows is left. -/
theorem readValue_printValue (style : Style) : ∀ (j : Json) (depth : Nat) {fuel : Nat}
    {rest : List Char}, steps j ≤ fuel → EndsNumber rest → j.everywhere restorableHere = true →
      readValue fuel (printValue style depth j ++ rest) = .ok (j, rest)
  | list (_ :: _), _, 0, _, enough, _, _ | object (_ :: _), _, 0, _, enough, _, _ => by
    rw [steps] at enough
    omega
  | null, _, fuel + 1, rest, _, _, _ => by rfl
  | bool true, _, fuel + 1, rest, _, _, _ => by rfl
  | bool false, _, fuel + 1, rest, _, _, _ => by rfl
  | int n, _, fuel + 1, rest, _, ends, good => by
    have few : (Nat.toDigits 10 n.natAbs).length ≤ maxIntegerDigits := of_decide_eq_true good
    rw [printValue, readValue_of_atom (begins_printInt n), readAtom_printInt few ends]
  | float x, _, fuel + 1, rest, _, ends, _ => by
    rw [printValue, readValue_of_atom (begins_printDouble x), readAtom_printDouble x ends]
  | text s, _, fuel + 1, rest, _, _, _ => by
    rw [printValue, printText_append]
    exact bind_eq_ok.mpr ⟨(s, rest), readText_printText style.ascii s rest, rfl⟩
  | list [], _, fuel + 1, rest, _, _, _ => by rfl
  | list (x :: xs), depth, fuel + 1, rest, enough, _, good => by
    rw [steps] at enough
    rw [everywhere, Bool.and_eq_true] at good
    have within : stepsItems (x :: xs) ≤ fuel := by omega
    have items := readItems_printItems style depth rest x xs (depth + 1) within good.2
    simp only [printValue, List.cons_append, List.append_assoc, List.nil_append]
    have begins := begins_printValue style (depth + 1) x
    apply readValue_bracket
    · rw [skipGap_gap_append, skipGap_of_begins begins]
      exact begins.append _
    · rw [skipGap_gap_append, skipGap_of_begins begins, items]
  | object [], _, fuel + 1, rest, _, _, _ => by rfl
  | object ((key, x) :: members), depth, fuel + 1, rest, enough, _, good => by
    rw [steps] at enough
    rw [everywhere, Bool.and_eq_true, restorableHere, Bool.and_eq_true] at good
    have distinct : (Entries.keys ((key, x) :: members)).Nodup := of_decide_eq_true good.1.1
    have within : stepsMembers ((key, x) :: members) ≤ fuel := by omega
    have given := readMembers_printMembers style depth rest key x members (depth + 1) within good.2
    have text := skipGap_of_begins (begins_printText style key)
    simp only [printValue, List.cons_append, List.append_assoc, List.nil_append]
    rw [readValue_brace, Entries.ofList_of_nodup distinct]
    · rw [skipGap_gap_append, text]
      exact ⟨_, rfl⟩
    · rw [skipGap_gap_append, text, given]
termination_by j => sizeOf j

theorem readItems_printItems (style : Style) (outer : Nat) (rest : List Char) :
    ∀ (x : Json) (xs : List Json) (depth : Nat) {fuel : Nat},
      stepsItems (x :: xs) ≤ fuel → everywhereItems restorableHere (x :: xs) = true →
      readItems fuel (printValue style depth x ++ (printItems style depth xs ++
        (gap style outer ++ ']' :: rest))) = .ok (x :: xs, rest)
  | x, [], _, 0, enough, _ | x, _ :: _, _, 0, enough, _ => by
    rw [stepsItems] at enough
    omega
  | x, [], depth, fuel + 1, enough, good => by
    rw [stepsItems] at enough
    rw [everywhereItems, Bool.and_eq_true] at good
    refine readItems_last (readValue_printValue style x depth (by omega)
      (endsNumber_items style depth [] outer rest) good.1) ?_
    exact skipGap_gap_append style outer _
  | x, y :: ys, depth, fuel + 1, enough, good => by
    rw [stepsItems] at enough
    rw [everywhereItems, Bool.and_eq_true] at good
    have within : stepsItems (y :: ys) ≤ fuel := by omega
    have others := readItems_printItems style outer rest y ys depth within good.2
    have comma : skipGap (printItems style depth (y :: ys) ++ (gap style outer ++ ']' :: rest)) =
        ',' :: (afterComma style depth ++ (printValue style depth y ++ (printItems style depth ys ++
          (gap style outer ++ ']' :: rest)))) := by
      simp only [printItems, List.cons_append, List.append_assoc]
      rfl
    refine readItems_more (readValue_printValue style x depth (by omega)
      (endsNumber_items style depth (y :: ys) outer rest) good.1) comma ?_
    rw [skipGap_afterComma_append, skipGap_of_begins (begins_printValue style depth y)]
    exact others
termination_by x xs => sizeOf x + sizeOf xs

theorem readMembers_printMembers (style : Style) (outer : Nat) (rest : List Char) :
    ∀ (key : String) (x : Json) (members : List (String × Json)) (depth : Nat) {fuel : Nat},
      stepsMembers ((key, x) :: members) ≤ fuel →
      everywhereMembers restorableHere ((key, x) :: members) = true →
      readMembers fuel (printText style.ascii key ++ (':' :: ' ' :: (printValue style depth x ++
        (printMembers style depth members ++ (gap style outer ++ '\x7d' :: rest))))) =
          .ok ((key, x) :: members, rest)
  | key, x, [], _, 0, enough, _ | key, x, _ :: _, _, 0, enough, _ => by
    rw [stepsMembers] at enough
    omega
  | key, x, [], depth, fuel + 1, enough, good => by
    rw [stepsMembers] at enough
    rw [everywhereMembers, Bool.and_eq_true] at good
    have within : steps x ≤ fuel := by omega
    have value := readValue_printValue style x depth within
      (endsNumber_members style depth [] outer rest) good.1
    rw [← skipGap_of_begins (begins_printValue style depth x)] at value
    rw [printText_append]
    exact readMembers_last (readText_printText style.ascii key _) rfl value
      (skipGap_gap_append style outer _)
  | key, x, (key', y) :: members, depth, fuel + 1, enough, good => by
    rw [stepsMembers] at enough
    rw [everywhereMembers, Bool.and_eq_true] at good
    have within : steps x ≤ fuel := by omega
    have value := readValue_printValue style x depth within
      (endsNumber_members style depth ((key', y) :: members) outer rest) good.1
    have behind : stepsMembers ((key', y) :: members) ≤ fuel := by omega
    have others := readMembers_printMembers style outer rest key' y members depth behind good.2
    have comma : skipGap (printMembers style depth ((key', y) :: members) ++
        (gap style outer ++ '\x7d' :: rest)) = ',' :: (afterComma style depth ++
          (printText style.ascii key' ++ (':' :: ' ' :: (printValue style depth y ++
            (printMembers style depth members ++ (gap style outer ++ '\x7d' :: rest)))))) := by
      simp only [printMembers, List.cons_append, List.append_assoc]
      rfl
    rw [← skipGap_of_begins (begins_printValue style depth x)] at value
    rw [printText_append]
    refine readMembers_more (readText_printText style.ascii key _) rfl value comma ?_
    rw [skipGap_afterComma_append, skipGap_of_begins (begins_printText style key')]
    exact others
termination_by _ x members => sizeOf x + sizeOf members

end

theorem endsNumber_of_gaps {blanks : List Char} (gaps : ∀ c ∈ blanks, isGap c = true) :
    EndsNumber blanks := by
  intro c first
  have gap := gaps c (List.mem_of_mem_head? first)
  simp only [isGap, Bool.or_eq_true, decide_eq_true_eq, or_assoc] at gap
  rcases gap with rfl | rfl | rfl | rfl <;> decide

/-- A written value is the whole of its text, even when blanks follow. -/
theorem readWhole_printValue (style : Style) {j : Json} (good : j.everywhere restorableHere = true)
    {blanks : List Char} (gaps : ∀ c ∈ blanks, isGap c = true) :
    readWhole (printValue style 0 j ++ blanks) = .ok j := by
  have begins := begins_printValue style 0 j
  have enough : steps j ≤ 2 * (printValue style 0 j ++ blanks).length + 2 := by
    have least := steps_le_length style 0 j
    rw [List.length_append]
    omega
  have value := readValue_printValue style j 0 enough (endsNumber_of_gaps gaps) good
  have nothing : skipGap blanks = [] := List.dropWhile_eq_nil_iff.mpr gaps
  have unmarked : (printValue style 0 j ++ blanks).head?.any (·.toNat = 0xFEFF) = false := by
    obtain ⟨c, rest, chars, passed⟩ := begins
    simp only [beginsValue, Bool.and_eq_true, decide_eq_true_eq] at passed
    rw [chars]
    exact decide_eq_false passed.2
  unfold readWhole
  rw [unmarked, skipGap_of_begins begins, value]
  refine bind_eq_ok.mpr ⟨(j, blanks), rfl, ?_⟩
  dsimp only
  rw [nothing]
  rfl

/-- A value that is written in a style is read as the same value, even when blanks follow it. -/
theorem parse_print (style : Style) {j : Json} (distinct : j.hasDistinctKeys = true)
    (few : j.hasReadableIntegers = true) {blanks : String}
    (gaps : ∀ c ∈ blanks.toList, isGap c = true) : parse (print style j ++ blanks) = .ok j := by
  have good : j.everywhere restorableHere = true := by
    show j.everywhere (fun x => distinctHere x && readableHere x) = true
    rw [everywhere_and, Bool.and_eq_true]
    exact ⟨distinct, few⟩
  unfold parse print
  rw [String.toList_append, String.toList_ofList, readWhole_printValue style good gaps]
  rfl

end InvoiceForms.Json
