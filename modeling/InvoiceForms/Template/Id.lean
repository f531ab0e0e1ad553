/-!
# Template ids

The id of a template doubles as a file name. It consists of ASCII letters, digits, underscores, dots
and hyphens, and of more than dots.
-/

namespace InvoiceForms.TemplateId

/-- Whether a character may stand in an id. -/
def isIdChar (c : Char) : Bool :=
  ('A' ≤ c && c ≤ 'Z') || ('a' ≤ c && c ≤ 'z') || ('0' ≤ c && c ≤ '9') ||
    c = '_' || c = '.' || c = '-'

/-- Whether a text consists of such characters, of one at least. -/
def isIdText (cs : List Char) : Bool := !cs.isEmpty && cs.all isIdChar

/-- Whether a text is an id. -/
def isValid (id : String) : Bool := isIdText id.toList && id.toList.any (· ≠ '.')

/-- The pattern of ids in messages. -/
def pattern : String := "^[A-Za-z0-9_.-]+$"

/-- An id has only the characters of ids. -/
theorem isIdChar_of_isValid {id : String} (valid : isValid id = true) {c : Char}
    (member : c ∈ id.toList) : isIdChar c = true := by
  simp only [isValid, isIdText, Bool.and_eq_true, List.all_eq_true] at valid
  exact valid.1.2 c member

/-- The characters of ids lie in three ranges of ASCII, those of the capital letters, of the small
letters and of the digits, and three stand alone. -/
theorem toNat_of_isIdChar {c : Char} (letter : isIdChar c = true) :
    (65 ≤ c.toNat ∧ c.toNat ≤ 90) ∨ (97 ≤ c.toNat ∧ c.toNat ≤ 122) ∨
      (48 ≤ c.toNat ∧ c.toNat ≤ 57) ∨ c.toNat = 95 ∨ c.toNat = 46 ∨ c.toNat = 45 := by
  simp only [isIdChar, Bool.or_eq_true, Bool.and_eq_true, decide_eq_true_eq, Char.le_def,
    UInt32.le_iff_toNat_le, or_assoc] at letter
  rcases letter with capital | small | digit | rfl | rfl | rfl
  · exact .inl capital
  · exact .inr (.inl small)
  · exact .inr (.inr (.inl digit))
  all_goals decide

/-- An id is not empty. -/
theorem ne_empty_of_isValid {id : String} (valid : isValid id = true) : id.toList ≠ [] := by
  intro h
  simp [isValid, isIdText, h] at valid

end InvoiceForms.TemplateId
