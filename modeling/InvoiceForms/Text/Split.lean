/-!
# Cutting at a separator

`pieces sep cs` cuts a list, such as the characters of a text, at every `sep`. The result is a first
piece and the list of the others, so it is never empty. Joining the pieces again gives the list back
(`join_split`).
-/

namespace InvoiceForms.Text

variable {α : Type} [DecidableEq α]

/-- The pieces of a list between the occurrences of a separator: the first one, and the rest. -/
def pieces (sep : α) : List α → List α × List (List α)
  | [] => ([], [])
  | c :: cs =>
    let (first, rest) := pieces sep cs
    if c = sep then ([], first :: rest) else (c :: first, rest)

/-- The pieces as one list. -/
def split (sep : α) (cs : List α) : List (List α) :=
  (pieces sep cs).1 :: (pieces sep cs).2

/-- Pieces with the separator written between them. -/
def join (sep : α) : List (List α) → List α
  | [] => []
  | [p] => p
  | p :: q :: rest => p ++ sep :: join sep (q :: rest)

/-- Joining the pieces of a list gives the list back. -/
theorem join_split (sep : α) (cs : List α) : join sep (split sep cs) = cs := by
  induction cs with
  | nil => rfl
  | cons c cs ih =>
    simp only [split] at ih ⊢
    by_cases h : c = sep
    · simp [pieces, h, join, ih]
    · simp only [pieces, h, if_false]
      cases hr : (pieces sep cs).2 with
      | nil => simpa [join, hr] using ih
      | cons q rest => simpa [join, hr] using ih

/-- Strings with a separator text between them. -/
def joinWith (sep : String) (parts : List String) : String :=
  String.intercalate sep parts

end InvoiceForms.Text
