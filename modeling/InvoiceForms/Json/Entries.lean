/-!
# Ordered entries

A mapping with string keys, kept as the list of its entries in the order of their first insertion.
`Entries.set` replaces a value in place and appends a new key, so no key occurs twice in entries
built by it (`keys_set`). `Entries.get?` finds the value of a key.
-/

namespace InvoiceForms

/-- Entries of a mapping, in order. -/
abbrev Entries (α : Type) := List (String × α)

namespace Entries

variable {α β : Type}

/-- The keys, in order. -/
def keys (m : Entries α) : List String := m.map Prod.fst

/-- The values, in order. -/
def values (m : Entries α) : List α := m.map Prod.snd

/-- The value of a key. -/
def get? (key : String) : Entries α → Option α
  | [] => none
  | (k, v) :: m => if k = key then some v else get? key m

/-- Whether a key has a value. -/
def has (key : String) (m : Entries α) : Bool := (m.get? key).isSome

/-- Gives a key a value: in its place, or at the end for a new key. -/
def set (key : String) (value : α) : Entries α → Entries α
  | [] => [(key, value)]
  | (k, v) :: m => if k = key then (k, value) :: m else (k, v) :: set key value m

/-- Removes a key. -/
def erase (key : String) : Entries α → Entries α
  | [] => []
  | (k, v) :: m => if k = key then m else (k, v) :: erase key m

/-- Puts all entries of a list in, from left to right. -/
def setAll (m : Entries α) (more : List (String × α)) : Entries α :=
  more.foldl (fun m e => set e.1 e.2 m) m

/-- The mapping that a list of pairs describes: a repeated key keeps its first place and takes its
last value. -/
def ofList (pairs : List (String × α)) : Entries α := setAll [] pairs

/-- Applies a function to every value. -/
def mapValues (f : α → β) (m : Entries α) : Entries β := m.map fun e => (e.1, f e.2)

/-- Setting a key makes it a key of the mapping and keeps the order of the others. -/
theorem keys_set (key : String) (value : α) (m : Entries α) :
    keys (set key value m) = if key ∈ keys m then keys m else keys m ++ [key] := by
  induction m with
  | nil => simp [set, keys]
  | cons e m ih =>
    obtain ⟨k, v⟩ := e
    by_cases h : k = key
    · simp [set, keys, h]
    · simp only [keys] at ih
      have h' : ¬ key = k := fun e => h e.symm
      simp only [set, keys, h, if_false, List.map_cons, ih, List.mem_cons, h', false_or]
      split <;> simp_all

/-- A key that was set has the value it was set to. -/
theorem get?_set_self (key : String) (value : α) (m : Entries α) :
    get? key (set key value m) = some value := by
  induction m with
  | nil => simp [set, get?]
  | cons e m ih =>
    obtain ⟨k, v⟩ := e
    by_cases h : k = key
    · simp [set, get?, h]
    · simp [set, get?, h, ih]

/-- Setting a key leaves the values of the others. -/
theorem get?_set_of_ne {key other : String} (distinct : other ≠ key) (value : α) (m : Entries α) :
    get? other (set key value m) = get? other m := by
  induction m with
  | nil => simp [set, get?, Ne.symm distinct]
  | cons e m ih =>
    obtain ⟨k, v⟩ := e
    by_cases h : k = key
    · simp [set, get?, h, Ne.symm distinct]
    · simp only [set, h, if_false, get?, ih]

end Entries

end InvoiceForms
