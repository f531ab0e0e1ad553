import InvoiceForms.Proofs.Content.Blocks

/-!
# How tokens stand to loop blocks

With openers and closers matched as brackets, a token is matched or not, and it stands inside a matched
block or outside all of them. `Placed.ofTokens` says both of every token, from its place alone. Grouping
tokens into parts tells the same (`Part.flatMap_placed_ofTokens`), so what is said of the parts one after
another can be said of the tokens at their places.
-/

namespace InvoiceForms

/-- The place of the closer that closes the opener at a place. -/
def closing? (ts : List Token) (i : Nat) : Option Nat :=
  match ts.drop i with
  | [] => none
  | t :: tail =>
    if t.kind = .opener then
      (Part.takeBlock 0 tail).map fun taken => i + taken.1.length + 1
    else none

variable {ts a : List Token} {i j k : Nat}

theorem closing?_eq_some_iff : closing? ts i = some j ↔ Encloses ts i j := by
  rw [encloses_iff_takeBlock, closing?]
  constructor
  · intro found
    split at found
    · cases found
    · next t tail here =>
      split at found
      · next opens =>
        obtain ⟨⟨body, closer, after⟩, taken, same⟩ := Option.map_eq_some_iff.mp found
        exact ⟨t, tail, body, closer, after, here, opens, taken, same.symm⟩
      · cases found
  · rintro ⟨opener, tail, body, closer, after, here, opens, taken, rfl⟩
    simp [here, opens, taken]

instance (ts : List Token) (i j : Nat) : Decidable (Encloses ts i j) :=
  decidable_of_iff _ closing?_eq_some_iff

/-- An opener that is closed, or a closer that closes. -/
def Matched (ts : List Token) (k : Nat) : Prop := (∃ j, Encloses ts k j) ∨ ∃ i, Encloses ts i k

/-- A place between an opener and the closer that closes it. -/
def Inside (ts : List Token) (k : Nat) : Prop := ∃ i j, Encloses ts i j ∧ i < k ∧ k < j

theorem matched_iff_closing? :
    Matched ts k ↔ (closing? ts k).isSome = true ∨ ∃ i, i < k ∧ closing? ts i = some k := by
  simp only [Matched, Option.isSome_iff_exists, closing?_eq_some_iff]
  refine or_congr_right ⟨?_, ?_⟩
  · rintro ⟨i, encloses⟩
    exact ⟨i, encloses.lt, encloses⟩
  · rintro ⟨i, -, encloses⟩
    exact ⟨i, encloses⟩

theorem inside_iff_closing? :
    Inside ts k ↔ ∃ i, i < k ∧ (closing? ts i).any (k < ·) = true := by
  simp only [Inside, Option.any_eq_true, closing?_eq_some_iff, decide_eq_true_eq]
  constructor
  · rintro ⟨i, j, encloses, before, behind⟩
    exact ⟨i, before, j, encloses, behind⟩
  · rintro ⟨i, before, j, encloses, behind⟩
    exact ⟨i, j, encloses, before, behind⟩

instance (ts : List Token) (k : Nat) : Decidable (Matched ts k) :=
  decidable_of_iff _ matched_iff_closing?.symm

instance (ts : List Token) (k : Nat) : Decidable (Inside ts k) :=
  decidable_of_iff _ inside_iff_closing?.symm

/-- Only openers and closers are matched. -/
theorem Matched.kind (matched : Matched ts k) {t : Token} (here : ts[k]? = some t) :
    t.kind = .opener ∨ t.kind = .closer := by
  rcases matched with ⟨j, encloses⟩ | ⟨i, encloses⟩
  · obtain ⟨u, there, opens⟩ := encloses.opener
    rw [here] at there
    cases there
    exact .inl opens
  · obtain ⟨u, there, closes⟩ := encloses.closer
    rw [here] at there
    cases there
    exact .inr closes

/-- Tokens in front in which no block is left open do not change how the others stand. -/
theorem Apart.matched_iff (apart : Apart a ts) : Matched (a ++ ts) (a.length + k) ↔ Matched ts k := by
  have opened : (∃ j, Encloses (a ++ ts) (a.length + k) j) ↔ ∃ j, Encloses ts k j := by
    constructor
    · rintro ⟨j, encloses⟩
      have := encloses.lt
      obtain ⟨m, rfl⟩ := Nat.exists_eq_add_of_le (show a.length ≤ j by omega)
      exact ⟨m, (Encloses.append_left_iff a).mp encloses⟩
    · rintro ⟨j, encloses⟩
      exact ⟨a.length + j, (Encloses.append_left_iff a).mpr encloses⟩
  have closed : (∃ i, Encloses (a ++ ts) i (a.length + k)) ↔ ∃ i, Encloses ts i k := by
    simp only [apart.encloses_iff]
    constructor
    · rintro ⟨_, i, rfl, encloses⟩
      exact ⟨i, encloses⟩
    · rintro ⟨i, encloses⟩
      exact ⟨a.length + i, i, rfl, encloses⟩
  rw [Matched, Matched, opened, closed]

theorem Apart.inside_iff (apart : Apart a ts) : Inside (a ++ ts) (a.length + k) ↔ Inside ts k := by
  constructor
  · rintro ⟨i, j, encloses, before, behind⟩
    obtain ⟨n, rfl⟩ := Nat.exists_eq_add_of_le (show a.length ≤ j by omega)
    obtain ⟨m, rfl, inner⟩ := apart.encloses_iff.mp encloses
    exact ⟨m, n, inner, by omega, by omega⟩
  · rintro ⟨i, j, encloses, before, behind⟩
    exact ⟨a.length + i, a.length + j, (Encloses.append_left_iff a).mpr encloses, by omega, by omega⟩

/-- A token with how it stands to the blocks around it. -/
structure Placed where
  token : Token
  matched : Bool
  inside : Bool
deriving DecidableEq, Repr

namespace Placed

/-- How the token at a place stands. -/
def ofPlace (ts : List Token) (place : Token × Nat) : Placed where
  token := place.1
  matched := Matched ts place.2
  inside := Inside ts place.2

/-- How tokens stand, in their order. -/
def ofTokens (ts : List Token) : List Placed := ts.zipIdx.map (ofPlace ts)

theorem map_token_ofTokens (ts : List Token) : (ofTokens ts).map (·.token) = ts := by
  rw [ofTokens, List.map_map]
  exact List.zipIdx_map_fst 0 ts

theorem ofTokens_append (apart : Apart a ts) :
    ofTokens (a ++ ts) = a.zipIdx.map (ofPlace (a ++ ts)) ++ ofTokens ts := by
  rw [ofTokens, List.zipIdx_append, List.map_append, Nat.zero_add, ofTokens,
    List.zipIdx_eq_map_add (l := ts), List.map_map]
  congr 1
  apply List.map_congr_left
  intro place _
  simp [ofPlace, apart.matched_iff, apart.inside_iff]

end Placed

/-- A token that is no opener with a closer leaves no block open. -/
theorem Apart.of_never {t : Token} (never : ∀ j, ¬ Encloses (t :: ts) 0 j) : Apart [t] ts := by
  intro i j encloses first
  obtain rfl : i = 0 := by simpa using first
  exact absurd encloses (never j)

section Block

variable {opener closer : Token} {body : List Token} (opens : opener.kind = .opener)
  (inside : Balanced body) (closes : closer.kind = .closer)

include opens inside closes

/-- A whole block leaves none open. -/
theorem Apart.of_block (after : List Token) : Apart (opener :: body ++ [closer]) after := by
  intro i j encloses first
  rw [List.append_assoc, List.singleton_append] at encloses
  have size : (opener :: body ++ [closer]).length = body.length + 2 := by simp
  rw [size] at first ⊢
  have := encloses.within opens inside closes first
  omega

/-- In a block, the places between its opener and its closer are inside. -/
theorem inside_block_iff {after : List Token} (here : k < body.length + 2) :
    Inside (opener :: body ++ closer :: after) k ↔ 0 < k ∧ k < body.length + 1 := by
  constructor
  · rintro ⟨i, j, encloses, before, behind⟩
    have := encloses.within opens inside closes (by omega)
    omega
  · rintro ⟨before, behind⟩
    exact ⟨0, body.length + 1, .of_balanced opens inside closes after, before, behind⟩

/-- In a block, all openers and closers are matched. -/
theorem matched_block_iff {after : List Token} {t : Token} (here : k < body.length + 2)
    (there : (opener :: body ++ closer :: after)[k]? = some t) :
    Matched (opener :: body ++ closer :: after) k ↔ t.kind = .opener ∨ t.kind = .closer := by
  have paired : Paired (opener :: body ++ [closer]) := .block opens inside inside.paired closes
  have whole : opener :: body ++ closer :: after = (opener :: body ++ [closer]) ++ after := by simp
  refine ⟨fun matched => matched.kind there, fun kind => ?_⟩
  rw [whole] at there ⊢
  have early : k < (opener :: body ++ [closer]).length := by
    rw [List.length_append, List.length_cons, List.length_singleton]
    omega
  rw [List.getElem?_append_left early] at there
  rcases kind with isOpener | isCloser
  · obtain ⟨j, encloses⟩ := (paired k t there).1 isOpener
    exact .inl ⟨j, encloses.append_right after⟩
  · obtain ⟨i, encloses⟩ := (paired k t there).2 isCloser
    exact .inr ⟨i, encloses.append_right after⟩

end Block

namespace Part

/-- How the tokens of a part stand. Those of a block's body are inside, and there all openers and closers
are matched. -/
def placed : Part → List Placed
  | single t => [⟨t, false, false⟩]
  | stray t => [⟨t, false, false⟩]
  | unclosed t => [⟨t, false, false⟩]
  | block opener body closer =>
    ⟨opener, true, false⟩ ::
      body.map (fun t => ⟨t, t.kind = .opener ∨ t.kind = .closer, true⟩) ++ [⟨closer, true, false⟩]

/-- A token that is not matched, in front of others. -/
theorem placed_consToken {part : Part} {t : Token} (alone : part.placed = [⟨t, false, false⟩])
    (never : ∀ j, ¬ Encloses (t :: ts) 0 j) :
    Placed.ofTokens (t :: ts) = part.placed ++ Placed.ofTokens ts := by
  have unmatched : ¬ Matched (t :: ts) 0 := by
    rintro (⟨j, encloses⟩ | ⟨i, encloses⟩)
    · exact never j encloses
    · exact Nat.not_lt_zero i encloses.lt
  have outside : ¬ Inside (t :: ts) 0 := by
    rintro ⟨i, j, -, before, -⟩
    exact Nat.not_lt_zero i before
  rw [← List.singleton_append, Placed.ofTokens_append (.of_never never), alone]
  simp [Placed.ofPlace, unmatched, outside]

/-- A block in front of other tokens. -/
theorem placed_consBlock {opener closer : Token} {body : List Token} (opens : opener.kind = .opener)
    (inside : Balanced body) (closes : closer.kind = .closer) :
    Placed.ofTokens (opener :: body ++ closer :: ts) =
      (block opener body closer).placed ++ Placed.ofTokens ts := by
  have whole : opener :: body ++ closer :: ts = (opener :: body ++ [closer]) ++ ts := by simp
  have each (place : Token × Nat) (member : place ∈ (opener :: body ++ [closer]).zipIdx) :
      Placed.ofPlace (opener :: body ++ closer :: ts) place =
        ⟨place.1, place.1.kind = .opener ∨ place.1.kind = .closer,
          0 < place.2 ∧ place.2 < body.length + 1⟩ := by
    have there := List.mem_zipIdx_iff_getElem?.mp member
    have here := (List.getElem?_eq_some_iff.mp there).1
    have early : (opener :: body ++ [closer] ++ ts)[place.2]? = (opener :: body ++ [closer])[place.2]? :=
      List.getElem?_append_left here
    rw [← early, ← whole] at there
    simp only [List.cons_append, List.length_cons, List.length_append, List.length_nil] at here
    simp only [Placed.ofPlace, matched_block_iff opens inside closes (by omega) there,
      inside_block_iff opens inside closes (show place.2 < body.length + 2 by omega)]
  -- The first and the last place are outside, those of the body inside.
  have ofBody : (body.zipIdx 1).map (fun place => (⟨place.1,
        place.1.kind = .opener ∨ place.1.kind = .closer,
        0 < place.2 ∧ place.2 < body.length + 1⟩ : Placed)) =
      body.map fun t => ⟨t, t.kind = .opener ∨ t.kind = .closer, true⟩ := by
    conv_rhs => rw [← List.zipIdx_map_fst 1 body, List.map_map]
    apply List.map_congr_left
    intro place member
    have bounds := List.mem_zipIdx member
    simp only [Function.comp_apply, Placed.mk.injEq, decide_eq_true_eq, true_and]
    omega
  rw [whole, Placed.ofTokens_append (.of_block opens inside closes ts), ← whole,
    List.map_congr_left each, placed, List.cons_append, List.zipIdx_cons, List.zipIdx_append,
    List.map_cons, List.map_append, ofBody]
  simp [opens, closes, Nat.add_comm 1]

/-- Grouping tells how tokens stand. The induction is on the calls of `group`, which takes a token or a
whole block from the front. -/
theorem flatMap_placed_group {fuel : Nat} (enough : ts.length ≤ fuel) :
    (group fuel ts).flatMap placed = Placed.ofTokens ts := by
  fun_induction group fuel ts with
  | case1 ts =>
    obtain rfl : ts = [] := List.length_eq_zero_iff.mp (Nat.le_zero.mp enough)
    rfl
  | case2 => rfl
  | case3 fuel t ts kind body closer rest taken ih =>
    obtain ⟨inside, closes⟩ := closes_of_takeBlock taken
    obtain rfl := eq_append_of_takeBlock taken
    simp only [List.length_cons, List.length_append] at enough
    rw [List.flatMap_cons, ih (by omega)]
    exact (placed_consBlock kind inside closes).symm
  | case4 fuel t ts kind taken ih =>
    rw [List.flatMap_cons, ih (Nat.le_of_succ_le_succ enough)]
    refine (placed_consToken rfl fun j encloses => ?_).symm
    obtain ⟨_, _, _, _, _, here, -, found, -⟩ := encloses_iff_takeBlock.mp encloses
    cases here
    rw [taken] at found
    cases found
  | case5 fuel t ts kind ih =>
    rw [List.flatMap_cons, ih (Nat.le_of_succ_le_succ enough)]
    refine (placed_consToken rfl fun j encloses => ?_).symm
    obtain ⟨_, here, opens⟩ := encloses.opener
    cases here
    exact absurd (kind.symm.trans opens) (by decide)
  | case6 fuel t ts notOpener notCloser ih =>
    rw [List.flatMap_cons, ih (Nat.le_of_succ_le_succ enough)]
    refine (placed_consToken rfl fun j encloses => ?_).symm
    obtain ⟨_, here, opens⟩ := encloses.opener
    cases here
    exact notOpener opens

theorem flatMap_placed_ofTokens (ts : List Token) :
    (ofTokens ts).flatMap placed = Placed.ofTokens ts :=
  flatMap_placed_group (Nat.le_refl ts.length)

/-- What kinds of tokens a part is made of. -/
def WellFormed : Part → Prop
  | single t => t.kind ≠ .opener ∧ t.kind ≠ .closer
  | stray t => t.kind = .closer
  | unclosed t => t.kind = .opener
  | block opener body closer => opener.kind = .opener ∧ Balanced body ∧ closer.kind = .closer

theorem wellFormed_of_mem_group {fuel : Nat} {part : Part} (member : part ∈ group fuel ts) :
    part.WellFormed := by
  fun_induction group fuel ts with
  | case1 => cases member
  | case2 => cases member
  | case3 fuel t ts kind body closer rest taken ih =>
    rcases List.mem_cons.mp member with rfl | later
    · obtain ⟨inside, closes⟩ := closes_of_takeBlock taken
      exact ⟨kind, inside, closes⟩
    · exact ih later
  | case4 fuel t ts kind taken ih | case5 fuel t ts kind ih =>
    rcases List.mem_cons.mp member with rfl | later
    · exact kind
    · exact ih later
  | case6 fuel t ts notOpener notCloser ih =>
    rcases List.mem_cons.mp member with rfl | later
    · exact ⟨notOpener, notCloser⟩
    · exact ih later

theorem wellFormed_of_mem_ofTokens {part : Part} (member : part ∈ ofTokens ts) : part.WellFormed :=
  wellFormed_of_mem_group member

end Part

end InvoiceForms
