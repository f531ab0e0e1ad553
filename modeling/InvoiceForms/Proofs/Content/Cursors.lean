import InvoiceForms.Proofs.Content.FirstLoop

/-!
# Walking over the body of a loop

Where a block ends can be read off a count: an opener is one block more, a closer one less, and the block
of an opener ends where the count from there on comes back to zero for the first time. A row goes over the
body of its loop from place to place, and from an opener to behind the end of its block. In a body, this walk
meets no closer and no opener without one (`Part.ends_by_count`).
-/

namespace InvoiceForms

namespace Token

/-- What a token adds to the number of open blocks. -/
def weight (t : Token) : Int :=
  match t.kind with
  | .opener => 1
  | .closer => -1
  | _ => 0

/-- How many blocks are open behind tokens; closers without openers count below zero. -/
def depth : List Token → Int
  | [] => 0
  | t :: ts => t.weight + depth ts

@[simp] theorem depth_nil : depth [] = 0 := rfl

@[simp] theorem depth_cons (t : Token) (ts : List Token) : depth (t :: ts) = t.weight + depth ts := rfl

@[simp] theorem depth_append (ts us : List Token) : depth (ts ++ us) = depth ts + depth us := by
  induction ts with
  | nil => exact (Int.zero_add _).symm
  | cons t ts ih => rw [List.cons_append, depth_cons, depth_cons, ih, Int.add_assoc]

variable {t : Token}

theorem weight_opener (opens : t.kind = .opener) : t.weight = 1 := by
  rw [weight, opens]

theorem weight_closer (closes : t.kind = .closer) : t.weight = -1 := by
  rw [weight, closes]

theorem weight_plain (notOpener : t.kind ≠ .opener) (notCloser : t.kind ≠ .closer) : t.weight = 0 := by
  unfold weight
  split <;> first | contradiction | rfl

theorem closes_of_weight_neg (negative : t.weight < 0) : t.kind = .closer := by
  unfold weight at negative
  split at negative <;> first | assumption | omega

end Token

open Token

namespace Part

/-- Whether the tokens from the place `i` to the place `e` are balanced, as many closers as openers, and in
each proper part of them from `i` on there are more openers. -/
structure Settles (ts : List Token) (i e : Nat) : Prop where
  le : i ≤ e
  inRange : e < ts.length
  balanced : depth ((ts.drop i).take (e - i + 1)) = 0
  positive : ∀ n, 0 < n → n ≤ e - i → 0 < depth ((ts.drop i).take n)

/-- Where the block of the opener at a place ends, as grouping finds it. -/
def blockEnd? (ts : List Token) (i : Nat) : Option Nat :=
  match ts.drop i with
  | [] => none
  | _ :: tail => (takeBlock 0 tail).map fun taken => i + taken.1.length + 1

section Counting

variable {ts body after : List Token} {opener closer t : Token} {open_ i e : Nat}

/-- What is taken off closes the blocks that were open, and none of its beginnings closes more. -/
theorem depth_of_takeBlock (taken : takeBlock open_ ts = some (body, closer, after)) :
    open_ + depth body = 0 ∧ ∀ n ≤ body.length, 0 ≤ open_ + depth (body.take n) := by
  induction ts generalizing open_ body with
  | nil => cases taken
  | cons t ts ih =>
    -- What is taken off behind the first token, where `d` blocks are open.
    have further {d : Nat} (weight : open_ + t.weight = d)
        (h : (takeBlock d ts).map (fun r => (t :: r.1, r.2)) = some (body, closer, after)) :
        open_ + depth body = 0 ∧ ∀ n ≤ body.length, 0 ≤ open_ + depth (body.take n) := by
      obtain ⟨⟨inner, c, r⟩, found, same⟩ := Option.map_eq_some_iff.mp h
      simp only [Prod.mk.injEq] at same
      obtain ⟨rfl, rfl, rfl⟩ := same
      obtain ⟨zero, nonneg⟩ := ih found
      refine ⟨by rw [depth_cons]; omega, fun n short => ?_⟩
      cases n with
      | zero => simp
      | succ n =>
        have := nonneg n (Nat.le_of_succ_le_succ short)
        rw [List.take_succ_cons, depth_cons]
        omega
    by_cases isOpener : t.kind = .opener
    · rw [takeBlock_opener isOpener] at taken
      exact further (by rw [weight_opener isOpener]; rfl) taken
    by_cases isCloser : t.kind = .closer
    · cases open_ with
      | zero =>
        rw [takeBlock_closer_zero isCloser] at taken
        cases taken
        exact ⟨rfl, by simp⟩
      | succ open_ =>
        rw [takeBlock_closer_succ isCloser] at taken
        exact further (by rw [weight_closer isCloser]; omega) taken
    · rw [takeBlock_plain isOpener isCloser] at taken
      exact further (by rw [weight_plain isOpener isCloser, Int.add_zero]) taken

/-- Tokens that close the blocks that are open, and no more on the way, are taken off. -/
theorem takeBlock_of_depth (closes : closer.kind = .closer) (zero : open_ + depth body = 0)
    (nonneg : ∀ n ≤ body.length, 0 ≤ open_ + depth (body.take n)) :
    takeBlock open_ (body ++ closer :: after) = some (body, closer, after) := by
  induction body generalizing open_ with
  | nil =>
    obtain rfl : open_ = 0 := by simpa using zero
    exact takeBlock_closer_zero closes after
  | cons t body ih =>
    have first := nonneg 1 (by simp)
    rw [List.take_succ_cons, List.take_zero, depth_cons, depth_nil] at first
    have further {d : Nat} (weight : open_ + t.weight = d) :
        takeBlock d (body ++ closer :: after) = some (body, closer, after) := by
      refine ih (by rw [depth_cons] at zero; omega) fun n short => ?_
      have := nonneg (n + 1) (Nat.succ_le_succ short)
      rw [List.take_succ_cons, depth_cons] at this
      omega
    rw [List.cons_append]
    by_cases isOpener : t.kind = .opener
    · rw [takeBlock_opener isOpener, further (by rw [weight_opener isOpener]; rfl)]
      rfl
    by_cases isCloser : t.kind = .closer
    · rw [weight_closer isCloser] at first
      obtain ⟨d, rfl⟩ : ∃ d, open_ = d + 1 := ⟨open_ - 1, by omega⟩
      rw [takeBlock_closer_succ isCloser, further (by rw [weight_closer isCloser]; omega)]
      rfl
    · rw [takeBlock_plain isOpener isCloser,
        further (by rw [weight_plain isOpener isCloser, Int.add_zero])]
      rfl

theorem drop_of_getElem? (there : ts[i]? = some t) : ts.drop i = t :: ts.drop (i + 1) := by
  obtain ⟨inRange, rfl⟩ := List.getElem?_eq_some_iff.mp there
  exact List.drop_eq_getElem_cons inRange

theorem blockEnd?_of_getElem? (there : ts[i]? = some t) :
    blockEnd? ts i = (takeBlock 0 (ts.drop (i + 1))).map fun taken => i + taken.1.length + 1 := by
  rw [blockEnd?, drop_of_getElem? there]

/-- The block of an opener ends where the closer stands that closes it. -/
theorem blockEnd?_eq_some_iff_encloses (there : ts[i]? = some opener) (opens : opener.kind = .opener) :
    blockEnd? ts i = some e ↔ Encloses ts i e := by
  rw [blockEnd?_of_getElem? there, encloses_iff_takeBlock, Option.map_eq_some_iff,
    drop_of_getElem? there]
  constructor
  · rintro ⟨⟨body, closer, after⟩, taken, rfl⟩
    exact ⟨opener, _, body, closer, after, rfl, opens, taken, rfl⟩
  · rintro ⟨_, _, body, closer, after, here, -, taken, rfl⟩
    obtain ⟨rfl, rfl⟩ := List.cons.inj here
    exact ⟨(body, closer, after), taken, rfl⟩

/-- A block that ends by the count has a body that is balanced by the count. -/
theorem Settles.exists_body (settles : Settles ts i e) (there : ts[i]? = some opener)
    (opens : opener.kind = .opener) : ∃ body closer after, ts.drop (i + 1) = body ++ closer :: after ∧
      closer.kind = .closer ∧ depth body = 0 ∧ (∀ n ≤ body.length, 0 ≤ depth (body.take n)) ∧
      e = i + body.length + 1 := by
  obtain ⟨le, inRange, balanced, positive⟩ := settles
  simp only [drop_of_getElem? there] at balanced positive
  have one := weight_opener opens
  -- Something stands behind the opener, which is not balanced by itself.
  have lt : i < e := by
    rcases Nat.lt_or_eq_of_le le with lt | rfl
    · exact lt
    · rw [Nat.sub_self, List.take_succ_cons, List.take_zero, depth_cons, depth_nil, one] at balanced
      cases balanced
  obtain ⟨m, rfl⟩ := Nat.exists_eq_add_of_lt lt
  have inTail : m < (ts.drop (i + 1)).length := by
    rw [List.length_drop]
    omega
  have short : ((ts.drop (i + 1)).take m).length = m := List.length_take_of_le (Nat.le_of_lt inTail)
  have nonneg (n : Nat) (within : n ≤ m) : 0 ≤ depth ((ts.drop (i + 1)).take n) := by
    have := positive (n + 1) (Nat.succ_pos n) (by omega)
    rw [List.take_succ_cons, depth_cons, one] at this
    omega
  -- The count is positive before the last token and zero behind it.
  have before := nonneg m (Nat.le_refl m)
  rw [show i + m + 1 - i + 1 = (m + 1) + 1 by omega, List.take_succ_cons, depth_cons, one,
    List.take_succ_eq_append_getElem inTail, depth_append, depth_cons, depth_nil] at balanced
  have closes : ((ts.drop (i + 1))[m]).kind = .closer := closes_of_weight_neg (by omega)
  have minus := weight_closer closes
  refine ⟨(ts.drop (i + 1)).take m, (ts.drop (i + 1))[m], (ts.drop (i + 1)).drop (m + 1), ?_, closes,
    by omega, fun n within => ?_, by rw [short]⟩
  · rw [← List.drop_eq_getElem_cons inTail, List.take_append_drop]
  · rw [short] at within
    rw [List.take_take, Nat.min_eq_left within]
    exact nonneg n within

/-- A body that is balanced by the count makes a block that ends by the count. -/
theorem Settles.of_body (there : ts[i]? = some opener) (opens : opener.kind = .opener)
    (tail : ts.drop (i + 1) = body ++ closer :: after) (closes : closer.kind = .closer)
    (zero : depth body = 0) (nonneg : ∀ n ≤ body.length, 0 ≤ depth (body.take n)) :
    Settles ts i (i + body.length + 1) := by
  have whole : ts.drop i = opener :: (body ++ closer :: after) := by rw [drop_of_getElem? there, tail]
  have long := congrArg List.length tail
  rw [List.length_drop, List.length_append, List.length_cons] at long
  have one := weight_opener opens
  have minus := weight_closer closes
  refine ⟨by omega, by omega, ?_, fun n positive short => ?_⟩
  · have cut : (body ++ closer :: after).take (body.length + 1) = body ++ [closer] := by
      rw [List.take_length_add_append]
      rfl
    rw [whole, show i + body.length + 1 - i + 1 = (body.length + 1) + 1 by omega, List.take_succ_cons, cut]
    simp only [depth_cons, depth_append, depth_nil]
    omega
  · obtain ⟨n, rfl⟩ := Nat.exists_eq_add_of_lt positive
    have within : n ≤ body.length := by omega
    have := nonneg n within
    rw [whole, Nat.zero_add, List.take_succ_cons, List.take_append_of_le_length within, depth_cons]
    omega

/-- The block of an opener ends where the count of open blocks comes back to zero first. -/
theorem blockEnd?_eq_some_iff (there : ts[i]? = some opener) (opens : opener.kind = .opener) :
    blockEnd? ts i = some e ↔ Settles ts i e := by
  rw [blockEnd?_of_getElem? there, Option.map_eq_some_iff]
  constructor
  · rintro ⟨⟨body, closer, after⟩, taken, rfl⟩
    obtain ⟨zero, nonneg⟩ := depth_of_takeBlock taken
    exact .of_body there opens (eq_append_of_takeBlock taken) (closes_of_takeBlock taken).2
      (by simpa using zero) (by simpa using nonneg)
  · intro settles
    obtain ⟨body, closer, after, tail, closes, zero, nonneg, rfl⟩ := settles.exists_body there opens
    refine ⟨(body, closer, after), ?_, rfl⟩
    rw [tail]
    exact takeBlock_of_depth closes (by simpa using zero) (by simpa using nonneg)

/-- Tokens in front move the ends of blocks, and that is all they do. -/
theorem blockEnd?_append (front ts : List Token) (i : Nat) :
    blockEnd? (front ++ ts) (front.length + i) = (blockEnd? ts i).map (front.length + ·) := by
  unfold blockEnd?
  rw [List.drop_length_add_append]
  cases ts.drop i with
  | nil => rfl
  | cons t tail =>
    dsimp only
    cases takeBlock 0 tail with
    | none => rfl
    | some taken => simp [Nat.add_assoc]

end Counting

/-- Where the walk over tokens goes on from a place: behind the block of an opener, else behind the token. -/
def nextPlace (ts : List Token) (i : Nat) : Nat :=
  match ts[i]? with
  | some t => if t.kind = .opener then ((blockEnd? ts i).getD i) + 1 else i + 1
  | none => i + 1

/-- The places that the walk over tokens comes to, and the one behind the last token. -/
inductive Visits (ts : List Token) : Nat → Prop
  | start : Visits ts 0
  | next {i : Nat} (before : Visits ts i) (inRange : i < ts.length) : Visits ts (nextPlace ts i)

section Walking

variable {ts front body : List Token} {t : Token} {i : Nat}

theorem nextPlace_append (front ts : List Token) (i : Nat) :
    nextPlace (front ++ ts) (front.length + i) = front.length + nextPlace ts i := by
  unfold nextPlace
  rw [getElem?_behind, blockEnd?_append]
  cases ts[i]? with
  | none => rfl
  | some t =>
    dsimp only
    split
    · cases blockEnd? ts i <;> simp [Nat.add_assoc]
    · rfl

theorem nextPlace_of_not_opener (there : ts[i]? = some t) (notOpener : t.kind ≠ .opener) :
    nextPlace ts i = i + 1 := by
  rw [nextPlace, there]
  exact if_neg notOpener

theorem nextPlace_of_opener (there : ts[i]? = some t) (opens : t.kind = .opener) :
    nextPlace ts i = ((blockEnd? ts i).getD i) + 1 := by
  rw [nextPlace, there]
  exact if_pos opens

/-- The walk comes to what is in front of other tokens, and goes on from behind it. -/
theorem visits_append_iff (nonempty : front ≠ []) (whole : nextPlace (front ++ ts) 0 = front.length) :
    Visits (front ++ ts) i ↔ i = 0 ∨ ∃ k, i = front.length + k ∧ Visits ts k := by
  have positive := List.length_pos_iff.mpr nonempty
  constructor
  · intro visits
    induction visits with
    | start => exact .inl rfl
    | @next i _ inRange ih =>
      rcases ih with rfl | ⟨k, rfl, visits⟩
      · exact .inr ⟨0, by rw [whole, Nat.add_zero], .start⟩
      · rw [List.length_append] at inRange
        exact .inr ⟨nextPlace ts k, nextPlace_append front ts k, visits.next (by omega)⟩
  · rintro (rfl | ⟨k, rfl, visits⟩)
    · exact .start
    · induction visits with
      | start =>
        have first : Visits (front ++ ts) (nextPlace (front ++ ts) 0) :=
          .next .start (by rw [List.length_append]; omega)
        rwa [whole] at first
      | @next k _ inRange ih =>
        rw [← nextPlace_append front ts k]
        exact ih.next (by rw [List.length_append]; omega)

/-- Behind a part that the walk passes over in one step, the parts begin where the walk goes on. -/
theorem mem_places_cons_iff_visits {part : Part} {parts : List Part}
    (whole : nextPlace (part.tokens ++ ts) 0 = part.tokens.length)
    (others : ∀ i, i ∈ places (fun _ => true) parts ↔ Visits ts i ∧ i < ts.length) (i : Nat) :
    i ∈ places (fun _ => true) (part :: parts) ↔
      Visits (part.tokens ++ ts) i ∧ i < (part.tokens ++ ts).length := by
  have positive := part.length_tokens_pos
  rw [mem_places_cons, visits_append_iff (List.length_pos_iff.mp positive) whole, List.length_append]
  constructor
  · rintro (⟨-, rfl⟩ | ⟨k, rfl, member⟩)
    · exact ⟨.inl rfl, by omega⟩
    · obtain ⟨visits, inRange⟩ := (others k).mp member
      exact ⟨.inr ⟨k, rfl, visits⟩, by omega⟩
  · rintro ⟨rfl | ⟨k, rfl, visits⟩, inRange⟩
    · exact .inl ⟨rfl, rfl⟩
    · exact .inr ⟨k, rfl, (others k).mpr ⟨visits, by omega⟩⟩

/-- Parts begin where the walk comes to. The induction is on the calls of `group`, which takes a token or a
whole block from the front. -/
theorem mem_places_group_iff {fuel : Nat} (enough : ts.length ≤ fuel) (i : Nat) :
    i ∈ places (fun _ => true) (group fuel ts) ↔ Visits ts i ∧ i < ts.length := by
  have empty (i : Nat) : i ∈ places (fun _ => true) [] ↔ Visits [] i ∧ i < ([] : List Token).length := by
    simp [places]
  fun_induction group fuel ts generalizing i with
  | case1 ts =>
    obtain rfl : ts = [] := List.length_eq_zero_iff.mp (Nat.le_zero.mp enough)
    exact empty i
  | case2 => exact empty i
  | case3 fuel t ts opens body closer rest taken ih =>
    have ends : blockEnd? (t :: ts) 0 = some (0 + body.length + 1) := by
      rw [blockEnd?_of_getElem? rfl, Nat.zero_add, List.drop_succ_cons, List.drop_zero, taken]
      simp
    obtain rfl := eq_append_of_takeBlock taken
    have tokens : (block t body closer).tokens ++ rest = t :: (body ++ closer :: rest) := by
      simp [Part.tokens]
    simp only [List.length_cons, List.length_append] at enough
    rw [← tokens]
    refine mem_places_cons_iff_visits ?_ (ih (by omega)) i
    rw [tokens, nextPlace_of_opener rfl opens, ends]
    simp [Part.tokens]
  | case4 fuel t ts opens taken ih =>
    have ends : blockEnd? (t :: ts) 0 = none := by
      rw [blockEnd?_of_getElem? rfl, Nat.zero_add, List.drop_succ_cons, List.drop_zero, taken]
      rfl
    have whole : nextPlace ((unclosed t).tokens ++ ts) 0 = (unclosed t).tokens.length := by
      show nextPlace (t :: ts) 0 = 1
      rw [nextPlace_of_opener rfl opens, ends]
      rfl
    exact mem_places_cons_iff_visits whole (ih (Nat.le_of_succ_le_succ enough)) i
  | case5 fuel t ts closes ih =>
    have whole : nextPlace ((stray t).tokens ++ ts) 0 = (stray t).tokens.length :=
      nextPlace_of_not_opener rfl (by rw [closes]; decide)
    exact mem_places_cons_iff_visits whole (ih (Nat.le_of_succ_le_succ enough)) i
  | case6 fuel t ts notOpener notCloser ih =>
    have whole : nextPlace ((single t).tokens ++ ts) 0 = (single t).tokens.length :=
      nextPlace_of_not_opener rfl notOpener
    exact mem_places_cons_iff_visits whole (ih (Nat.le_of_succ_le_succ enough)) i

/-- The walk over balanced tokens has balanced tokens before it wherever it comes to. -/
theorem balanced_of_visits (balanced : Balanced ts) (visits : Visits ts i) :
    i ≤ ts.length ∧ Balanced (ts.drop i) := by
  induction visits with
  | start => exact ⟨Nat.zero_le _, balanced⟩
  | @next i _ inRange ih =>
    obtain ⟨-, rest⟩ := ih
    have there : ts[i]? = some ts[i] := List.getElem?_eq_getElem inRange
    have whole := List.drop_eq_getElem_cons inRange
    generalize ahead : ts.drop i = us at rest
    cases rest with
    | nil =>
      rw [ahead] at whole
      cases whole
    | plain t us notOpener notCloser tail =>
      rw [ahead] at whole
      obtain ⟨here, rfl⟩ := List.cons.inj whole
      rw [nextPlace_of_not_opener there (here ▸ notOpener)]
      exact ⟨inRange, tail⟩
    | block opener body closer us opens inside closes tail =>
      have isOpener : ts[i].kind = .opener := by
        rw [ahead] at whole
        rwa [← (List.cons.inj whole).1]
      have ends : blockEnd? ts i = some (i + body.length + 1) :=
        (blockEnd?_eq_some_iff_encloses there isOpener).mpr
          ⟨opener, body, closer, us, ahead, opens, inside, closes, rfl⟩
      have size := congrArg List.length ahead
      simp only [List.length_drop, List.length_append, List.length_cons] at size
      rw [nextPlace_of_opener there isOpener, ends, Option.getD_some]
      refine ⟨by omega, ?_⟩
      rw [show i + body.length + 1 + 1 = i + (body.length + 2) by omega, ← List.drop_drop, ahead]
      simpa using tail

/-- Balanced tokens make parts that are single tokens and blocks. -/
theorem matched_of_balanced (balanced : Balanced ts) :
    ∀ part ∈ ofTokens ts, part.isStray = false ∧ part.isUnclosed = false := by
  induction balanced with
  | nil => exact List.forall_mem_nil _
  | plain t ts notOpener notCloser _ ih =>
    rw [ofTokens_plain notOpener notCloser]
    exact List.forall_mem_cons.mpr ⟨⟨rfl, rfl⟩, ih⟩
  | block opener body closer ts opens inside closes _ _ ih =>
    rw [ofTokens_block opens inside closes]
    exact List.forall_mem_cons.mpr ⟨⟨rfl, rfl⟩, ih⟩

end Walking

/-- How a row goes over the body of its loop: every opener in there is closed in there, the walk meets no
closer and no opener without one, it goes forward with each step and not beyond the body, the parts of a row
begin where it comes to, and none of them is a closer or an opener that stands alone. -/
structure RowWalk (body : List Token) : Prop where
  closed : ∀ i t, body[i]? = some t → t.kind = .opener → ∃ e, blockEnd? body i = some e ∧ e < body.length
  meets : ∀ i t, Visits body i → body[i]? = some t →
    t.kind ≠ .closer ∧ (t.kind = .opener → blockEnd? body i ≠ none)
  advances : ∀ i, Visits body i → i < body.length → i < nextPlace body i ∧ nextPlace body i ≤ body.length
  begins : ∀ i, i ∈ places (fun _ => true) (ofTokens body) ↔ Visits body i ∧ i < body.length
  matched : ∀ part ∈ ofTokens body, part.isStray = false ∧ part.isUnclosed = false

section Bodies

variable {ts body : List Token} {opener closer : Token} {i : Nat}

/-- In balanced tokens every opener is closed. -/
theorem exists_blockEnd?_of_balanced (balanced : Balanced body) (there : body[i]? = some opener)
    (opens : opener.kind = .opener) : ∃ e, blockEnd? body i = some e ∧ e < body.length := by
  obtain ⟨e, encloses⟩ := (balanced.paired i opener there).1 opens
  obtain ⟨c, ends, -⟩ := encloses.closer
  exact ⟨e, (blockEnd?_eq_some_iff_encloses there opens).mpr encloses,
    (List.getElem?_eq_some_iff.mp ends).1⟩

theorem rowWalk_of_balanced (balanced : Balanced body) : RowWalk body where
  closed _ _ there opens := exists_blockEnd?_of_balanced balanced there opens
  meets i t visits there := by
    obtain ⟨-, rest⟩ := balanced_of_visits balanced visits
    rw [drop_of_getElem? there] at rest
    refine ⟨fun closes => ?_, fun opens nothing => ?_⟩
    · obtain ⟨j, encloses⟩ := (rest.paired 0 t rfl).2 closes
      exact Nat.not_lt_zero j encloses.lt
    · obtain ⟨e, ends, -⟩ := exists_blockEnd?_of_balanced balanced there opens
      rw [nothing] at ends
      cases ends
  advances i visits inRange := by
    refine ⟨?_, (balanced_of_visits balanced (visits.next inRange)).1⟩
    have there : body[i]? = some body[i] := List.getElem?_eq_getElem inRange
    by_cases opens : body[i].kind = .opener
    · obtain ⟨e, ends, -⟩ := exists_blockEnd?_of_balanced balanced there opens
      have forward := ((blockEnd?_eq_some_iff_encloses there opens).mp ends).lt
      rw [nextPlace_of_opener there opens, ends, Option.getD_some]
      omega
    · rw [nextPlace_of_not_opener there opens]
      exact Nat.lt_succ_self i
  begins := mem_places_group_iff (Nat.le_refl _)
  matched := matched_of_balanced balanced

/-- A block is the slice from its opener to where that one is closed. -/
theorem exists_slice_of_mem_group {fuel : Nat} (member : block opener body closer ∈ group fuel ts) :
    ∃ i e, ts[i]? = some opener ∧ blockEnd? ts i = some e ∧ body = (ts.take e).drop (i + 1) := by
  have behind (front : List Token) {ts : List Token} (found : ∃ i e, ts[i]? = some opener ∧
      blockEnd? ts i = some e ∧ body = (ts.take e).drop (i + 1)) : ∃ i e, (front ++ ts)[i]? = some opener ∧
      blockEnd? (front ++ ts) i = some e ∧ body = ((front ++ ts).take e).drop (i + 1) := by
    obtain ⟨i, e, there, ends, rfl⟩ := found
    refine ⟨front.length + i, front.length + e, getElem?_behind.trans there, ?_, ?_⟩
    · rw [blockEnd?_append, ends]
      rfl
    · rw [List.take_length_add_append, Nat.add_assoc, List.drop_length_add_append]
  fun_induction group fuel ts with
  | case1 | case2 => cases member
  | case3 fuel t ts opens inner last rest taken ih =>
    obtain rfl := eq_append_of_takeBlock taken
    rcases List.mem_cons.mp member with same | later
    · cases same
      refine ⟨0, body.length + 1, rfl, ?_, by simp⟩
      rw [blockEnd?_of_getElem? rfl, Nat.zero_add, List.drop_succ_cons, List.drop_zero, taken]
      simp
    · simpa using behind (t :: inner ++ [last]) (ih later)
  | case4 fuel t ts | case5 fuel t ts | case6 fuel t ts =>
    rename_i ih
    rcases List.mem_cons.mp member with same | later
    · cases same
    · exact behind [t] (ih later)

/-- For all tokens and every opener among them: its block ends at a place exactly when the tokens up to there
are balanced with more openers than closers in each proper part from the opener on, and nowhere exactly when
there is no such place. So in the body of each block that is expanded, every opener is closed, the walk of a
row meets no closer and no opener without one, and it goes forward with each step. -/
theorem ends_by_count (ts : List Token) :
    (∀ i opener, ts[i]? = some opener → opener.kind = .opener →
      (∀ e, blockEnd? ts i = some e ↔ Settles ts i e) ∧
      (blockEnd? ts i = none ↔ ∀ e, ¬ Settles ts i e)) ∧
    ∀ opener body closer, block opener body closer ∈ ofTokens ts →
      (∃ i e, ts[i]? = some opener ∧ blockEnd? ts i = some e ∧ body = (ts.take e).drop (i + 1)) ∧
      RowWalk body := by
  refine ⟨fun i opener there opens => ?_, fun opener body closer member => ?_⟩
  · have settled (e : Nat) := blockEnd?_eq_some_iff (e := e) there opens
    refine ⟨settled, ?_⟩
    rw [Option.eq_none_iff_forall_ne_some]
    exact forall_congr' fun e => not_congr (settled e)
  · obtain ⟨-, inside, -⟩ := wellFormed_of_mem_ofTokens member
    exact ⟨exists_slice_of_mem_group member, rowWalk_of_balanced inside⟩

/-- A loop with another one inside, a closer too many, and a loop that is not closed. -/
def manyLoops : List Token := [
  ⟨.opener, "{{loop:a}}", "a"⟩, ⟨.variable, "{{x}}", "x"⟩, ⟨.opener, "{{loop:b}}", "b"⟩,
  ⟨.closer, "{{/loop}}", "/loop"⟩, ⟨.closer, "{{/loop}}", "/loop"⟩, ⟨.closer, "{{/loop}}", "/loop"⟩,
  ⟨.opener, "{{loop:c}}", "c"⟩]

/-- The first loop of them ends where the count says, the last one nowhere, and a row of the first one goes
over its body from the variable to the loop inside. -/
theorem manyLoops_end :
    Settles manyLoops 0 4 ∧ (∀ e, ¬ Settles manyLoops 6 e) ∧
      RowWalk [⟨.variable, "{{x}}", "x"⟩, ⟨.opener, "{{loop:b}}", "b"⟩, ⟨.closer, "{{/loop}}", "/loop"⟩] := by
  obtain ⟨ends, bodies⟩ := ends_by_count manyLoops
  exact ⟨((ends 0 _ rfl rfl).1 4).mp (by decide), (ends 6 _ rfl rfl).2.mp (by decide),
    (bodies ⟨.opener, "{{loop:a}}", "a"⟩ _ ⟨.closer, "{{/loop}}", "/loop"⟩ (by decide)).2⟩

end Bodies

end Part

end InvoiceForms
