import InvoiceForms.Proofs.Content.LoopFaults

/-!
# Which closer closes which opener

The reading of loop blocks that needs no counting of open blocks: tokens are balanced when they are
built from plain tokens and from balanced tokens between an opener and a closer, and an opener is
closed by the closer with balanced tokens between the two. Grouping finds exactly these blocks. What
it groups into blocks are those inside no other, what it finds unclosed are the openers that nothing
closes, and what it finds stray are the closers that close nothing.
-/

namespace InvoiceForms

/-- Tokens in which every opener has its closer and every closer its opener. -/
inductive Balanced : List Token → Prop
  | nil : Balanced []
  | plain (t : Token) (ts : List Token) (notOpener : t.kind ≠ .opener) (notCloser : t.kind ≠ .closer)
      (tail : Balanced ts) : Balanced (t :: ts)
  | block (opener : Token) (body : List Token) (closer : Token) (ts : List Token)
      (opens : opener.kind = .opener) (inside : Balanced body) (closes : closer.kind = .closer)
      (tail : Balanced ts) : Balanced (opener :: body ++ closer :: ts)

/-- Among tokens, the opener at the place `i` is closed by the closer at the place `j`. -/
def Encloses (ts : List Token) (i j : Nat) : Prop :=
  ∃ opener body closer after, ts.drop i = opener :: body ++ closer :: after ∧
    opener.kind = .opener ∧ Balanced body ∧ closer.kind = .closer ∧ j = i + body.length + 1

/-- A block that is inside no other. -/
def Outermost (ts : List Token) (i j : Nat) : Prop :=
  Encloses ts i j ∧ ∀ i' j', Encloses ts i' j' → ¬ (i' < i ∧ j < j')

/-- An opener that nothing closes. -/
def Unclosed (ts : List Token) (i : Nat) : Prop :=
  (∃ t, ts[i]? = some t ∧ t.kind = .opener) ∧ ∀ j, ¬ Encloses ts i j

/-- A closer that closes nothing. -/
def Stray (ts : List Token) (j : Nat) : Prop :=
  (∃ t, ts[j]? = some t ∧ t.kind = .closer) ∧ ∀ i, ¬ Encloses ts i j

namespace Part

variable {t : Token} {depth : Nat}

theorem takeBlock_closer_zero (closes : t.kind = .closer) (ts : List Token) :
    takeBlock 0 (t :: ts) = some ([], t, ts) := by
  simp [takeBlock, closes]

theorem takeBlock_closer_succ (closes : t.kind = .closer) (ts : List Token) :
    takeBlock (depth + 1) (t :: ts) =
      (takeBlock depth ts).map fun taken => (t :: taken.1, taken.2) := by
  simp [takeBlock, closes]

theorem takeBlock_opener (opens : t.kind = .opener) (ts : List Token) :
    takeBlock depth (t :: ts) =
      (takeBlock (depth + 1) ts).map fun taken => (t :: taken.1, taken.2) := by
  simp [takeBlock, opens]

theorem takeBlock_plain (notOpener : t.kind ≠ .opener) (notCloser : t.kind ≠ .closer)
    (ts : List Token) :
    takeBlock depth (t :: ts) = (takeBlock depth ts).map fun taken => (t :: taken.1, taken.2) := by
  cases kind : t.kind <;> simp_all [takeBlock]

end Part

namespace Balanced

theorem append {a b : List Token} (first : Balanced a) (second : Balanced b) : Balanced (a ++ b) := by
  induction first with
  | nil => exact second
  | plain t ts notOpener notCloser _ ih => exact plain t (ts ++ b) notOpener notCloser ih
  | block opener body closer ts opens inside closes _ _ ih =>
    have whole := block opener body closer (ts ++ b) opens inside closes ih
    simpa only [List.append_assoc, List.cons_append] using whole

/-- Balanced tokens are passed over whole, however many blocks are open. -/
theorem takeBlock_append {a : List Token} (balanced : Balanced a) (depth : Nat) (ts : List Token) :
    Part.takeBlock depth (a ++ ts) =
      (Part.takeBlock depth ts).map fun taken => (a ++ taken.1, taken.2) := by
  induction balanced generalizing depth ts with
  | nil => simp
  | plain t rest notOpener notCloser _ ih =>
    rw [List.cons_append, Part.takeBlock_plain notOpener notCloser, ih, Option.map_map]
    rfl
  | block opener body closer rest opens _ closes _ ihBody ihRest =>
    simp only [List.cons_append, List.append_assoc]
    rw [Part.takeBlock_opener opens, ihBody, Part.takeBlock_closer_succ closes, ihRest]
    simp only [Option.map_map, Function.comp_def]

/-- The closer behind balanced tokens is the one that is taken. -/
theorem takeBlock_closer {body : List Token} (balanced : Balanced body) {closer : Token}
    (closes : closer.kind = .closer) (ts : List Token) :
    Part.takeBlock 0 (body ++ closer :: ts) = some (body, closer, ts) := by
  rw [balanced.takeBlock_append, Part.takeBlock_closer_zero closes, Option.map_some,
    List.append_nil]

end Balanced

/-- Tokens that close as many blocks as a depth says and are balanced otherwise. -/
def Closes : Nat → List Token → Prop
  | 0, ts => Balanced ts
  | depth + 1, ts => ∃ inner closer outer, ts = inner ++ closer :: outer ∧ Balanced inner ∧
      closer.kind = .closer ∧ Closes depth outer

theorem Closes.append {depth : Nat} {a ts : List Token} (balanced : Balanced a)
    (closed : Closes depth ts) : Closes depth (a ++ ts) := by
  cases depth with
  | zero => exact balanced.append closed
  | succ depth =>
    obtain ⟨inner, closer, outer, rfl, inside, closes, rest⟩ := closed
    exact ⟨a ++ inner, closer, outer, (List.append_assoc ..).symm, balanced.append inside, closes, rest⟩

namespace Part

/-- What is taken off ends in a closer, and its body closes the blocks that were open. -/
theorem closes_of_takeBlock {depth : Nat} {ts body rest : List Token} {closer : Token}
    (taken : takeBlock depth ts = some (body, closer, rest)) :
    Closes depth body ∧ closer.kind = .closer := by
  induction ts generalizing depth body with
  | nil => simp [takeBlock] at taken
  | cons t ts ih =>
    have further {d : Nat}
        (h : (takeBlock d ts).map (fun r => (t :: r.1, r.2)) = some (body, closer, rest)) :
        ∃ inner, body = t :: inner ∧ Closes d inner ∧ closer.kind = .closer := by
      obtain ⟨⟨inner, c, r⟩, found, same⟩ := Option.map_eq_some_iff.mp h
      simp only [Prod.mk.injEq] at same
      obtain ⟨rfl, rfl, rfl⟩ := same
      exact ⟨inner, rfl, ih found⟩
    by_cases isOpener : t.kind = .opener
    · rw [takeBlock_opener isOpener] at taken
      obtain ⟨inner, rfl, ⟨a, c, b, rfl, inside, ends, outer⟩, closes⟩ := further taken
      have passed := Closes.append (.block t a c [] isOpener inside ends .nil) outer
      rw [List.append_assoc] at passed
      exact ⟨passed, closes⟩
    by_cases isCloser : t.kind = .closer
    · cases depth with
      | zero =>
        rw [takeBlock_closer_zero isCloser] at taken
        cases taken
        exact ⟨.nil, isCloser⟩
      | succ depth =>
        rw [takeBlock_closer_succ isCloser] at taken
        obtain ⟨inner, rfl, closed, closes⟩ := further taken
        exact ⟨⟨[], t, inner, rfl, .nil, isCloser, closed⟩, closes⟩
    · rw [takeBlock_plain isOpener isCloser] at taken
      obtain ⟨inner, rfl, closed, closes⟩ := further taken
      exact ⟨Closes.append (.plain t [] isOpener isCloser .nil) closed, closes⟩

end Part

/-- Where an opener is closed is found by counting the blocks that are open. -/
theorem encloses_iff_takeBlock {ts : List Token} {i j : Nat} : Encloses ts i j ↔
    ∃ opener tail body closer after, ts.drop i = opener :: tail ∧ opener.kind = .opener ∧
      Part.takeBlock 0 tail = some (body, closer, after) ∧ j = i + body.length + 1 := by
  constructor
  · rintro ⟨opener, body, closer, after, here, opens, inside, closes, rfl⟩
    exact ⟨opener, _, body, closer, after, here, opens, inside.takeBlock_closer closes after, rfl⟩
  · rintro ⟨opener, tail, body, closer, after, here, opens, taken, rfl⟩
    obtain ⟨inside, closes⟩ := Part.closes_of_takeBlock taken
    rw [Part.eq_append_of_takeBlock taken] at here
    exact ⟨opener, body, closer, after, here, opens, inside, closes, rfl⟩

namespace Encloses

variable {ts : List Token} {i j k : Nat}

/-- An opener is closed by one closer only. -/
theorem unique (first : Encloses ts i j) (second : Encloses ts i k) : j = k := by
  obtain ⟨o, tail, body, c, after, here, -, taken, rfl⟩ := encloses_iff_takeBlock.mp first
  obtain ⟨o', tail', body', c', after', here', -, taken', rfl⟩ := encloses_iff_takeBlock.mp second
  obtain ⟨rfl, rfl⟩ := List.cons.inj (here.symm.trans here')
  rw [taken] at taken'
  cases taken'
  rfl

theorem lt (encloses : Encloses ts i j) : i < j := by
  obtain ⟨_, _, _, _, _, _, _, _, rfl⟩ := encloses
  omega

theorem opener (encloses : Encloses ts i j) : ∃ t, ts[i]? = some t ∧ t.kind = .opener := by
  obtain ⟨o, body, c, after, here, opens, -⟩ := encloses
  refine ⟨o, ?_, opens⟩
  rw [← List.head?_drop, here]
  rfl

theorem closer (encloses : Encloses ts i j) : ∃ t, ts[j]? = some t ∧ t.kind = .closer := by
  obtain ⟨o, body, c, after, here, -, -, closes, rfl⟩ := encloses
  refine ⟨c, ?_, closes⟩
  rw [Nat.add_assoc, ← List.getElem?_drop, here]
  simp

/-- Tokens in front move the places of a block, and that is all they do. -/
theorem append_left_iff (a : List Token) :
    Encloses (a ++ ts) (a.length + i) (a.length + j) ↔ Encloses ts i j := by
  have same (n : Nat) : a.length + j = a.length + i + n + 1 ↔ j = i + n + 1 := by omega
  simp only [Encloses, List.drop_length_add_append, same]

/-- Tokens behind a block do not matter. -/
theorem append_right (encloses : Encloses ts i j) (b : List Token) : Encloses (ts ++ b) i j := by
  have inRange : i ≤ ts.length := by
    obtain ⟨t, there, -⟩ := encloses.opener
    exact Nat.le_of_lt (List.getElem?_eq_some_iff.mp there).1
  obtain ⟨o, body, c, after, here, opens, inside, closes, rfl⟩ := encloses
  refine ⟨o, body, c, after ++ b, ?_, opens, inside, closes, rfl⟩
  rw [List.drop_append_of_le_length inRange, here, List.append_assoc]
  rfl

theorem of_balanced {opener closer : Token} {body : List Token} (opens : opener.kind = .opener)
    (inside : Balanced body) (closes : closer.kind = .closer) (after : List Token) :
    Encloses (opener :: body ++ closer :: after) 0 (body.length + 1) :=
  ⟨opener, body, closer, after, rfl, opens, inside, closes, by omega⟩

/-- A block among the tokens of a body, seen from outside. -/
theorem inside (block : Encloses ts i j) (opener closer : Token) (after : List Token) :
    Encloses (opener :: ts ++ closer :: after) (i + 1) (j + 1) := by
  rw [Nat.add_comm i, Nat.add_comm j]
  exact (append_left_iff [opener]).mpr (block.append_right (closer :: after))

end Encloses

/-- Whether every opener among tokens is closed and every closer closes. -/
def Paired (ts : List Token) : Prop :=
  ∀ n t, ts[n]? = some t →
    (t.kind = .opener → ∃ j, Encloses ts n j) ∧ (t.kind = .closer → ∃ i, Encloses ts i n)

namespace Paired

theorem plain {t : Token} (notOpener : t.kind ≠ .opener) (notCloser : t.kind ≠ .closer) :
    Paired [t] := by
  intro n u there
  obtain ⟨-, rfl⟩ : n = 0 ∧ t = u := by simpa [List.getElem?_singleton] using there
  exact ⟨fun opens => absurd opens notOpener, fun closes => absurd closes notCloser⟩

theorem append {a b : List Token} (first : Paired a) (second : Paired b) : Paired (a ++ b) := by
  intro n t there
  rcases Nat.lt_or_ge n a.length with inFront | behind
  · rw [List.getElem?_append_left inFront] at there
    obtain ⟨opened, closed⟩ := first n t there
    exact ⟨fun opens => (opened opens).imp fun _ block => block.append_right b,
      fun closes => (closed closes).imp fun _ block => block.append_right b⟩
  · obtain ⟨m, rfl⟩ := Nat.exists_eq_add_of_le behind
    rw [List.getElem?_append_right behind, Nat.add_sub_cancel_left] at there
    obtain ⟨opened, closed⟩ := second m t there
    refine ⟨fun opens => ?_, fun closes => ?_⟩
    · obtain ⟨j, block⟩ := opened opens
      exact ⟨a.length + j, (Encloses.append_left_iff a).mpr block⟩
    · obtain ⟨i, block⟩ := closed closes
      exact ⟨a.length + i, (Encloses.append_left_iff a).mpr block⟩

theorem block {opener closer : Token} {body : List Token} (opens : opener.kind = .opener)
    (inside : Balanced body) (paired : Paired body) (closes : closer.kind = .closer) :
    Paired (opener :: body ++ [closer]) := by
  have whole := Encloses.of_balanced opens inside closes []
  intro n t there
  cases n with
  | zero =>
    obtain rfl : opener = t := by simpa using there
    exact ⟨fun _ => ⟨_, whole⟩, fun other => absurd (opens.symm.trans other) (by decide)⟩
  | succ n =>
    rw [List.cons_append, List.getElem?_cons_succ] at there
    rcases Nat.lt_or_ge n body.length with within | last
    · rw [List.getElem?_append_left within] at there
      obtain ⟨opened, closed⟩ := paired n t there
      exact ⟨fun o => (opened o).elim fun _ block => ⟨_, block.inside opener closer []⟩,
        fun c => (closed c).elim fun _ block => ⟨_, block.inside opener closer []⟩⟩
    · rw [List.getElem?_append_right last] at there
      obtain ⟨end_, rfl⟩ : n - body.length = 0 ∧ closer = t := by
        simpa [List.getElem?_singleton] using there
      obtain rfl : n = body.length := by omega
      exact ⟨fun other => absurd (closes.symm.trans other) (by decide), fun _ => ⟨0, whole⟩⟩

end Paired

/-- Balanced tokens are paired: one case for each way of building them. -/
theorem Balanced.paired {ts : List Token} (balanced : Balanced ts) : Paired ts := by
  induction balanced with
  | nil =>
    intro n t there
    simp at there
  | plain t rest notOpener notCloser _ ih => exact (Paired.plain notOpener notCloser).append ih
  | block opener body closer rest opens inside closes _ ihBody ihRest =>
    have both := (Paired.block opens inside ihBody closes).append ihRest
    rwa [List.append_assoc] at both

/-- Within a block there are the block itself and those of its body. -/
theorem Encloses.within {opener closer : Token} {body after : List Token} {i j : Nat}
    (opens : opener.kind = .opener) (inside : Balanced body) (closes : closer.kind = .closer)
    (block : Encloses (opener :: body ++ closer :: after) i j) (here : i < body.length + 2) :
    (i = 0 ∧ j = body.length + 1) ∨ (0 < i ∧ j < body.length + 1) := by
  cases i with
  | zero => exact .inl ⟨rfl, block.unique (.of_balanced opens inside closes after)⟩
  | succ i =>
    obtain ⟨t, there, isOpener⟩ := block.opener
    rw [List.cons_append, List.getElem?_cons_succ] at there
    rcases Nat.lt_or_ge i body.length with within | last
    · rw [List.getElem?_append_left within] at there
      obtain ⟨k, inner⟩ := (inside.paired i t there).1 isOpener
      obtain ⟨c, ends, -⟩ := inner.closer
      have := (List.getElem?_eq_some_iff.mp ends).1
      rw [block.unique (inner.inside opener closer after)]
      exact .inr ⟨Nat.succ_pos i, by omega⟩
    · obtain rfl : i = body.length := by omega
      rw [List.getElem?_append_right (Nat.le_refl _), Nat.sub_self] at there
      obtain rfl : closer = t := by simpa using there
      exact absurd (closes.symm.trans isOpener) (by decide)

section Prefix

variable {a ts : List Token} {i j : Nat}

theorem getElem?_behind : (a ++ ts)[a.length + i]? = ts[i]? := by
  rw [List.getElem?_append_right (Nat.le_add_right ..), Nat.add_sub_cancel_left]

/-- An opener behind other tokens is closed exactly when it is without them. -/
theorem unclosed_append_iff : Unclosed (a ++ ts) (a.length + i) ↔ Unclosed ts i := by
  rw [Unclosed, Unclosed, getElem?_behind, and_congr_right_iff]
  intro _
  constructor
  · intro never j block
    exact never (a.length + j) ((Encloses.append_left_iff a).mpr block)
  · intro never j block
    have behind := block.lt
    obtain ⟨k, rfl⟩ := Nat.exists_eq_add_of_le (show a.length ≤ j by omega)
    exact never k ((Encloses.append_left_iff a).mp block)

/-- Whether every block that begins among the tokens in front ends there. -/
def Apart (a ts : List Token) : Prop :=
  ∀ i j, Encloses (a ++ ts) i j → i < a.length → j < a.length

theorem Apart.encloses_iff (apart : Apart a ts) :
    Encloses (a ++ ts) i (a.length + j) ↔ ∃ k, i = a.length + k ∧ Encloses ts k j := by
  constructor
  · intro block
    have behind : a.length ≤ i := by
      by_contra inFront
      have := apart i _ block (by omega)
      omega
    obtain ⟨k, rfl⟩ := Nat.exists_eq_add_of_le behind
    exact ⟨k, rfl, (Encloses.append_left_iff a).mp block⟩
  · rintro ⟨k, rfl, block⟩
    exact (Encloses.append_left_iff a).mpr block

theorem Apart.stray_iff (apart : Apart a ts) :
    Stray (a ++ ts) (a.length + j) ↔ Stray ts j := by
  rw [Stray, Stray, getElem?_behind, and_congr_right_iff]
  intro _
  simp only [apart.encloses_iff]
  constructor
  · intro never k block
    exact never (a.length + k) ⟨k, rfl, block⟩
  · rintro never _ ⟨k, rfl, block⟩
    exact never k block

theorem Apart.outermost_iff (apart : Apart a ts) :
    Outermost (a ++ ts) (a.length + i) (a.length + j) ↔ Outermost ts i j := by
  rw [Outermost, Outermost, Encloses.append_left_iff, and_congr_right_iff]
  intro _
  constructor
  · intro none i' j' block around
    exact none (a.length + i') (a.length + j') ((Encloses.append_left_iff a).mpr block) (by omega)
  · rintro none i' j' block ⟨before, behind⟩
    obtain ⟨k, rfl⟩ := Nat.exists_eq_add_of_le (show a.length ≤ j' by omega)
    obtain ⟨m, rfl, inner⟩ := apart.encloses_iff.mp block
    exact none m k inner (by omega)

end Prefix

namespace Part

/-- Whether a part is a block. -/
def isBlock : Part → Bool
  | block .. => true
  | _ => false

/-- Whether a part is an opener without closer. -/
def isUnclosed : Part → Bool
  | unclosed _ => true
  | _ => false

/-- Whether a part is a closer without opener. -/
def isStray : Part → Bool
  | stray _ => true
  | _ => false

/-- The places among the tokens at which the parts of a kind begin. -/
def places (kind : Part → Bool) : List Part → List Nat
  | [] => []
  | part :: parts =>
    (if kind part then [0] else []) ++ (places kind parts).map (part.tokens.length + ·)

theorem length_tokens_pos (part : Part) : 0 < part.tokens.length := by
  cases part <;> simp [tokens]

theorem mem_places_cons {kind : Part → Bool} {part : Part} {parts : List Part} {i : Nat} :
    i ∈ places kind (part :: parts) ↔
      (kind part = true ∧ i = 0) ∨ ∃ k, i = part.tokens.length + k ∧ k ∈ places kind parts := by
  rw [places, List.mem_append, List.mem_map]
  constructor
  · rintro (here | ⟨k, member, rfl⟩)
    · split at here
      · next is => exact .inl ⟨is, List.mem_singleton.mp here⟩
      · cases here
    · exact .inr ⟨k, rfl, member⟩
  · rintro (⟨is, rfl⟩ | ⟨k, rfl, member⟩)
    · rw [if_pos is]
      exact .inl List.mem_cons_self
    · exact .inr ⟨k, member, rfl⟩

/-- Every part of a kind has a place of its own. -/
theorem pairwise_places (kind : Part → Bool) (parts : List Part) :
    (places kind parts).Pairwise (· < ·) := by
  induction parts with
  | nil => exact .nil
  | cons part parts ih =>
    rw [places, List.pairwise_append, List.pairwise_map]
    refine ⟨?_, ih.imp fun less => Nat.add_lt_add_left less _, fun i first j later => ?_⟩
    · split <;> simp
    · obtain ⟨k, -, rfl⟩ := List.mem_map.mp later
      have := part.length_tokens_pos
      split at first <;> simp at first
      omega

theorem length_places (kind : Part → Bool) (parts : List Part) :
    (places kind parts).length = parts.countP kind := by
  induction parts with
  | nil => rfl
  | cons part parts ih =>
    rw [places, List.length_append, List.length_map, ih, List.countP_cons, Nat.add_comm]
    split <;> rfl

/-- Whether parts say how the blocks of tokens lie. -/
structure Describes (parts : List Part) (ts : List Token) : Prop where
  blocks : ∀ i, i ∈ places isBlock parts ↔ ∃ j, Outermost ts i j
  unclosed : ∀ i, i ∈ places isUnclosed parts ↔ Unclosed ts i
  stray : ∀ j, j ∈ places isStray parts ↔ Stray ts j

theorem Describes.nil : Describes [] [] := by
  constructor <;> intro i <;> simp [places, Outermost, Unclosed, Stray, Encloses]

/-- A part in front of others, when no block begins in it and ends behind it. What is to be said of
the part itself is which of its places are of which kind. -/
theorem Describes.cons {part : Part} {parts : List Part} {ts : List Token}
    (describes : Describes parts ts) (apart : Apart part.tokens ts)
    (blocks : ∀ i, i < part.tokens.length →
      ((∃ j, Outermost (part.tokens ++ ts) i j) ↔ part.isBlock = true ∧ i = 0))
    (unclosed : ∀ i, i < part.tokens.length →
      (Unclosed (part.tokens ++ ts) i ↔ part.isUnclosed = true ∧ i = 0))
    (stray : ∀ j, j < part.tokens.length →
      (Stray (part.tokens ++ ts) j ↔ part.isStray = true ∧ j = 0)) :
    Describes (part :: parts) (part.tokens ++ ts) := by
  have positive := part.length_tokens_pos
  have split {kind : Part → Bool} {P Q : Nat → Prop}
      (front : ∀ i, i < part.tokens.length → (P i ↔ kind part = true ∧ i = 0))
      (behind : ∀ k, P (part.tokens.length + k) ↔ Q k)
      (later : ∀ k, k ∈ places kind parts ↔ Q k) (i : Nat) :
      i ∈ places kind (part :: parts) ↔ P i := by
    rw [mem_places_cons]
    rcases Nat.lt_or_ge i part.tokens.length with inFront | past
    · rw [front i inFront, or_iff_left]
      rintro ⟨k, rfl, -⟩
      omega
    · obtain ⟨k, rfl⟩ := Nat.exists_eq_add_of_le past
      rw [behind, ← later]
      constructor
      · rintro (⟨-, first⟩ | ⟨m, same, member⟩)
        · omega
        · rwa [Nat.add_left_cancel same]
      · exact fun member => .inr ⟨k, rfl, member⟩
  refine ⟨split blocks (fun k => ?_) describes.blocks,
    split unclosed (fun k => unclosed_append_iff) describes.unclosed,
    split stray (fun k => apart.stray_iff) describes.stray⟩
  constructor
  · rintro ⟨j, outermost⟩
    have := outermost.1.lt
    obtain ⟨m, rfl⟩ := Nat.exists_eq_add_of_le (show part.tokens.length ≤ j by omega)
    exact ⟨m, apart.outermost_iff.mp outermost⟩
  · rintro ⟨m, outermost⟩
    exact ⟨_, apart.outermost_iff.mpr outermost⟩

/-- A token that begins no block, in front of others. -/
theorem Describes.consToken {part : Part} {parts : List Part} {t : Token} {ts : List Token}
    (describes : Describes parts ts) (alone : part.tokens = [t]) (plain : part.isBlock = false)
    (open_ : part.isUnclosed = true ↔ t.kind = .opener)
    (stray : part.isStray = true ↔ t.kind = .closer) (never : ∀ j, ¬ Encloses (t :: ts) 0 j) :
    Describes (part :: parts) (t :: ts) := by
  have zero {i : Nat} (here : i < part.tokens.length) : i = 0 := by
    simp only [alone, List.length_singleton] at here
    omega
  have whole : part.tokens ++ ts = t :: ts := by rw [alone, List.singleton_append]
  rw [← whole]
  refine describes.cons (fun i j block here => ?_) (fun i here => ?_) (fun i here => ?_)
    (fun j here => ?_) <;> obtain rfl := zero here <;> rw [whole] at *
  · exact absurd block (never j)
  · simp [plain, Outermost, never]
  · simp [Unclosed, never, open_]
  · have first (i : Nat) : ¬ Encloses (t :: ts) i 0 := fun block => by
      have := block.lt
      omega
    simp [Stray, first, stray]

/-- A block in front of other tokens. -/
theorem Describes.consBlock {parts : List Part} {opener closer : Token} {body ts : List Token}
    (describes : Describes parts ts) (opens : opener.kind = .opener) (inside : Balanced body)
    (closes : closer.kind = .closer) :
    Describes (.block opener body closer :: parts) (opener :: body ++ closer :: ts) := by
  have whole : (block opener body closer).tokens ++ ts = opener :: body ++ closer :: ts := by
    simp [tokens]
  have size : (block opener body closer).tokens.length = body.length + 2 := by simp [tokens]
  have paired : Paired (block opener body closer).tokens :=
    .block opens inside inside.paired closes
  have within {i j : Nat} (found : Encloses (opener :: body ++ closer :: ts) i j)
      (here : i < body.length + 2) := found.within opens inside closes here
  have itself := Encloses.of_balanced opens inside closes ts
  rw [← whole]
  refine describes.cons (fun i j found here => ?_) (fun i here => ?_) (fun i here => ?_)
    (fun j here => ?_)
  · rw [whole] at found
    rw [size] at here ⊢
    have := within found here
    omega
  · rw [whole]
    rw [size] at here
    constructor
    · rintro ⟨j, found, alone⟩
      rcases within found here with ⟨rfl, -⟩ | ⟨later, shorter⟩
      · exact ⟨rfl, rfl⟩
      · exact absurd ⟨later, shorter⟩ (alone _ _ itself)
    · rintro ⟨-, rfl⟩
      exact ⟨_, itself, fun i' j' _ around => absurd around.1 (Nat.not_lt_zero i')⟩
  · refine iff_of_false (fun ⟨⟨t, there, isOpener⟩, never⟩ => ?_) (fun ⟨no, _⟩ => by cases no)
    rw [List.getElem?_append_left here] at there
    obtain ⟨j, found⟩ := (paired i t there).1 isOpener
    exact never j (found.append_right ts)
  · refine iff_of_false (fun ⟨⟨t, there, isCloser⟩, never⟩ => ?_) (fun ⟨no, _⟩ => by cases no)
    rw [List.getElem?_append_left here] at there
    obtain ⟨i, found⟩ := (paired j t there).2 isCloser
    exact never i (found.append_right ts)

/-- Grouping describes the tokens. The induction is on the calls of `group`, which takes a token or
a whole block from the front. -/
theorem describes_group {fuel : Nat} {ts : List Token} (enough : ts.length ≤ fuel) :
    Describes (group fuel ts) ts := by
  fun_induction group fuel ts with
  | case1 ts =>
    obtain rfl : ts = [] := List.length_eq_zero_iff.mp (Nat.le_zero.mp enough)
    exact .nil
  | case2 => exact .nil
  | case3 fuel t ts kind body closer rest taken ih =>
    obtain ⟨inside, closes⟩ := closes_of_takeBlock taken
    obtain rfl := eq_append_of_takeBlock taken
    simp only [List.length_cons, List.length_append] at enough
    exact (ih (by omega)).consBlock kind inside closes
  | case4 fuel t ts kind taken ih =>
    refine (ih (Nat.le_of_succ_le_succ enough)).consToken rfl rfl ?_ ?_ fun j found => ?_
    · simp [isUnclosed, kind]
    · simp [isStray, kind]
    · obtain ⟨_, _, _, _, _, here, -, found, -⟩ := encloses_iff_takeBlock.mp found
      cases here
      rw [taken] at found
      cases found
  | case5 fuel t ts kind ih =>
    refine (ih (Nat.le_of_succ_le_succ enough)).consToken rfl rfl ?_ ?_ fun j found => ?_
    · simp [isUnclosed, kind]
    · simp [isStray, kind]
    · obtain ⟨_, here, opens⟩ := found.opener
      cases here
      exact absurd (kind.symm.trans opens) (by decide)
  | case6 fuel t ts notOpener notCloser ih =>
    refine (ih (Nat.le_of_succ_le_succ enough)).consToken rfl rfl ?_ ?_ fun j found => ?_
    · simpa [isUnclosed] using notOpener
    · simpa [isStray] using notCloser
    · obtain ⟨_, here, opens⟩ := found.opener
      cases here
      exact notOpener opens

theorem describes_ofTokens (ts : List Token) : Describes (ofTokens ts) ts :=
  describes_group (Nat.le_refl _)

/-- How many parts of each kind there are is what a shape says. -/
theorem length_shape (parts : List Part) :
    (Shape.ofParts parts).loopPaths.length = parts.countP isBlock ∧
      (Shape.ofParts parts).unterminatedLoops.length = parts.countP isUnclosed ∧
      (Shape.ofParts parts).strayClosers = parts.countP isStray := by
  induction parts with
  | nil => exact ⟨rfl, rfl, rfl⟩
  | cons part parts ih =>
    rw [Shape.ofParts] at ih ⊢
    simp only [List.foldr_cons, List.countP_cons, ← ih]
    cases part with
    | single t =>
      rw [Shape.addPart]
      split <;> exact ⟨rfl, rfl, rfl⟩
    | stray t => exact ⟨rfl, rfl, rfl⟩
    | unclosed t => exact ⟨rfl, rfl, rfl⟩
    | block opener body closer => exact ⟨rfl, rfl, rfl⟩

/-- Parts of a kind exist exactly when there is a place for one. -/
theorem countP_ne_zero_iff {kind : Part → Bool} {parts : List Part} :
    parts.countP kind ≠ 0 ↔ ∃ i, i ∈ places kind parts := by
  rw [← length_places, Ne, List.length_eq_zero_iff]
  exact List.ne_nil_iff_exists_cons.trans
    ⟨fun ⟨i, _, same⟩ => ⟨i, same ▸ List.mem_cons_self⟩,
      fun ⟨_, member⟩ => List.exists_cons_of_ne_nil (List.ne_nil_of_mem member)⟩

/-- There are several parts of a kind exactly when there are two places for them. -/
theorem one_lt_countP_iff {kind : Part → Bool} {parts : List Part} :
    1 < parts.countP kind ↔ ∃ i j, i ≠ j ∧ i ∈ places kind parts ∧ j ∈ places kind parts := by
  rw [← length_places]
  match placed : places kind parts, pairwise_places kind parts with
  | [], _ => simp
  | [i], _ =>
    refine iff_of_false (by simp) ?_
    rintro ⟨j, k, apart, first, second⟩
    exact apart ((List.mem_singleton.mp first).trans (List.mem_singleton.mp second).symm)
  | i :: j :: rest, ascending =>
    have less : i < j := (List.pairwise_cons.mp ascending).1 j List.mem_cons_self
    exact iff_of_true (by simp) ⟨i, j, by omega, by simp, by simp⟩

end Part

/-- Tokens whose loop blocks cannot be used: there is more than one that is inside no other, or an
opener that nothing closes, or a closer that closes nothing. -/
def Tangled (ts : List Token) : Prop :=
  (∃ i j i' j', i ≠ i' ∧ Outermost ts i j ∧ Outermost ts i' j') ∨ (∃ i, Unclosed ts i) ∨
    ∃ j, Stray ts j

/-- A shape tells the tokens whose blocks cannot be used. -/
theorem hasLoopFault_iff_tangled (content : String) :
    (Shape.ofContent content).HasLoopFault false ↔ Tangled (Token.scan content) := by
  obtain ⟨blocks, unclosed, stray⟩ := Part.length_shape (Part.ofContent content)
  obtain ⟨ofBlocks, ofUnclosed, ofStray⟩ := Part.describes_ofTokens (Token.scan content)
  have anyUnclosed : (Shape.ofParts (Part.ofContent content)).unterminatedLoops ≠ [] ↔
      (Part.ofContent content).countP Part.isUnclosed ≠ 0 := by
    rw [← unclosed, Ne, Ne, List.length_eq_zero_iff]
  rw [Shape.HasLoopFault, Shape.ofContent, anyUnclosed, blocks, stray, Bool.toNat_false,
    Nat.add_zero, Part.one_lt_countP_iff, Part.countP_ne_zero_iff, Part.countP_ne_zero_iff,
    Part.ofContent]
  simp only [ofBlocks, ofUnclosed, ofStray, Tangled]
  refine or_congr_left ?_
  constructor
  · rintro ⟨i, i', apart, ⟨j, first⟩, ⟨j', second⟩⟩
    exact ⟨i, j, i', j', apart, first, second⟩
  · rintro ⟨i, j, i', j', apart, first, second⟩
    exact ⟨i, i', apart, ⟨j, first⟩, ⟨j', second⟩⟩

end InvoiceForms
