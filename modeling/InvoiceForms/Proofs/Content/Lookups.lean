import Mathlib.Data.List.TakeDrop
import InvoiceForms.Content.Context
import InvoiceForms.Proofs.Json.Entries
import InvoiceForms.Proofs.Value.Paths

/-!
# Paths in a context

A path in a context leads through its categories, taken as one mapping. Nothing else is special about the
first segment, and a point at the end of a category stands for nothing.
-/

namespace InvoiceForms

open InvoiceForms.Results InvoiceForms.Text

/-- The first piece of a list ends at the first separator. -/
theorem Text.split_eq_span {α : Type} [DecidableEq α] (sep : α) (cs : List α) :
    split sep cs = (cs.span (· ≠ sep)).1 ::
      match (cs.span (· ≠ sep)).2 with
      | [] => []
      | _ :: rest => split sep rest := by
  rw [List.span_eq_takeWhile_dropWhile]
  induction cs with
  | nil => rfl
  | cons c cs ih =>
    rw [split] at ih ⊢
    rw [List.takeWhile_cons, List.dropWhile_cons]
    by_cases same : c = sep
    · simp [pieces, same, split]
    · obtain ⟨first, rest⟩ := List.cons.inj ih
      simp only [pieces, same, if_false, decide_true, ne_eq, not_false_eq_true, if_true]
      rw [first, rest]

namespace Value

variable {entries : Entries Value} {path : String}

/-- A path may be taken apart as the characters that it is spelled with. -/
theorem lookup?_of_spelled {v : Value} {cs : List Char} {found : Except LookupFault (Option Value)}
    (spelled : path = String.ofList cs) (walked : v.walk? (split '.' cs) = found) :
    v.lookup? path = found := by
  rw [lookup?, spelled, String.toList_ofList, walked]

/-- A path in a mapping begins with one of its keys. -/
theorem mem_keys_of_lookup? {v : Value} (found : (mapping entries).lookup? path = .ok (some v)) :
    String.ofList (pieces '.' path.toList).1 ∈ Entries.keys entries := by
  by_contra absent
  rw [lookup?, split, walk?, select?, Entries.get?_eq_none_iff.mpr absent] at found
  split at found <;> cases found

/-- There is nothing in a mapping behind what is none of its keys. -/
theorem lookup_of_not_mem_keys
    (absent : String.ofList (pieces '.' path.toList).1 ∉ Entries.keys entries) :
    (mapping entries).lookup path = .ok .null := by
  rw [lookup, lookup?, split, walk?, select?, Entries.get?_eq_none_iff.mpr absent]
  split <;> rfl

end Value

namespace Context

variable {ctx : Context} {path : String}

theorem select?_toMapping (name : List Char) :
    ctx.toMapping.select? name = .ok ((ctx.category? name).map .mapping) := by
  rw [toMapping, Value.select?, category?]
  generalize String.ofList name = key
  split
  all_goals try rfl
  next company customer invoice order totals legal =>
    simp [Entries.get?, Ne.symm company, Ne.symm customer, Ne.symm invoice, Ne.symm order,
      Ne.symm totals, Ne.symm legal]

/-- What stands at a path in the categories, taken as one mapping, is what a look-up finds. -/
theorem lookup_of_lookup? {path : String} {v : Value}
    (found : ctx.toMapping.lookup? path = .ok (some v)) : ctx.lookup path = .ok v := by
  rw [Value.lookup?, Text.split_eq_span, Value.walk?] at found
  split at found
  · cases found
  rw [select?_toMapping] at found
  simp only [Context.lookup]
  cases known : ctx.category? (path.toList.span (· ≠ '.')).1 with
  | none =>
    rw [known] at found
    cases found
  | some entries =>
    rw [known] at found
    dsimp only [Option.map_some] at found ⊢
    split at found
    · next nothing =>
      rw [nothing]
      cases found
      rfl
    · next c rest behind =>
      rw [behind]
      cases rest with
      | nil => cases found
      | cons d rest =>
        rw [List.drop_one, List.tail_cons]
        dsimp only
        rw [Value.lookup, Value.lookup?, String.toList_ofList, found]
        rfl

/-- The segments of a path; a point behind a category is left out. -/
def segments (path : String) : List (List Char) :=
  match split '.' path.toList with
  | [category, []] => [category]
  | segments => segments

/-- Where a path leads. -/
def LeadsTo (ctx : Context) (path : String) (v : Value) : Prop :=
  Value.Leads v (segments path) ctx.toMapping

/-- A path at which a look-up fails. -/
def Breaks (ctx : Context) (path : String) : Prop := Value.Stuck (segments path) ctx.toMapping

theorem segments_of_point {category : List Char} (divided : split '.' path.toList = [category, []]) :
    segments path = [category] := by
  rw [segments, divided]

theorem segments_of_split {pieces : List (List Char)} (divided : split '.' path.toList = pieces)
    (several : ∀ category, pieces ≠ [category, []]) : segments path = pieces := by
  unfold segments
  split
  · next category same => exact absurd (divided.symm.trans same) (several category)
  · exact divided

theorem walk?_toMapping (name : List Char) (rest : List (List Char)) :
    Value.walk? (name :: rest) ctx.toMapping =
      (ctx.category? name).elim (.ok none) fun entries => Value.walk? rest (.mapping entries) := by
  rw [Value.walk?, select?_toMapping]
  by_cases empty : name = []
  · rw [if_pos empty, empty]
    rfl
  · rw [if_neg empty]
    cases ctx.category? name <;> rfl

/-- A look-up walks the categories. -/
theorem lookup_eq_reach (ctx : Context) (path : String) :
    ctx.lookup path = Value.reach (segments path) ctx.toMapping := by
  have divided := Text.split_eq_span '.' path.toList
  simp only [lookup, Value.reach]
  generalize (path.toList.span (· ≠ '.')).1 = name at divided ⊢
  cases behind : (path.toList.span (· ≠ '.')).2 with
  | nil =>
    rw [behind] at divided
    rw [segments_of_split divided (by simp), walk?_toMapping]
    cases ctx.category? name <;> rfl
  | cons c rest =>
    rw [behind] at divided
    cases rest with
    | nil =>
      rw [segments_of_point divided, walk?_toMapping]
      cases ctx.category? name <;> rfl
    | cons d rest =>
      have several (category : List Char) : name :: split '.' (d :: rest) ≠ [category, []] := by
        intro same
        have joined := join_split '.' (d :: rest)
        rw [(List.cons.inj same).2] at joined
        cases joined
      rw [segments_of_split divided several, walk?_toMapping]
      cases ctx.category? name with
      | none => rfl
      | some entries =>
        rw [List.drop_one, List.tail_cons]
        dsimp only
        rw [Value.lookup, Value.lookup?, String.toList_ofList]
        rfl

/-- No other segments than those between its points are in a path. -/
theorem mem_split_of_mem_segments {segment : List Char} (member : segment ∈ segments path) :
    segment ∈ split '.' path.toList := by
  unfold segments at member
  split at member
  · next category same =>
    rw [same]
    exact List.mem_append_left [[]] member
  · exact member

end Context

end InvoiceForms
