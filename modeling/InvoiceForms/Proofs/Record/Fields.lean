import Mathlib.Data.List.Forall2
import InvoiceForms.Proofs.Json.Entries
import InvoiceForms.Proofs.Results
import InvoiceForms.Record.Schema

/-!
# Reading fields without a fault

What reading the fields of a record without a fault says of the record: what holds of it once a
field is read, or while the field is absent, still holds at the end, as long as the other fields do
not touch it. And the other way round: fields that all find a readable entry are read without a
fault, one change after another.
-/

namespace InvoiceForms.Record

open InvoiceForms.Results

variable {ρ : Type}

namespace RecordField

variable {f : RecordField ρ} {entries : Entries Value} {key : String} {v : Value}

/-- A field takes the entry of its key. -/
theorem source_of_get? (found : Entries.get? f.key entries = some v) :
    f.source entries = some (f.key, v) := by
  rw [source, found]

/-- A field whose key is its name finds an entry under no other. -/
theorem get?_of_source (same : f.key = f.name) (found : f.source entries = some (key, v)) :
    Entries.get? f.key entries = some v := by
  unfold source at found
  split at found
  · next taken =>
    cases found
    exact taken
  · next nothing =>
    rw [← same, nothing] at found
    cases found

end RecordField

/-- A field with what holds of a record once the field is read. -/
structure Guard (ρ : Type) where
  field : RecordField ρ
  holds : ρ → Prop

namespace Guard

/-- Neither field touches what holds because of the other one. -/
structure Apart (g h : Guard ρ) : Prop where
  right : ∀ v change r, g.field.read v = .ok change → h.holds r → h.holds (change r)
  left : ∀ v change r, h.field.read v = .ok change → g.holds r → g.holds (change r)

/-- A field made from a codec, with what holds of its content. -/
def made {α : Type} {required : Bool} {name key : String} {c : Codec α} {get : ρ → α}
    {put : α → ρ → ρ} (holds : α → Prop) : Guard ρ where
  field := .make required name key c get put
  holds r := holds (get r)

/-- An optional field that takes nothing from entries. -/
structure Untaken (entries : Entries Value) (g : Guard ρ) : Prop where
  optional : g.field.required = false
  unread : ∀ key v change, g.field.source entries = some (key, v) → g.field.read v ≠ .ok change

end Guard

/-- Fields whose guards are established by reading them from entries, and by being absent, in
records of which `kept` holds. -/
structure Guarded (entries : Entries Value) (kept : ρ → Prop) (blank : ρ) (gs : List (Guard ρ)) :
    Prop where
  start : kept blank
  own : ∀ g ∈ gs, ∀ key v change r, g.field.source entries = some (key, v) →
    g.field.read v = .ok change → kept r → kept (change r) ∧ g.holds (change r)
  absent : ∀ g ∈ gs, g.Untaken entries → g.holds blank
  explained : ∀ g ∈ gs, g.field.required = true → ∀ v, g.field.read v ≠ .error (.faults [])
  apart : gs.Pairwise Guard.Apart

namespace Schema

variable {entries : Entries Value} {fields : List (RecordField ρ)} {r r' : ρ}

/-- A field that is read without a fault is absent and not required, or its entry is read; reading
may also fail without saying why. -/
theorem readField_eq_ok {f : RecordField ρ} (given : readField entries f r = .ok (r', [])) :
    (f.source entries = none ∧ f.required = false ∧ r' = r) ∨
      (∃ key v change, f.source entries = some (key, v) ∧ f.read v = .ok change ∧ r' = change r) ∨
      ∃ key v, f.source entries = some (key, v) ∧ f.read v = .error (.faults []) ∧ r' = r := by
  unfold readField at given
  split at given
  · next none =>
    cases optional : f.required with
    | true =>
      rw [optional] at given
      cases given
    | false =>
      rw [optional] at given
      cases given
      exact .inl ⟨none, rfl, rfl⟩
  · next key v found =>
    split at given
    · next change taken =>
      cases given
      exact .inr (.inl ⟨key, v, change, found, taken, rfl⟩)
    · next faults taken =>
      have nothing : r = r' ∧ faults = [] := by simpa using given
      obtain ⟨rfl, rfl⟩ := nothing
      exact .inr (.inr ⟨key, v, found, taken, rfl⟩)
    · cases given

/-- Fields are read without a fault when each of them is. -/
theorem readFields_cons_eq_ok {f : RecordField ρ} :
    readFields entries (f :: fields) r = .ok (r', []) ↔
      ∃ next, readField entries f r = .ok (next, []) ∧
        readFields entries fields next = .ok (r', []) := by
  rw [readFields, bind_eq_ok]
  constructor
  · rintro ⟨⟨next, here⟩, first, rest⟩
    obtain ⟨⟨last, more⟩, others, same⟩ := bind_eq_ok.mp rest
    have split : last = r' ∧ here = [] ∧ more = [] := by
      simpa [pure, Except.pure] using same
    obtain ⟨rfl, rfl, rfl⟩ := split
    exact ⟨next, first, others⟩
  · rintro ⟨next, first, others⟩
    exact ⟨(next, []), first, bind_eq_ok.mpr ⟨(r', []), others, rfl⟩⟩

/-- What no field touches is the same after reading them. -/
theorem preserved_of_readFields {p : ρ → Prop}
    (keeps : ∀ f ∈ fields, ∀ v change r, f.read v = .ok change → p r → p (change r))
    (given : readFields entries fields r = .ok (r', [])) (start : p r) : p r' := by
  induction fields generalizing r with
  | nil =>
    cases given
    exact start
  | cons f fields ih =>
    obtain ⟨next, first, others⟩ := readFields_cons_eq_ok.mp given
    refine ih (fun g member => keeps g (List.mem_cons_of_mem _ member)) others ?_
    rcases readField_eq_ok first with
      ⟨-, -, rfl⟩ | ⟨key, v, change, -, taken, rfl⟩ | ⟨key, v, -, -, rfl⟩
    · exact start
    · exact keeps f List.mem_cons_self v change r taken start
    · exact start

/-- Fields are read without a fault when the first ones are and then the rest. -/
theorem readFields_append_eq_ok {before after : List (RecordField ρ)} :
    readFields entries (before ++ after) r = .ok (r', []) ↔
      ∃ next, readFields entries before r = .ok (next, []) ∧
        readFields entries after next = .ok (r', []) := by
  induction before generalizing r with
  | nil => simp [readFields]
  | cons f before ih =>
    rw [List.cons_append, readFields_cons_eq_ok]
    constructor
    · rintro ⟨next, first, others⟩
      obtain ⟨last, firsts, rest⟩ := ih.mp others
      exact ⟨last, readFields_cons_eq_ok.mpr ⟨next, first, firsts⟩, rest⟩
    · rintro ⟨last, firsts, rest⟩
      obtain ⟨next, first, others⟩ := readFields_cons_eq_ok.mp firsts
      exact ⟨next, first, ih.mpr ⟨last, others, rest⟩⟩

/-- What one field makes true, by being read or by being absent, is true at the end, if the fields
behind it do not touch it. -/
theorem holds_of_field (before after : List (RecordField ρ)) {f : RecordField ρ} {p : ρ → Prop}
    (given : readFields entries (before ++ f :: after) r = .ok (r', []))
    (explained : ∀ key v, f.source entries = some (key, v) → f.read v ≠ .error (.faults []))
    (own : ∀ next key v change, readFields entries before r = .ok (next, []) →
      f.source entries = some (key, v) → f.read v = .ok change → p (change next))
    (absent : ∀ next, readFields entries before r = .ok (next, []) → f.source entries = none →
      f.required = false → p next)
    (keeps : ∀ g ∈ after, ∀ v change r, g.read v = .ok change → p r → p (change r)) : p r' := by
  obtain ⟨next, firsts, rest⟩ := readFields_append_eq_ok.mp given
  obtain ⟨read, first, others⟩ := readFields_cons_eq_ok.mp rest
  refine preserved_of_readFields keeps others ?_
  rcases readField_eq_ok first with
    ⟨nothing, optional, rfl⟩ | ⟨key, v, change, found, content, rfl⟩ | ⟨key, v, found, unexplained, -⟩
  · exact absent read firsts nothing optional
  · exact own next key v change firsts found content
  · exact absurd unexplained (explained key v found)

/-- What holds because of a field holds at the end. The induction is on the fields; an optional one
that is still to come is guarded from the start, since those before it do not touch it. -/
theorem holds_of_readFields {kept : ρ → Prop} {gs : List (Guard ρ)}
    (own : ∀ g ∈ gs, ∀ key v change r, g.field.source entries = some (key, v) →
      g.field.read v = .ok change → kept r → kept (change r) ∧ g.holds (change r))
    (explained : ∀ g ∈ gs, g.field.required = true → ∀ v, g.field.read v ≠ .error (.faults []))
    (apart : gs.Pairwise Guard.Apart)
    (given : readFields entries (gs.map (·.field)) r = .ok (r', [])) (start : kept r)
    (absent : ∀ g ∈ gs, g.Untaken entries → g.holds r) :
    kept r' ∧ ∀ g ∈ gs, g.holds r' := by
  induction gs generalizing r with
  | nil =>
    cases given
    exact ⟨start, fun g member => by cases member⟩
  | cons g gs ih =>
    obtain ⟨next, first, others⟩ := readFields_cons_eq_ok.mp given
    obtain ⟨far, apart⟩ := List.pairwise_cons.mp apart
    have step : kept next ∧ g.holds next ∧ ∀ h ∈ gs, h.Untaken entries → h.holds next := by
      have later : ∀ h ∈ gs, h.Untaken entries → h.holds r := fun h member =>
        absent h (List.mem_cons_of_mem _ member)
      rcases readField_eq_ok first with
        ⟨nothing, optional, rfl⟩ | ⟨key, v, change, found, taken, rfl⟩ |
          ⟨key, v, found, unexplained, rfl⟩
      · refine ⟨start, absent g List.mem_cons_self ⟨optional, ?_⟩, later⟩
        intro key v change found
        rw [nothing] at found
        cases found
      · obtain ⟨still, mine⟩ := own g List.mem_cons_self key v change r found taken start
        exact ⟨still, mine, fun h member untaken =>
          (far h member).right v change r taken (later h member untaken)⟩
      · cases required : g.field.required with
        | true => exact absurd unexplained (explained g List.mem_cons_self required v)
        | false =>
          refine ⟨start, absent g List.mem_cons_self ⟨required, ?_⟩, later⟩
          intro key' v' change found' taken
          rw [found] at found'
          cases found'
          rw [unexplained] at taken
          cases taken
    obtain ⟨keptNext, mine, later⟩ := step
    obtain ⟨keptEnd, rest⟩ := ih (fun h member => own h (List.mem_cons_of_mem _ member))
      (fun h member => explained h (List.mem_cons_of_mem _ member)) apart others keptNext later
    have still : g.holds r' := by
      refine preserved_of_readFields ?_ others mine
      intro f member v change s taken before
      obtain ⟨h, inside, rfl⟩ := List.mem_map.mp member
      exact (far h inside).left v change s taken before
    exact ⟨keptEnd, List.forall_mem_cons.mpr ⟨still, rest⟩⟩

/-- The guards of fields hold of a record that is read without a fault. -/
theorem holds_of_guarded {kept : ρ → Prop} {blank : ρ} {gs : List (Guard ρ)}
    (guarded : Guarded entries kept blank gs)
    (given : readFields entries (gs.map (·.field)) blank = .ok (r, [])) :
    kept r ∧ ∀ g ∈ gs, g.holds r :=
  holds_of_readFields guarded.own guarded.explained guarded.apart given guarded.start guarded.absent

/-- Fields that find readable entries under their keys make their changes one after another. -/
theorem readFields_of_sources {changes : List (ρ → ρ)}
    (sources : List.Forall₂
      (fun f change => ∃ v, Entries.get? f.key entries = some v ∧ f.read v = .ok change)
      fields changes) (r : ρ) :
    readFields entries fields r = .ok (changes.foldl (fun r change => change r) r, []) := by
  induction sources generalizing r with
  | nil => rfl
  | cons first rest ih =>
    obtain ⟨v, found, taken⟩ := first
    refine readFields_cons_eq_ok.mpr ⟨_, ?_, ih _⟩
    unfold readField RecordField.source
    rw [found]
    dsimp only
    rw [taken]

variable {s : Schema ρ}

/-- A field that finds an entry under its key takes the entry with that key. -/
theorem takes_key {f : RecordField ρ} (present : f.key ∈ Entries.keys entries) (key : String) :
    f.takes entries key = decide (f.key = key) := by
  cases found : Entries.get? f.key entries with
  | none => exact absurd present (Entries.get?_eq_none_iff.mp found)
  | some v => simp [RecordField.takes, RecordField.source, found]

/-- When all fields find their keys, what is left over are the entries with other keys. -/
theorem leftover_of_keys (present : ∀ f ∈ s.fields, f.key ∈ Entries.keys entries) :
    s.leftover entries =
      entries.filter fun e => !decide (e.1 ∈ s.fields.map (·.key)) := by
  unfold leftover
  apply List.filter_congr
  intro e _
  congr 1
  rw [Bool.eq_iff_iff, List.any_eq_true, decide_eq_true_iff, List.mem_map]
  constructor
  · rintro ⟨f, member, taken⟩
    rw [takes_key (present f member), decide_eq_true_iff] at taken
    exact ⟨f, member, taken⟩
  · rintro ⟨f, member, same⟩
    refine ⟨f, member, ?_⟩
    rw [takes_key (present f member), decide_eq_true_iff]
    exact same

/-- Entries under keys of fields leave nothing over. -/
theorem leftover_of_known (known : ∀ key ∈ Entries.keys entries, key ∈ s.fields.map (·.key)) :
    s.leftover entries = [] := by
  rw [leftover, List.filter_eq_nil_iff]
  intro e member
  have inside : e.1 ∈ Entries.keys entries := List.mem_map_of_mem member
  obtain ⟨f, isField, same⟩ := List.mem_map.mp (known e.1 inside)
  have taken : f.takes entries e.1 = true := by
    rw [takes_key (same ▸ inside), decide_eq_true_iff]
    exact same
  rw [List.any_eq_true.mpr ⟨f, isField, taken⟩]
  exact Bool.false_ne_true

/-- What is left over has no key of a field. -/
theorem not_key_of_mem_leftover {e : String × Value} (member : e ∈ s.leftover entries) :
    e.1 ∉ s.fields.map (·.key) := by
  obtain ⟨inside, untaken⟩ := List.mem_filter.mp member
  intro isKey
  obtain ⟨f, isField, same⟩ := List.mem_map.mp isKey
  have taken : f.takes entries e.1 = true := by
    rw [takes_key, decide_eq_true_iff]
    · exact same
    · rw [same]
      exact List.mem_map_of_mem inside
  have some : s.fields.any (·.takes entries e.1) = true :=
    List.any_eq_true.mpr ⟨f, isField, taken⟩
  rw [some] at untaken
  cases untaken

end Schema

end InvoiceForms.Record
