import InvoiceForms.Proofs.Record.Codecs
import InvoiceForms.Proofs.Record.Fields

/-!
# Records that come back

A record that a schema reads comes back from its written form: every field finds its own content
under its key again, and nothing is left over. A `Slot` is a field with the proof that its content
comes back; the codec of a schema is as stable as its slots are.
-/

namespace InvoiceForms.Record

open InvoiceForms.Results

variable {ρ α : Type} {σ : Arrangement}

namespace RecordField

variable {c : Codec α} {required : Bool} {name key : String} {get : ρ → α} {put : α → ρ → ρ}

/-- A field is read when its content is. -/
theorem make_read_eq_ok {v : Value} {change : ρ → ρ} :
    (make required name key c get put).read v = .ok change ↔
      ∃ x, c.read v = .ok x ∧ put x = change := map_eq_ok

/-- A field says why it refuses something when its codec does. -/
theorem make_explained (explained : ∀ v, c.read v ≠ .error (.faults [])) (v : Value) :
    (make required name key c get put).read v ≠ .error (.faults []) := by
  intro unexplained
  change (c.read v).map put = _ at unexplained
  cases result : c.read v with
  | ok x =>
    rw [result] at unexplained
    cases unexplained
  | error e =>
    rw [result] at unexplained
    cases unexplained
    exact explained v result

end RecordField

/-- Fields keep apart when storing the content of one leaves what holds because of the other. -/
theorem Guard.apart_of_make {β : Type} {required required' : Bool} {name key name' key' : String}
    {c : Codec α} {d : Codec β} {get : ρ → α} {put : α → ρ → ρ} {get' : ρ → β} {put' : β → ρ → ρ}
    {holds holds' : ρ → Prop} (right : ∀ x r, holds' r → holds' (put x r))
    (left : ∀ x r, holds r → holds (put' x r)) :
    Guard.Apart ⟨.make required name key c get put, holds⟩
      ⟨.make required' name' key' d get' put', holds'⟩ where
  right v change r taken := by
    obtain ⟨x, -, rfl⟩ := RecordField.make_read_eq_ok.mp taken
    exact right x r
  left v change r taken := by
    obtain ⟨x, -, rfl⟩ := RecordField.make_read_eq_ok.mp taken
    exact left x r

/-- A field of records of which `kept` holds, and the change that its written content makes. -/
structure Slot (σ : Arrangement) (kept : ρ → Prop) (blank : ρ) where
  field : RecordField ρ
  back : ρ → ρ → ρ
  own : ∀ v change r, field.read v = .ok change → kept r → kept (change r) ∧
    field.read (Value.ofJson (Json.arrange σ (field.dump .keys (change r)))) = .ok (back (change r))
  absent : field.required = false →
    field.read (Value.ofJson (Json.arrange σ (field.dump .keys blank))) = .ok (back blank)
  explained : field.required = true → ∀ v, field.read v ≠ .error (.faults [])

namespace Slot

variable {kept : ρ → Prop} {blank : ρ} {c : Codec α} {back : α → α} {name key : String}
  {get : ρ → α} {put : α → ρ → ρ}

/-- What is guarded by a slot: the content of the field comes back. -/
def guard (slot : Slot σ kept blank) : Guard ρ where
  field := slot.field
  holds r := slot.field.read (Value.ofJson (Json.arrange σ (slot.field.dump .keys r))) =
    .ok (slot.back r)

theorem own_of_stable (stable : c.Stable σ back)
    (lens : ∀ x r, kept r → kept (put x r) ∧ get (put x r) = x) (required : Bool) (v : Value)
    (change : ρ → ρ) (r : ρ)
    (taken : (RecordField.make required name key c get put).read v = .ok change) (start : kept r) :
    kept (change r) ∧ (RecordField.make required name key c get put).read (Value.ofJson
      (Json.arrange σ ((RecordField.make required name key c get put).dump .keys (change r)))) =
        .ok (put (back (get (change r)))) := by
  obtain ⟨x, content, rfl⟩ := RecordField.make_read_eq_ok.mp taken
  obtain ⟨still, same⟩ := lens x r start
  have dumped : (RecordField.make required name key c get put).dump .keys (put x r) =
      c.dump .keys x := congrArg (c.dump .keys) same
  refine ⟨still, RecordField.make_read_eq_ok.mpr ⟨back x, ?_, by rw [same]⟩⟩
  rw [dumped]
  exact stable v x content

/-- An optional field with a stable codec. The content that stands for an absent one is content that
data can have. -/
def optional (stable : c.Stable σ back)
    (lens : ∀ x r, kept r → kept (put x r) ∧ get (put x r) = x)
    (default : ∃ v, c.read v = .ok (get blank)) : Slot σ kept blank where
  field := .make false name key c get put
  back r := put (back (get r))
  own := own_of_stable stable lens false
  absent _ := by
    obtain ⟨v, taken⟩ := default
    exact RecordField.make_read_eq_ok.mpr ⟨_, stable v _ taken, rfl⟩
  explained required := by cases required

/-- A mandatory field with a stable codec, which says why it refuses something. -/
def mandatory (stable : c.Stable σ back)
    (lens : ∀ x r, kept r → kept (put x r) ∧ get (put x r) = x)
    (explained : ∀ v, c.read v ≠ .error (.faults [])) : Slot σ kept blank where
  field := .make true name key c get put
  back r := put (back (get r))
  own := own_of_stable stable lens true
  absent optional := by cases optional
  explained _ := RecordField.make_explained explained

/-- A slot does not notice a change that leaves what it writes and what comes back. -/
theorem holds_of_free {slot : Slot σ kept blank} {change : ρ → ρ} {r : ρ}
    (free : slot.field.dump .keys (change r) = slot.field.dump .keys r ∧
      slot.back (change r) = slot.back r) (holds : slot.guard.holds r) :
    slot.guard.holds (change r) := by
  change slot.field.read _ = _ at holds ⊢
  rw [free.1, free.2]
  exact holds

/-- Slots keep apart when neither puts anything where the other one looks. -/
theorem apart_of_free {slot other : Slot σ kept blank} {required required' : Bool}
    {name' key' : String} {β : Type} {d : Codec β} {get' : ρ → β} {put' : β → ρ → ρ}
    (field : slot.field = .make required name key c get put)
    (field' : other.field = .make required' name' key' d get' put')
    (right : ∀ x r, other.field.dump .keys (put x r) = other.field.dump .keys r ∧
      other.back (put x r) = other.back r)
    (left : ∀ x r, slot.field.dump .keys (put' x r) = slot.field.dump .keys r ∧
      slot.back (put' x r) = slot.back r) : Guard.Apart slot.guard other.guard where
  right v change r taken := by
    change slot.field.read v = _ at taken
    rw [field] at taken
    obtain ⟨x, -, rfl⟩ := RecordField.make_read_eq_ok.mp taken
    exact holds_of_free (right x r)
  left v change r taken := by
    change other.field.read v = _ at taken
    rw [field'] at taken
    obtain ⟨x, -, rfl⟩ := RecordField.make_read_eq_ok.mp taken
    exact holds_of_free (left x r)

end Slot

namespace Schema

/-- Slots for the fields of a schema that keep apart, in records of which `kept` holds. The changes
that a record's written content makes turn the blank record into what comes back of it. -/
structure Slots (σ : Arrangement) (s : Schema ρ) (kept : ρ → Prop) (back : ρ → ρ) where
  all : List (Slot σ kept s.blank)
  fields : s.fields = all.map (·.field)
  start : kept s.blank
  apart : (all.map (·.guard)).Pairwise Guard.Apart
  rebuild : ∀ r, kept r → all.foldl (fun acc slot => slot.back r acc) s.blank = back r

/-- A schema whose records have nothing but their fields, under keys of their own, and no check of
the whole. -/
structure Closed (s : Schema ρ) : Prop where
  distinct : (s.fields.map (·.key)).Nodup
  forbids : s.extras = .forbid
  plain : s.prepare = id
  unchecked : ∀ r, s.check r = .ok ()

variable {s : Schema ρ} {entries : Entries Value} {r : ρ}

/-- A record is read when its fields are read without a fault, nothing disturbs among the entries
that are left over, and the whole passes its check. -/
theorem readEntries_eq_ok :
    s.readEntries entries = .ok r ↔
      ∃ fresh, readFields entries s.fields s.blank = .ok (fresh, []) ∧
        s.readExtras entries fresh = (r, []) ∧ s.checked r = .ok r := by
  have checks : ∀ {a b : ρ}, s.checked a = .ok b → a = b := by
    intro a b passed
    unfold checked at passed
    split at passed
    · cases passed
      rfl
    · cases passed
  unfold readEntries
  constructor
  · intro given
    split at given
    · cases given
    · next fresh found read =>
      rcases extra : s.readExtras entries fresh with ⟨last, more⟩
      rw [extra] at given
      dsimp only at given
      split at given
      · next clean =>
        obtain ⟨rfl, rfl⟩ := List.append_eq_nil_iff.mp clean
        obtain rfl := checks given
        exact ⟨fresh, read, extra, given⟩
      · cases given
  · rintro ⟨fresh, read, extra, passed⟩
    rw [read]
    dsimp only
    rw [extra]
    exact passed

/-- A record that is let through is read from some entries. -/
theorem exists_readEntries {v : Value} (given : s.validate v = .ok r) :
    ∃ entries, s.readEntries entries = .ok r := by
  have read : s.read v = .ok r := mapError_eq_ok.mp given
  unfold Schema.read at read
  split at read
  · exact ⟨_, read⟩
  · split at read
    · exact ⟨_, read⟩
    · cases read
  · cases read

/-- A record that is let through passes the check of the whole. -/
theorem check_of_validate {v : Value} (given : s.validate v = .ok r) : s.check r = .ok () := by
  obtain ⟨entries, read⟩ := exists_readEntries given
  obtain ⟨-, -, -, passed⟩ := readEntries_eq_ok.mp read
  unfold checked at passed
  split at passed
  · next whole => exact whole
  · cases passed

theorem readEntries_explained (s : Schema ρ) (entries : Entries Value) :
    s.readEntries entries ≠ .error (.faults []) := by
  intro unexplained
  unfold readEntries at unexplained
  split at unexplained
  · cases unexplained
  · dsimp only at unexplained
    split at unexplained
    · unfold checked at unexplained
      split at unexplained <;> cases unexplained
    · next some =>
      injection unexplained with same
      injection same with same
      exact some same

/-- A schema says why it refuses something. -/
theorem read_explained (s : Schema ρ) (v : Value) : s.read v ≠ .error (.faults []) := by
  unfold read
  split
  · exact s.readEntries_explained _
  · split
    · exact s.readEntries_explained _
    · exact fun unexplained => by cases unexplained
  · exact fun unexplained => by cases unexplained

/-- The entries that the written form of a record becomes. -/
def returned (σ : Arrangement) (s : Schema ρ) (r : ρ) : Entries Value :=
  σ.of (Entries.mapValues (fun j => Value.ofJson (Json.arrange σ j)) (s.members .keys r))

theorem ofJson_dump (σ : Arrangement) (s : Schema ρ) (r : ρ) :
    Value.ofJson (Json.arrange σ (s.dump .keys r)) = .mapping (s.returned σ r) := by
  rw [dump, Json.arrange_object, Value.ofJson, Value.ofMembers_eq_mapValues, ← σ.of_mapValues,
    Entries.mapValues_mapValues]
  rfl

/-- Every field is among the members of a record. -/
theorem mem_members {f : RecordField ρ} (member : f ∈ s.fields) (naming : Naming) (r : ρ) :
    (f.nameIn naming, f.dump naming r) ∈ s.members naming r :=
  List.mem_append_left _ (List.mem_map.mpr ⟨f, member, rfl⟩)

/-- The members of a record are its fields when it keeps no further entries. -/
theorem Closed.keys_members (closed : s.Closed) (r : ρ) :
    Entries.keys (s.members .keys r) = s.fields.map (·.key) := by
  rw [members, extrasOf, closed.forbids, Entries.mapValues, List.map_nil, List.append_nil, Entries.keys,
    List.map_map]
  rfl

section Returned

variable (perm : entries.Perm (s.returned σ r))
include perm

theorem mem_keys_of_perm_returned {key : String} :
    key ∈ Entries.keys entries ↔ key ∈ Entries.keys (s.members .keys r) := by
  rw [Entries.keys, (perm.map Prod.fst).mem_iff, ← Entries.keys, returned, σ.mem_keys_of,
    Entries.keys_mapValues]

/-- A field finds its written content among what the written form of its record becomes. -/
theorem get?_of_perm_returned (distinct : (Entries.keys (s.members .keys r)).Nodup)
    {f : RecordField ρ} (member : f ∈ s.fields) :
    Entries.get? f.key entries = some (Value.ofJson (Json.arrange σ (f.dump .keys r))) := by
  have keys : (Entries.keys (s.returned σ r)).Nodup := by
    rw [returned, σ.nodup_keys_of, Entries.keys_mapValues]
    exact distinct
  have inside : (f.key, f.dump .keys r) ∈ s.members .keys r := mem_members member .keys r
  rw [Entries.get?_of_perm perm ((perm.map Prod.fst).nodup_iff.mpr keys), returned, σ.get?_of,
    Entries.get?_mapValues, Entries.get?_of_mem distinct inside]
  · rfl
  · rw [Entries.keys_mapValues]
    exact distinct

/-- A closed record finds nothing else among what its written form becomes. -/
theorem Closed.leftover_of_perm_returned (closed : s.Closed) : s.leftover entries = [] := by
  have keys : ∀ key, key ∈ Entries.keys entries ↔ key ∈ s.fields.map (·.key) := by
    intro key
    rw [mem_keys_of_perm_returned perm, closed.keys_members]
  rw [leftover_of_keys fun f member => (keys _).mpr (List.mem_map_of_mem member),
    List.filter_eq_nil_iff]
  intro e member
  have isKey : e.1 ∈ s.fields.map (·.key) := (keys e.1).mp (List.mem_map_of_mem member)
  simp only [isKey, decide_true, Bool.not_true]
  exact Bool.false_ne_true

end Returned

section Slotted

variable {kept : ρ → Prop} {back : ρ → ρ}

/-- The content of all slots of a record that is read without a fault comes back. -/
theorem Slots.holds (slots : s.Slots σ kept back)
    (given : readFields entries s.fields s.blank = .ok (r, [])) :
    kept r ∧ ∀ slot ∈ slots.all, slot.guard.holds r := by
  have guarded : Guarded entries kept s.blank (slots.all.map (·.guard)) := by
    refine ⟨slots.start, ?_, ?_, ?_, slots.apart⟩
    all_goals
      intro g member
      obtain ⟨slot, inside, rfl⟩ := List.mem_map.mp member
    · exact fun _ v change r _ taken start => slot.own v change r taken start
    · exact fun untaken => slot.absent untaken.optional
    · exact slot.explained
  rw [slots.fields] at given
  obtain ⟨still, holds⟩ := holds_of_guarded guarded (by rw [List.map_map]; exact given)
  exact ⟨still, fun slot member => holds _ (List.mem_map_of_mem member)⟩

/-- Where each slot finds its written content, reading the fields gives what comes back. -/
theorem Slots.readFields (slots : s.Slots σ kept back) (held : kept r)
    (holds : ∀ slot ∈ slots.all, slot.guard.holds r)
    (found : ∀ f ∈ s.fields, Entries.get? f.key entries =
      some (Value.ofJson (Json.arrange σ (f.dump .keys r)))) :
    Schema.readFields entries s.fields s.blank = .ok (back r, []) := by
  have sources : List.Forall₂
      (fun f change => ∃ v, Entries.get? f.key entries = some v ∧ f.read v = .ok change)
      s.fields (slots.all.map fun slot => slot.back r) := by
    rw [slots.fields, List.forall₂_map_left_iff, List.forall₂_map_right_iff, List.forall₂_same]
    intro slot member
    refine ⟨_, found slot.field ?_, holds slot member⟩
    rw [slots.fields]
    exact List.mem_map_of_mem member
  rw [readFields_of_sources sources, List.foldl_map, slots.rebuild r held]

/-- A closed record comes back from what its written form becomes. -/
theorem Slots.readEntries (slots : s.Slots σ kept back) (closed : s.Closed) (held : kept r)
    (holds : ∀ slot ∈ slots.all, slot.guard.holds r) (perm : entries.Perm (s.returned σ r)) :
    s.readEntries entries = .ok (back r) := by
  have keys : (Entries.keys (s.members .keys r)).Nodup := by
    rw [closed.keys_members]
    exact closed.distinct
  have taken := slots.readFields held holds fun f member => get?_of_perm_returned perm keys member
  refine readEntries_eq_ok.mpr ⟨_, taken, ?_, ?_⟩
  · rw [readExtras, closed.forbids]
    dsimp only
    rw [closed.leftover_of_perm_returned perm, List.map_nil]
  · rw [checked, closed.unchecked]

/-- Reading a closed schema is reading its fields. -/
theorem Closed.readFields_of_readEntries (closed : s.Closed)
    (given : s.readEntries entries = .ok r) :
    Schema.readFields entries s.fields s.blank = .ok (r, []) := by
  obtain ⟨fresh, taken, extra, -⟩ := readEntries_eq_ok.mp given
  obtain rfl : fresh = r := by
    rw [readExtras, closed.forbids] at extra
    exact congrArg Prod.fst extra
  exact taken

end Slotted

/-- A closed record of optional fields may come from nothing. -/
theorem Closed.reads_blank (closed : s.Closed) (optional : ∀ f ∈ s.fields, f.required = false) :
    ∃ v, s.codec.read v = .ok s.blank := by
  have untouched : ∀ fields : List (RecordField ρ), (∀ f ∈ fields, f.required = false) →
      readFields [] fields s.blank = .ok (s.blank, []) := by
    intro fields optional
    induction fields with
    | nil => rfl
    | cons f fields ih =>
      refine readFields_cons_eq_ok.mpr
        ⟨s.blank, ?_, ih fun g member => optional g (List.mem_cons_of_mem _ member)⟩
      simp [readField, RecordField.source, optional f List.mem_cons_self]
  refine ⟨.mapping [], ?_⟩
  show s.read (.mapping []) = _
  rw [read, closed.plain, id_eq]
  refine readEntries_eq_ok.mpr ⟨s.blank, untouched s.fields optional, ?_, ?_⟩
  · rw [readExtras, closed.forbids]
    rfl
  · rw [checked, closed.unchecked]

/-- The codec of a closed schema with slots is stable. -/
theorem Closed.codec_stable {back : ρ → ρ} (closed : s.Closed)
    (slots : s.Slots σ (fun _ => True) back) : s.codec.Stable σ back := by
  intro v r given
  obtain ⟨entries, given⟩ : ∃ entries, s.readEntries entries = .ok r := by
    change s.read v = .ok r at given
    unfold read at given
    split at given
    · exact ⟨_, given⟩
    · split at given
      · exact ⟨_, given⟩
      · cases given
    · cases given
  have holds := (slots.holds (closed.readFields_of_readEntries given)).2
  show s.read (Value.ofJson (Json.arrange σ (s.dump .keys r))) = .ok (back r)
  rw [ofJson_dump, read, closed.plain, id_eq]
  exact slots.readEntries closed trivial holds (.refl _)

end Schema

end InvoiceForms.Record
