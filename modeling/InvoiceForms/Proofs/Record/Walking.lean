import InvoiceForms.Proofs.Record.Records

/-!
# Data that can be walked through

Fields of simple types and of closed records refuse a value for a cause, but walk through any value.
Where all fields of a schema do so, so does the schema; else the first field that cannot walk through
its value ends the reading.
-/

namespace InvoiceForms.Record

open InvoiceForms.Calendar InvoiceForms.Number InvoiceForms.Results InvoiceForms.Text

variable {α β ρ : Type}

/-- Whether reading walked through its data, be it refused or not. -/
def Walked (x : Read α) : Prop := ∀ cause, x ≠ .error (.misuse cause)

@[simp] theorem walked_ok (a : α) : Walked (.ok a) := nofun

@[simp] theorem walked_pure (a : α) : Walked (pure a : Read α) := nofun

@[simp] theorem walked_refuse (cause : Cause) : Walked (refuse cause : Read α) := nofun

theorem Walked.bind {x : Read α} {f : α → Read β} (first : Walked x) (rest : ∀ a, Walked (f a)) :
    Walked (x >>= f) := by
  intro cause failed
  cases x with
  | ok a => exact rest a cause failed
  | error e =>
    cases failed
    exact first cause rfl

theorem Walked.map {x : Read α} (walked : Walked x) (f : α → β) : Walked (x.map f) := by
  intro cause failed
  cases x with
  | ok a => cases failed
  | error e =>
    cases failed
    exact walked cause rfl

namespace Codec

/-- Whether a codec walks through any value. -/
def Walks (c : Codec α) : Prop := ∀ v, Walked (c.read v)

theorem walked_check (rule : TextRule) (s : String) : Walked (rule.check s) := by
  unfold TextRule.check
  generalize (if rule.trimmed then trimWhiteSpace s else s) = u
  dsimp only
  split
  · simp
  · split
    · simp
    · split
      · split <;> simp
      · simp

theorem walked_readText (rule : TextRule) (v : Value) : Walked (readText rule v) := by
  unfold readText
  split
  · exact walked_check _ _
  · split
    · exact walked_check _ _
    · simp
  · simp

theorem text_walks (rule : TextRule) : (text rule).Walks := walked_readText rule

theorem textVia_walks (rule : TextRule) (normal : String → Except String String) :
    (textVia rule normal).Walks := by
  intro v
  refine (walked_readText rule v).bind fun s => ?_
  split <;> simp

theorem bool_walks : bool.Walks := by
  have ofText (s : String) : Walked (readBoolText s) := by
    unfold readBoolText
    split <;> simp
  have ofInt (n : Int) : Walked (readBoolInt n) := by
    unfold readBoolInt
    split
    · simp
    · split <;> simp
  have ofDouble (x : Double) : Walked (readBoolDouble x) := by
    unfold readBoolDouble
    split
    · split
      · exact ofInt _
      · simp
    · simp
  intro v
  show Walked (readBool v)
  unfold readBool
  split
  · simp
  · exact ofText _
  · split
    · exact ofText _
    · simp
  · split
    · exact ofInt _
    · simp
  · exact ofDouble _
  · next x =>
    cases x.toDouble? with
    | none => exact walked_refuse _
    | some y => exact ofDouble y
  · simp

theorem int_walks (bounds : Bounds) : (int bounds).Walks := by
  have ofText (s : String) : Walked (readIntText s) := by
    unfold readIntText
    split <;> simp
  have ofDouble (x : Double) : Walked (readIntDouble x) := by
    unfold readIntDouble
    split
    · split
      · split <;> simp
      · simp
    · simp
  have ofDecimal (x : Decimal) : Walked (readIntDecimal x) := by
    unfold readIntDecimal
    split
    · split <;> simp
    · simp
  intro v
  refine Walked.bind ?_ fun n => ?_
  · unfold readInt
    split
    · simp
    · simp
    · exact ofDouble _
    · exact ofDecimal _
    · exact ofText _
    · split
      · exact ofText _
      · simp
    · simp
  · unfold Bounds.checkInt
    split <;> simp

theorem double_walks (bounds : Bounds) : (double bounds).Walks := by
  have ofText (s : String) : Walked (readDoubleText s) := by
    unfold readDoubleText
    split <;> simp
  intro v
  refine Walked.bind ?_ fun x => ?_
  · unfold readDouble
    split
    · simp
    · split <;> simp
    · simp
    · next x =>
      cases x.toDouble? with
      | none => exact walked_refuse _
      | some y => exact walked_ok y
    · exact ofText _
    · split
      · exact ofText _
      · simp
    · simp
  · unfold Bounds.checkDouble
    split <;> simp

theorem choice_walks (all : List α) (word : α → String) : (choice all word).Walks := by
  intro v
  unfold choice
  cases v with
  | text s =>
    dsimp only
    split <;> simp
  | _ => exact walked_refuse _

theorem Walks.optional {c : Codec α} (walks : c.Walks) : c.optional.Walks := by
  intro v
  cases v with
  | null => exact walked_ok _
  | _ => exact (walks _).map some

end Codec

/-- Whether a field walks through any value. -/
def RecordField.Walks (f : RecordField ρ) : Prop := ∀ v, Walked (f.read v)

theorem RecordField.make_walks {required : Bool} {name key : String} {c : Codec α} {get : ρ → α}
    {put : α → ρ → ρ} (walks : c.Walks) : (make required name key c get put).Walks :=
  fun v => (walks v).map put

namespace Schema

variable {s : Schema ρ} {entries : Entries Value}

/-- Why a field cannot walk through its entry, if so. -/
def misuse? (entries : Entries Value) (f : RecordField ρ) : Option Misuse :=
  match f.source entries with
  | none => none
  | some (_, v) =>
    match f.read v with
    | .error (.misuse cause) => some cause
    | _ => none

theorem misuse?_of_walks {f : RecordField ρ} (walks : f.Walks) : misuse? entries f = none := by
  unfold misuse?
  split
  · rfl
  · next v _ =>
    split
    · next cause failed => exact absurd failed (walks v cause)
    · rfl

theorem readField_eq_error_iff {f : RecordField ρ} {r : ρ} {cause : Misuse} :
    readField entries f r = .error cause ↔ misuse? entries f = some cause := by
  unfold readField misuse?
  cases f.source entries with
  | none => simp
  | some e =>
    dsimp only
    cases f.read e.2 with
    | ok change => simp
    | error e => cases e <;> simp

/-- Reading fields ends early with the first that cannot walk through its entry. The induction is on
the fields. -/
theorem readFields_eq_error_iff {fields : List (RecordField ρ)} {r : ρ} {cause : Misuse} :
    readFields entries fields r = .error cause ↔
      fields.findSome? (misuse? entries) = some cause := by
  induction fields generalizing r with
  | nil => simp [readFields]
  | cons f fs ih =>
    unfold readFields
    rw [List.findSome?_cons]
    cases here : readField entries f r with
    | error e =>
      rw [readField_eq_error_iff.mp here]
      simp [bind, Except.bind]
    | ok taken =>
      have walked : misuse? entries f = none := by
        rw [Option.eq_none_iff_forall_ne_some]
        intro e failed
        rw [readField_eq_error_iff.mpr failed] at here
        cases here
      rw [walked]
      dsimp only
      rw [← ih (r := taken.1)]
      show (readFields entries fs taken.1 >>= _) = _ ↔ _
      cases readFields entries fs taken.1 with
      | ok more =>
        constructor
        · intro given
          cases given
        · intro given
          cases given
      | error e => exact ⟨id, id⟩

/-- Entries cannot be walked through exactly when one of the fields cannot walk through its own. -/
theorem readEntries_eq_misuse_iff {cause : Misuse} :
    s.readEntries entries = .error (.misuse cause) ↔
      s.fields.findSome? (misuse? entries) = some cause := by
  rw [← readFields_eq_error_iff (r := s.blank)]
  unfold readEntries
  cases readFields entries s.fields s.blank with
  | error e => simp
  | ok r =>
    refine iff_of_false ?_ nofun
    dsimp only
    split
    · unfold checked
      split <;> exact nofun
    · exact nofun

/-- So it is with pairs, whose keys may be no texts. -/
theorem readPairs_eq_misuse_iff {pairs : List (Value × Value)} {cause : Misuse} :
    s.readPairs pairs = .error (.misuse cause) ↔
      s.fields.findSome? (misuse? (Value.textEntries pairs)) = some cause := by
  unfold readPairs
  dsimp only
  by_cases texts : Value.haveTextKeys pairs = true
  · rw [if_pos texts, readEntries_eq_misuse_iff]
  · rw [if_neg texts, ← readFields_eq_error_iff (r := s.blank)]
    cases readFields (Value.textEntries pairs) s.fields s.blank with
    | error e => simp
    | ok r => exact iff_of_false nofun nofun

/-- A schema whose fields walk through any value does so, too. -/
theorem codec_walks (walks : s.fields.Forall RecordField.Walks) : s.codec.Walks := by
  have each := List.forall_iff_forall_mem.mp walks
  have entries (entries : Entries Value) : Walked (s.readEntries entries) := by
    intro cause failed
    obtain ⟨f, member, misused⟩ := List.exists_of_findSome?_eq_some
      (readEntries_eq_misuse_iff.mp failed)
    rw [misuse?_of_walks (each f member)] at misused
    cases misused
  intro v
  show Walked (s.read v)
  unfold read
  split
  · exact entries _
  · split
    · exact entries _
    · simp
  · simp

end Schema

end InvoiceForms.Record
