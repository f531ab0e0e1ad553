import InvoiceForms.Proofs.Results
import InvoiceForms.Proofs.Text.Trim
import InvoiceForms.Proofs.Value.Data
import InvoiceForms.Record.Codec

/-!
# Content that comes back

Content `Returns` from a codec when reading its written form gives it again, whatever form the data
had that it was read from: texts are trimmed once, words and numbers are the values they stand for.
The written form may be arranged on its way; then what comes back is arranged, too.
-/

namespace InvoiceForms.Record

open InvoiceForms.Number InvoiceForms.Results InvoiceForms.Text

namespace TextRule

/-- A text as a rule wants it. -/
def normal (rule : TextRule) (s : String) : String :=
  if rule.trimmed then trimWhiteSpace s else s

theorem normal_normal (rule : TextRule) (s : String) : rule.normal (rule.normal s) = rule.normal s := by
  unfold normal
  split <;> simp

/-- A rule looks at a text as it wants it. -/
theorem check_normal (rule : TextRule) (s : String) : rule.check (rule.normal s) = rule.check s := by
  have same : (if rule.trimmed then trimWhiteSpace (rule.normal s) else rule.normal s) =
      (if rule.trimmed then trimWhiteSpace s else s) := rule.normal_normal s
  unfold check
  rw [same]

/-- What passes a rule is the text as the rule wants it. -/
theorem eq_normal_of_check {rule : TextRule} {s t : String} (passed : rule.check s = .ok t) :
    t = rule.normal s := by
  unfold check at passed
  unfold normal
  generalize (if rule.trimmed then trimWhiteSpace s else s) = u at passed ⊢
  dsimp only at passed
  split at passed
  · cases passed
  · split at passed
    · cases passed
    · split at passed
      · split at passed
        · cases passed
          rfl
        · cases passed
      · cases passed
        rfl

/-- A text that passed a rule passes it as it is. -/
theorem check_of_check {rule : TextRule} {s t : String} (passed : rule.check s = .ok t) :
    rule.check t = .ok t := by
  rw [eq_normal_of_check passed, check_normal, passed, eq_normal_of_check passed]

end TextRule

theorem check_of_readText {rule : TextRule} {v : Value} {t : String}
    (given : readText rule v = .ok t) : ∃ s, rule.check s = .ok t := by
  unfold readText at given
  split at given
  · exact ⟨_, given⟩
  · split at given
    · exact ⟨_, given⟩
    · cases given
  · cases given

namespace Codec

variable {α : Type} {σ : Arrangement}

/-- Content comes back as other content when its written form, arranged, is read. -/
def Returns (σ : Arrangement) (c : Codec α) (x y : α) : Prop :=
  c.read (Value.ofJson (Json.arrange σ (c.dump .keys x))) = .ok y

/-- Everything that a codec reads comes back. -/
def Stable (σ : Arrangement) (c : Codec α) (back : α → α) : Prop :=
  ∀ v x, c.read v = .ok x → c.Returns σ x (back x)

theorem text_stable (rule : TextRule) : (text rule).Stable σ id := by
  intro v t given
  obtain ⟨s, passed⟩ := check_of_readText given
  exact TextRule.check_of_check passed

theorem check_explained (rule : TextRule) (s : String) : rule.check s ≠ .error (.faults []) := by
  unfold TextRule.check
  generalize (if rule.trimmed then trimWhiteSpace s else s) = u
  dsimp only
  split
  · exact nofun
  · split
    · exact nofun
    · split
      · split <;> exact nofun
      · exact nofun

/-- A text field says why it refuses something. -/
theorem text_explained (rule : TextRule) (v : Value) : (text rule).read v ≠ .error (.faults []) := by
  show readText rule v ≠ _
  unfold readText
  split
  · exact check_explained rule _
  · split
    · exact check_explained rule _
    · exact nofun
  · exact nofun

theorem textVia_explained (rule : TextRule) (normal : String → Except String String) (v : Value) :
    (textVia rule normal).read v ≠ .error (.faults []) := by
  have plain := text_explained rule v
  show (readText rule v >>= _) ≠ _
  change readText rule v ≠ _ at plain
  cases taken : readText rule v with
  | error e =>
    rw [taken] at plain
    exact fun unexplained => plain unexplained
  | ok s =>
    intro unexplained
    cases result : normal s with
    | ok t =>
      simp only [bind, Except.bind, result] at unexplained
      cases unexplained
    | error reason =>
      simp only [bind, Except.bind, result] at unexplained
      cases unexplained

/-- Texts with a normal form come back when a normal form is its own. -/
theorem textVia_stable {rule : TextRule} {normal : String → Except String String}
    (fixed : ∀ s t, rule.check s = .ok s → normal s = .ok t →
      rule.check t = .ok t ∧ normal t = .ok t) : (textVia rule normal).Stable σ id := by
  intro v t given
  obtain ⟨s, taken, chosen⟩ := bind_eq_ok.mp given
  obtain ⟨raw, passed⟩ := check_of_readText taken
  have normalised : normal s = .ok t := by
    cases result : normal s with
    | ok u =>
      rw [result] at chosen
      cases chosen
      rfl
    | error reason =>
      rw [result] at chosen
      cases chosen
  obtain ⟨again, normalAgain⟩ := fixed s t (TextRule.check_of_check passed) normalised
  show (textVia rule normal).read (.text t) = .ok t
  refine bind_eq_ok.mpr ⟨t, again, ?_⟩
  rw [normalAgain]
  rfl

theorem bool_stable : bool.Stable σ id := fun _ _ _ => rfl

/-- The bounds that a number passed are passed again. -/
theorem int_stable (bounds : Bounds) : (int bounds).Stable σ id := by
  intro v n given
  obtain ⟨m, -, passed⟩ := bind_eq_ok.mp given
  have same : m = n := by
    unfold Bounds.checkInt at passed
    split at passed
    · cases passed
    · cases passed
      rfl
  rw [same] at passed
  exact passed

theorem double_stable (bounds : Bounds) : (double bounds).Stable σ id := by
  intro v x given
  obtain ⟨y, -, passed⟩ := bind_eq_ok.mp given
  have same : y = x := by
    unfold Bounds.checkDouble at passed
    split at passed
    · cases passed
    · cases passed
      rfl
  rw [same] at passed
  exact passed

/-- A double within bounds is read as it is. -/
theorem double_reads {bounds : Bounds} {x : Double}
    (within : bounds.broken? (fun k => x.le (.ofInt k)) (fun k => (Double.ofInt k).le x)
      (fun k => (Double.ofInt k).lt x) = .none) : ∃ v, (double bounds).read v = .ok x := by
  refine ⟨.float x, ?_⟩
  show bounds.checkDouble x = .ok x
  rw [Bounds.checkDouble, within]

/-- A choice comes back as the first of its word. -/
theorem choice_stable (all : List α) (word : α → String) : (choice all word).Stable σ id := by
  intro v x given
  have found : all.find? (word · = word x) = some x := by
    unfold choice at given
    dsimp only at given
    split at given
    · next s =>
      split at given
      · next y chosen =>
        cases given
        have same : word x = s := by simpa using List.find?_some chosen
        rw [same]
        exact chosen
      · cases given
    · cases given
  show (choice all word).read (.text (word x)) = .ok x
  simp only [choice, found]

/-- Absent content comes back as such, and present content when it is never written as null. -/
theorem optional_stable {c : Codec α} {back : α → α} (stable : c.Stable σ back)
    (present : ∀ x, Value.ofJson (Json.arrange σ (c.dump .keys x)) ≠ .null) :
    (optional c).Stable σ (Option.map back) := by
  have inner : ∀ v, v ≠ .null → (optional c).read v = (c.read v).map some := by
    intro v other
    cases v <;> first | rfl | contradiction
  intro v x given
  cases x with
  | none => rfl
  | some y =>
    have nonnull : v ≠ .null := by
      rintro rfl
      cases given
    rw [inner v nonnull] at given
    obtain ⟨z, taken, same⟩ := map_eq_ok.mp given
    cases same
    show (optional c).read (Value.ofJson (Json.arrange σ (c.dump .keys y))) = .ok (some (back y))
    rw [inner _ (present y), stable v y taken]
    rfl

/-- The entries that are read are trimmed and hold what comes back. -/
theorem of_mem_readEntries {read : Value → Read α} {entries : List (String × Value)}
    {m : List (String × α)} (given : readEntries read entries = .ok m) {e : String × α}
    (member : e ∈ m) : trimWhiteSpace e.1 = e.1 ∧ ∃ v, read v = .ok e.2 := by
  induction entries generalizing m with
  | nil =>
    cases given
    cases member
  | cons d rest ih =>
    obtain ⟨key, v⟩ := d
    unfold readEntries at given
    split at given
    · cases given
    · split at given <;> cases given
    · next x taken =>
      obtain ⟨more, others, same⟩ := map_eq_ok.mp given
      subst same
      rcases List.mem_cons.mp member with rfl | member
      · exact ⟨trimWhiteSpace_trimWhiteSpace key, v, taken⟩
      · exact ih others member

/-- Trimmed entries whose values come back are read as they are. -/
theorem readEntries_of_returns {read : Value → Read α} {shown : α → Value} {back : α → α}
    {m : List (String × α)}
    (returns : ∀ e ∈ m, trimWhiteSpace e.1 = e.1 ∧ read (shown e.2) = .ok (back e.2)) :
    readEntries read (Entries.mapValues shown m) = .ok (Entries.mapValues back m) := by
  induction m with
  | nil => rfl
  | cons e m ih =>
    obtain ⟨key, x⟩ := e
    obtain ⟨trimmed, taken⟩ := returns (key, x) List.mem_cons_self
    have rest := ih fun d h => returns d (List.mem_cons_of_mem _ h)
    show readEntries read ((key, shown x) :: Entries.mapValues shown m) = _
    rw [readEntries, taken]
    dsimp only
    rw [rest, trimmed]
    rfl

/-- The keys of a mapping that is read are distinct. -/
theorem nodup_keys_of_mapping {c : Codec α} {v : Value} {m : Entries α}
    (given : (mapping c).read v = .ok m) : (Entries.keys m).Nodup := by
  cases v with
  | mapping entries =>
    obtain ⟨pairs, -, rfl⟩ := map_eq_ok.mp given
    exact Entries.nodup_keys_ofList pairs
  | _ => cases given

/-- A mapping comes back with its entries arranged. -/
theorem mapping_stable {c : Codec α} {back : α → α} (stable : c.Stable σ back) :
    (mapping c).Stable σ fun m => σ.of (Entries.mapValues back m) := by
  intro v m given
  cases v with
  | mapping entries =>
    obtain ⟨pairs, taken, rfl⟩ := map_eq_ok.mp given
    have distinct := Entries.nodup_keys_ofList pairs
    have kept : ∀ e ∈ σ.of (Entries.ofList pairs), trimWhiteSpace e.1 = e.1 ∧
        c.read (Value.ofJson (Json.arrange σ (c.dump .keys e.2))) = .ok (back e.2) := by
      intro e member
      obtain ⟨trimmed, v, gave⟩ :=
        of_mem_readEntries taken (Entries.mem_of_mem_ofList ((σ.mem_of).mp member))
      exact ⟨trimmed, stable v e.2 gave⟩
    have again : readEntries c.read (Entries.mapValues
        (fun x => Value.ofJson (Json.arrange σ (c.dump .keys x))) (σ.of (Entries.ofList pairs))) =
        .ok (Entries.mapValues back (σ.of (Entries.ofList pairs))) := readEntries_of_returns kept
    have written : Value.ofJson (Json.arrange σ ((mapping c).dump .keys (Entries.ofList pairs))) =
        .mapping (Entries.mapValues (fun x => Value.ofJson (Json.arrange σ (c.dump .keys x)))
          (σ.of (Entries.ofList pairs))) := by
      show Value.ofJson (Json.arrange σ (.object _)) = _
      rw [Json.arrange_object, Value.ofJson, Value.ofMembers_eq_mapValues, ← σ.of_mapValues,
        ← σ.of_mapValues, Entries.mapValues_mapValues, Entries.mapValues_mapValues]
    show (mapping c).read _ = _
    rw [written]
    show (readEntries c.read _).map Entries.ofList = _
    rw [again, ← σ.of_mapValues]
    refine map_eq_ok.mpr ⟨_, rfl, Entries.ofList_of_nodup ?_⟩
    rw [σ.nodup_keys_of, Entries.keys_mapValues]
    exact distinct
  | _ => cases given

end Codec

end InvoiceForms.Record
