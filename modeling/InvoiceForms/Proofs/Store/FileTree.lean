import Mathlib.Data.List.Induction
import InvoiceForms.Proofs.Results
import InvoiceForms.Store.FileTree

/-!
# What file operations leave alone

Each operation on a file tree touches the node at its path, or the directories on the way to it, and
no other. A file whose directory is there is found, unless its name or its path is too long.
-/

namespace InvoiceForms.FileTree

open InvoiceForms.Results

variable {t t' : FileTree} {p q d : Path} {n : Node} {name : String}

@[simp] theorem node?_put_self (nonempty : p ≠ []) : (t.put p n).node? p = some n := by
  unfold node? put
  rw [if_neg nonempty]
  split
  · next present =>
    obtain ⟨e, member, same⟩ := List.any_eq_true.mp present
    rw [List.find?_map]
    have found : (t.nodes.find? fun e => decide (e.1 = p)).isSome = true :=
      List.find?_isSome.mpr ⟨e, member, same⟩
    have keeps : ((fun x : Path × Node => decide (x.1 = p)) ∘ fun e => if e.1 = p then (p, n) else e) =
        fun e => decide (e.1 = p) := by
      funext e
      by_cases same : e.1 = p <;> simp [same]
    rw [keeps]
    obtain ⟨d, first⟩ := Option.isSome_iff_exists.mp found
    have here : d.1 = p := by simpa using List.find?_some first
    rw [first]
    simp [here]
  · next absent =>
    have none : (t.nodes.find? fun e => decide (e.1 = p)) = none := by
      rw [List.find?_eq_none]
      intro e member same
      exact absent (List.any_eq_true.mpr ⟨e, member, same⟩)
    rw [List.find?_append, none]
    simp

theorem node?_put_of_ne (other : q ≠ p) : (t.put p n).node? q = t.node? q := by
  have blind : ((fun x : Path × Node => decide (x.1 = q)) ∘ fun e => if e.1 = p then (p, n) else e) =
      fun e => decide (e.1 = q) := by
    funext e
    by_cases same : e.1 = p
    · simp [same]
    · simp [same]
  unfold node? put
  by_cases top : q = []
  · rw [if_pos top, if_pos top]
  · rw [if_neg top, if_neg top]
    split
    · rw [List.find?_map, blind]
      cases found : t.nodes.find? fun e => decide (e.1 = q) with
      | none => rfl
      | some e =>
        have here : e.1 = q := by simpa using List.find?_some found
        have elsewhere : e.1 ≠ p := fun same => other (here ▸ same)
        simp [elsewhere]
    · rw [List.find?_append]
      have nothing : ([(p, n)] : List (Path × Node)).find? (fun e => decide (e.1 = q)) = none := by
        simp [other.symm]
      rw [nothing, Option.or_none]

theorem node?_remove_of_ne (other : q ≠ p) : (t.remove p).node? q = t.node? q := by
  unfold node? remove
  by_cases top : q = []
  · rw [if_pos top, if_pos top]
  · rw [if_neg top, if_neg top, List.find?_filter]
    congr 2
    funext e
    by_cases here : e.1 = q
    · simp [here, other]
    · simp [here]

theorem node?_remove_self (nonempty : p ≠ []) : (t.remove p).node? p = none := by
  unfold node? remove
  rw [if_neg nonempty]
  have nothing : ((t.nodes.filter fun e => decide (e.1 ≠ p)).find? fun e => decide (e.1 = p)) = none := by
    rw [List.find?_eq_none]
    intro e kept same
    obtain ⟨-, other⟩ := List.mem_filter.mp kept
    exact absurd (of_decide_eq_true same) (of_decide_eq_true other)
  rw [nothing]
  rfl

/-- Walking on is walking from where one is. -/
theorem walk_append (t : FileTree) (reached names more : Path) :
    t.walk reached (names ++ more) =
      (t.walk reached names).bind fun _ => t.walk (reached ++ names) more := by
  induction names generalizing reached with
  | nil => rw [List.nil_append, List.append_nil]; rfl
  | cons name names ih =>
    have path : reached ++ name :: names = reached ++ [name] ++ names := by
      rw [List.append_assoc, List.singleton_append]
    rw [List.cons_append, walk, walk, path]
    split
    · split
      · rfl
      · split
        · rfl
        · exact ih _
    · rfl

/-- A file or directory is reached when its directory is and its name is not too long. -/
theorem walk_concat_eq_ok_iff : t.walk [] (d ++ [name]) = .ok n ↔
    (∃ m, t.walk [] d = .ok m) ∧ t.node? d = some .directory ∧
      name.utf8ByteSize ≤ maxNameBytes ∧ t.node? (d ++ [name]) = some n := by
  rw [walk_append]
  constructor
  · intro given
    obtain ⟨m, here, rest⟩ := bind_eq_ok.mp given
    rw [List.nil_append, walk] at rest
    split at rest
    · next inside =>
      split at rest
      · cases rest
      · next short =>
        split at rest
        · cases rest
        · next there =>
          cases found : t.node? (d ++ [name]) with
          | none =>
            rw [found] at there
            exact absurd rfl there
          | some k =>
            rw [walk, found] at rest
            cases rest
            exact ⟨⟨m, here⟩, inside, Nat.not_lt.mp short, rfl⟩
    · cases rest
  · rintro ⟨⟨m, here⟩, inside, short, found⟩
    refine bind_eq_ok.mpr ⟨m, here, ?_⟩
    rw [List.nil_append, walk, inside]
    dsimp only
    rw [if_neg (Nat.not_lt.mpr short), found, Option.isNone_some, if_neg Bool.false_ne_true, walk,
      found]
    rfl

/-- Trees that agree on short paths are walked alike along them. -/
theorem walk_congr {reached names : Path}
    (agree : ∀ q : Path, q.length ≤ reached.length + names.length → t.node? q = t'.node? q) :
    t.walk reached names = t'.walk reached names := by
  induction names generalizing reached with
  | nil => rw [walk, walk, agree reached (by simp)]
  | cons name names ih =>
    have next : t.walk (reached ++ [name]) names = t'.walk (reached ++ [name]) names := by
      apply ih
      intro q short
      apply agree
      simp only [List.length_append, List.length_cons, List.length_nil] at short ⊢
      omega
    rw [walk, walk, agree reached (by simp), agree (reached ++ [name]) (by simp), next]

theorem find_eq_ok_iff : t.find p = .ok n ↔ tooLong p = false ∧ t.walk [] p = .ok n := by
  unfold find
  split
  · next long => simp [long, fail]
  · next short =>
    rw [mapError_eq_ok]
    simp [short]

/-- What is there in a directory has a node. -/
theorem node?_of_has (there : t.has (d ++ [name]) = true) : (t.node? (d ++ [name])).isSome = true := by
  unfold has at there
  cases found : t.find (d ++ [name]) with
  | error e =>
    rw [found] at there
    cases there
  | ok n =>
    obtain ⟨-, -, -, here⟩ := walk_concat_eq_ok_iff.mp (find_eq_ok_iff.mp found).2
    rw [here]
    rfl

theorem read_eq_ok_iff {content : ByteArray} :
    t.read p = .ok content ↔ t.find p = .ok (.file content) := by
  constructor
  · intro given
    obtain ⟨m, found, rest⟩ := bind_eq_ok.mp given
    cases m with
    | file other =>
      cases rest
      exact found
    | directory => cases rest
  · exact fun found => bind_eq_ok.mpr ⟨_, found, rfl⟩

/-- Reading a file fails on its path. -/
theorem read_eq_error {e : FileFault} (failed : t.read p = .error e) : e.path = p ∧ e.target = none := by
  have reached : ∀ e, t.find p = .error e → e.path = p ∧ e.target = none := by
    intro e lost
    unfold find fail at lost
    split at lost
    · cases lost
      exact ⟨rfl, rfl⟩
    · cases walked : t.walk [] p with
      | ok n =>
        rw [walked] at lost
        cases lost
      | error cause =>
        rw [walked] at lost
        cases lost
        exact ⟨rfl, rfl⟩
  unfold read at failed
  cases found : t.find p with
  | error e' =>
    rw [found] at failed
    cases failed
    exact reached _ found
  | ok n =>
    rw [found] at failed
    cases n with
    | file content => cases failed
    | directory =>
      cases failed
      exact ⟨rfl, rfl⟩

/-- A file in a directory that is reached can be read, unless something about it is too long. -/
theorem read_of_node? {m : Node} {content : ByteArray} (reached : t.walk [] d = .ok m)
    (inside : t.node? d = some .directory) (found : t.node? (d ++ [name]) = some (.file content)) :
    t.read (d ++ [name]) = .ok content ∨
      t.read (d ++ [name]) = .error { cause := .nameTooLong, path := d ++ [name] } := by
  by_cases long : tooLong (d ++ [name]) = true
  · right
    unfold read find
    rw [if_pos long]
    rfl
  · by_cases short : name.utf8ByteSize ≤ maxNameBytes
    · left
      rw [read_eq_ok_iff, find_eq_ok_iff]
      exact ⟨Bool.not_eq_true _ ▸ long, walk_concat_eq_ok_iff.mpr ⟨⟨m, reached⟩, inside, short, found⟩⟩
    · right
      have walked : t.walk [] (d ++ [name]) = .error .nameTooLong := by
        rw [walk_append, reached]
        show t.walk ([] ++ d) [name] = _
        rw [List.nil_append, walk, inside]
        dsimp only
        rw [if_pos (Nat.not_le.mp short)]
      unfold read find
      rw [if_neg long, walked]
      rfl

section Changes

variable {content : ByteArray}

/-- What is updated is put at its path. -/
theorem update_eq_ok {f : ByteArray → ByteArray} (given : t.update p f = .ok t') :
    ∃ old, t' = t.put p (.file (f old)) := by
  unfold update at given
  split at given
  · cases given
    exact ⟨_, rfl⟩
  · cases given
  · split at given
    · split at given
      · cases given
        exact ⟨_, rfl⟩
      · cases given
    · cases given

theorem write_eq_ok (given : t.write p content = .ok t') : t' = t.put p (.file content) := by
  obtain ⟨-, same⟩ := update_eq_ok given
  exact same

theorem node?_of_append (given : t.append p content = .ok t') (other : q ≠ p) :
    t'.node? q = t.node? q := by
  obtain ⟨old, rfl⟩ := update_eq_ok given
  exact node?_put_of_ne other

theorem node?_of_touch (given : t.touch p = .ok t') (other : q ≠ p) : t'.node? q = t.node? q := by
  unfold touch at given
  split at given
  · cases given
    rfl
  · obtain ⟨old, rfl⟩ := update_eq_ok given
    exact node?_put_of_ne other

/-- What is moved is a file, and it is put where it is moved to. -/
theorem rename_eq_ok {target : Path} (given : t.rename p target = .ok t') :
    ∃ content, t.find p = .ok (.file content) ∧
      t' = (t.remove p).put target (.file content) := by
  unfold rename at given
  split at given
  · next content found =>
    split at given
    · cases given
    · cases given
      exact ⟨content, found, rfl⟩
  · cases given
  · cases given

/-- Making directories leaves what is not on the way. The induction is on the way that is left. -/
theorem node?_of_makeFrom {target reached names : Path}
    (given : makeFrom target t reached names = .ok t') (aside : ¬ q <+: reached ++ names) :
    t'.node? q = t.node? q := by
  induction names generalizing t reached with
  | nil =>
    cases given
    rfl
  | cons name names ih =>
    have path : reached ++ name :: names = reached ++ [name] ++ names := by
      rw [List.append_assoc, List.singleton_append]
    rw [path] at aside
    have other : q ≠ reached ++ [name] := by
      rintro rfl
      exact aside (List.prefix_append _ _)
    unfold makeFrom at given
    dsimp only at given
    split at given
    · cases given
    · split at given
      · exact ih given aside
      · split at given <;> cases given
      · rw [ih given aside, node?_put_of_ne other]

theorem node?_of_makeDirectories (given : t.makeDirectories p = .ok t') (aside : ¬ q <+: p) :
    t'.node? q = t.node? q := by
  unfold makeDirectories at given
  split at given
  · cases given
  · exact node?_of_makeFrom given aside

/-- Making directories keeps what is there. The induction is on the way that is left. -/
theorem node?_of_makeFrom_of_some {target reached names : Path}
    (given : makeFrom target t reached names = .ok t') (there : t.node? q = some n) :
    t'.node? q = some n := by
  induction names generalizing t reached with
  | nil =>
    cases given
    exact there
  | cons name names ih =>
    unfold makeFrom at given
    dsimp only at given
    split at given
    · cases given
    · split at given
      · exact ih given there
      · split at given <;> cases given
      · next missing =>
        refine ih given ?_
        rw [node?_put_of_ne, there]
        rintro rfl
        rw [missing] at there
        cases there

theorem node?_of_makeDirectories_of_some (given : t.makeDirectories p = .ok t')
    (there : t.node? q = some n) : t'.node? q = some n := by
  unfold makeDirectories at given
  split at given
  · cases given
  · exact node?_of_makeFrom_of_some given there

/-- Whether a path leads to a directory. -/
structure Reached (t : FileTree) (p : Path) : Prop where
  walked : ∃ m, t.walk [] p = .ok m
  directory : t.node? p = some .directory

theorem reached_concat_iff : t.Reached (d ++ [name]) ↔
    t.Reached d ∧ name.utf8ByteSize ≤ maxNameBytes ∧ t.node? (d ++ [name]) = some .directory := by
  constructor
  · rintro ⟨⟨m, walked⟩, there⟩
    obtain ⟨way, inside, short, -⟩ := walk_concat_eq_ok_iff.mp walked
    exact ⟨⟨way, inside⟩, short, there⟩
  · rintro ⟨⟨way, inside⟩, short, there⟩
    exact ⟨⟨_, walk_concat_eq_ok_iff.mpr ⟨way, inside, short, there⟩⟩, there⟩

/-- A directory is reached as long as no directory vanishes. The induction is on the path, from its
last part on. -/
theorem Reached.of_directories (reached : t.Reached p)
    (keeps : ∀ q, t.node? q = some .directory → t'.node? q = some .directory) : t'.Reached p := by
  induction p using List.reverseRecOn with
  | nil => exact ⟨⟨_, rfl⟩, rfl⟩
  | append_singleton d name ih =>
    obtain ⟨way, short, there⟩ := reached_concat_iff.mp reached
    exact reached_concat_iff.mpr ⟨ih way, short, keeps _ there⟩

/-- A file that is found has its node. -/
theorem node?_of_find {content : ByteArray} (found : t.find p = .ok (.file content)) :
    t.node? p = some (.file content) := by
  have walked := (find_eq_ok_iff.mp found).2
  cases p using List.reverseRecOn with
  | nil => cases walked
  | append_singleton d name => exact (walk_concat_eq_ok_iff.mp walked).2.2.2

/-- Whether a file of some name in a directory can be asked for: neither its path nor its name is too
long. -/
structure Fits (d : Path) (name : String) : Prop where
  path : tooLong (d ++ [name]) = false
  name : name.utf8ByteSize ≤ maxNameBytes

theorem Fits.of_find (found : t.find (d ++ [name]) = .ok n) : Fits d name := by
  obtain ⟨path, walked⟩ := find_eq_ok_iff.mp found
  obtain ⟨-, -, short, -⟩ := walk_concat_eq_ok_iff.mp walked
  exact ⟨path, short⟩

/-- Where a directory is reached and something in it is missing, it could be there but is not. -/
theorem of_missing {e : FileFault} (found : t.find d = .ok n)
    (failed : t.find (d ++ [name]) = .error e) (missing : e.cause = .missing) :
    Fits d name ∧ t.node? (d ++ [name]) = none := by
  have walked := (find_eq_ok_iff.mp found).2
  unfold find at failed
  split at failed
  · cases failed
    cases missing
  · next path =>
    rw [walk_append, walked] at failed
    change Except.mapError _ (t.walk ([] ++ d) [name]) = _ at failed
    rw [List.nil_append, walk] at failed
    split at failed
    · split at failed
      · cases failed
        cases missing
      · next short =>
        split at failed
        · next nothing =>
          exact ⟨⟨Bool.not_eq_true _ ▸ path, Nat.not_lt.mp short⟩, Option.isNone_iff_eq_none.mp nothing⟩
        · cases failed
    · cases failed
      cases missing

/-- What is updated is a file that can be asked for, or is made as one. -/
theorem of_update {f : ByteArray → ByteArray} (given : t.update (d ++ [name]) f = .ok t') :
    Fits d name ∧ t.node? (d ++ [name]) ≠ some .directory := by
  unfold update at given
  split at given
  · next old found =>
    refine ⟨.of_find found, ?_⟩
    rw [node?_of_find found]
    nofun
  · cases given
  · next e failed =>
    split at given
    · next missing =>
      rw [List.dropLast_concat] at given
      split at given
      · next found =>
        obtain ⟨fits, nothing⟩ := of_missing found failed missing
        refine ⟨fits, ?_⟩
        rw [nothing]
        nofun
      · cases given
    · cases given

theorem Fits.of_touch (given : t.touch (d ++ [name]) = .ok t') : Fits d name := by
  unfold touch at given
  split at given
  · next there =>
    unfold has at there
    cases found : t.find (d ++ [name]) with
    | ok n => exact .of_find found
    | error e =>
      rw [found] at there
      cases there
  · exact (of_update given).1

/-- A file that can be asked for is read where its directory is reached. -/
theorem Fits.read_eq_ok (fits : Fits d name) (reached : t.Reached d)
    (found : t.node? (d ++ [name]) = some (.file content)) : t.read (d ++ [name]) = .ok content := by
  rw [read_eq_ok_iff, find_eq_ok_iff, walk_concat_eq_ok_iff]
  exact ⟨fits.path, reached.walked, reached.directory, fits.name, found⟩

/-- A file that is not there is only missing, if it can be asked for. -/
theorem Fits.read_missing (fits : Fits d name) (reached : t.Reached d)
    (nothing : t.node? (d ++ [name]) = none) :
    t.read (d ++ [name]) = .error { cause := .missing, path := d ++ [name] } := by
  obtain ⟨⟨m, walked⟩, inside⟩ := reached
  have missing : t.walk [] (d ++ [name]) = .error .missing := by
    rw [walk_append, walked]
    show t.walk ([] ++ d) [name] = _
    rw [List.nil_append, walk, inside]
    dsimp only
    rw [if_neg (Nat.not_lt.mpr fits.name), nothing]
    rfl
  unfold read find
  rw [fits.path, missing]
  rfl

/-- Longer ends make longer paths. -/
theorem size_shown_append_le {p q : Path} (some : p ≠ []) (some' : q ≠ [])
    (le : p.shown.utf8ByteSize ≤ q.shown.utf8ByteSize) :
    (d ++ p).shown.utf8ByteSize ≤ (d ++ q).shown.utf8ByteSize := by
  induction d with
  | nil => exact le
  | cons part d ih =>
    unfold Path.shown Text.joinWith at ih ⊢
    rw [List.cons_append, List.cons_append, String.intercalate_cons_of_ne_nil (by simp [some]),
      String.intercalate_cons_of_ne_nil (by simp [some'])]
    simp only [String.utf8ByteSize_append]
    omega

theorem tooLong_append {p q : Path} (short : tooLong (d ++ q) = false) (some : p ≠ []) (some' : q ≠ [])
    (le : p.shown.utf8ByteSize ≤ q.shown.utf8ByteSize) : tooLong (d ++ p) = false := by
  have longer := size_shown_append_le (d := d) some some' le
  unfold tooLong at short ⊢
  rw [decide_eq_false_iff_not] at short ⊢
  omega

/-- What is updated is no directory. -/
theorem node?_ne_directory_of_update {f : ByteArray → ByteArray} (given : t.update p f = .ok t') :
    t.node? p ≠ some .directory := by
  cases p using List.reverseRecOn with
  | nil => cases given
  | append_singleton d name => exact (of_update given).2

/-- Where a file is made or changed, its directory is reached. -/
theorem reached_of_update {name : String} {f : ByteArray → ByteArray}
    (given : t.update (p ++ [name]) f = .ok t') : ∃ m, t.walk [] p = .ok m := by
  unfold update at given
  split at given
  · next old found =>
    exact (walk_concat_eq_ok_iff.mp (find_eq_ok_iff.mp found).2).1
  · cases given
  · split at given
    · rw [List.dropLast_concat] at given
      split at given
      · next found => exact ⟨_, (find_eq_ok_iff.mp found).2⟩
      · cases given
    · cases given

/-- A file that is moved within its directory is there under its new name. -/
theorem rename_within {name' : String} (given : t.rename (d ++ [name]) (d ++ [name']) = .ok t')
    (held : t.node? (d ++ [name]) = some (.file content)) :
    (∃ m, t'.walk [] d = .ok m) ∧ t'.node? d = some .directory ∧
      t'.node? (d ++ [name']) = some (.file content) := by
  obtain ⟨moved, found, rfl⟩ := rename_eq_ok given
  obtain ⟨⟨m, reached⟩, inside, -, there⟩ := walk_concat_eq_ok_iff.mp (find_eq_ok_iff.mp found).2
  obtain rfl : moved = content := by
    rw [held] at there
    cases there
    rfl
  have agree (q : Path) (short : q.length ≤ d.length) :
      ((t.remove (d ++ [name])).put (d ++ [name']) (.file moved)).node? q = t.node? q := by
    rw [node?_put_of_ne, node?_remove_of_ne]
    all_goals
      rintro rfl
      rw [List.length_append, List.length_singleton] at short
      omega
  refine ⟨⟨m, ?_⟩, ?_, node?_put_self (by simp)⟩
  · rw [walk_congr fun q short => agree q (by simpa using short)]
    exact reached
  · rw [agree d (Nat.le_refl _)]
    exact inside

/-- A file written under a name of its own and moved to its place: the content stands there, and what
is not in the directory stays. -/
theorem replaced_within {t₁ t₂ : FileTree} {fresh name' : String}
    (written : (t.put (d ++ [fresh]) (.file .empty)).write (d ++ [fresh]) content = .ok t₁)
    (moved : t₁.rename (d ++ [fresh]) (d ++ [name']) = .ok t₂) :
    (∃ m, t₂.walk [] d = .ok m) ∧ t₂.node? d = some .directory ∧
      t₂.node? (d ++ [name']) = some (.file content) ∧
      ∀ q, ¬ d <+: q → t₂.node? q = t.node? q := by
  have filled := write_eq_ok written
  have held : t₁.node? (d ++ [fresh]) = some (.file content) := by
    rw [filled]
    exact node?_put_self (by simp)
  obtain ⟨reached, inside, there⟩ := rename_within moved held
  refine ⟨reached, inside, there, ?_⟩
  intro q below
  have apart (other : String) : q ≠ d ++ [other] := by
    rintro rfl
    exact below (List.prefix_append _ _)
  obtain ⟨last, -, rfl⟩ := rename_eq_ok moved
  rw [node?_put_of_ne (apart _), node?_remove_of_ne (apart _), filled, node?_put_of_ne (apart _),
    node?_put_of_ne (apart _)]

end Changes

end InvoiceForms.FileTree
