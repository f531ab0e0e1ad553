import Mathlib.Data.List.Nodup
import InvoiceForms.Proofs.Store.Footprint
import InvoiceForms.Proofs.Store.Listing

/-!
# Trees without repetition

In a tree of files each path stands once. The file operations keep it so, hence every action and every
run of a program does, and a directory of such a tree lists each name once.
-/

namespace InvoiceForms

open InvoiceForms.Results

namespace FileTree

variable {t t' : FileTree} {p : Path} {n : Node}

/-- Whether each path stands once in a tree. -/
def Distinct (t : FileTree) : Prop := (t.nodes.map (·.1)).Nodup

instance (t : FileTree) : Decidable t.Distinct := inferInstanceAs (Decidable (List.Nodup _))

theorem distinct_empty : Distinct {} := List.nodup_nil

/-- A node is stored in place of the one at its path, or at a path where nothing is. -/
theorem Distinct.put (distinct : t.Distinct) (p : Path) (n : Node) : (t.put p n).Distinct := by
  unfold FileTree.put Distinct
  split
  · have paths : (t.nodes.map fun e => if e.1 = p then (p, n) else e).map (·.1) =
        t.nodes.map (·.1) := by
      rw [List.map_map]
      refine List.map_congr_left fun e _ => ?_
      by_cases same : e.1 = p
      · simp [same]
      · simp [same]
    rw [paths]
    exact distinct
  · next absent =>
    rw [List.map_append, List.map_singleton]
    refine List.Nodup.append distinct (List.nodup_singleton p) ?_
    intro q member new
    obtain rfl := List.mem_singleton.mp new
    obtain ⟨e, inside, same⟩ := List.mem_map.mp member
    exact absent (List.any_eq_true.mpr ⟨e, inside, decide_eq_true same⟩)

theorem Distinct.remove (distinct : t.Distinct) (p : Path) : (t.remove p).Distinct :=
  distinct.sublist (List.filter_sublist.map _)

theorem Distinct.of_update {f : ByteArray → ByteArray} (distinct : t.Distinct)
    (given : t.update p f = .ok t') : t'.Distinct := by
  obtain ⟨old, rfl⟩ := update_eq_ok given
  exact distinct.put _ _

theorem Distinct.of_touch (distinct : t.Distinct) (given : t.touch p = .ok t') : t'.Distinct := by
  unfold touch at given
  split at given
  · cases given
    exact distinct
  · exact distinct.of_update given

theorem Distinct.of_rename {target : Path} (distinct : t.Distinct)
    (given : t.rename p target = .ok t') : t'.Distinct := by
  obtain ⟨content, -, rfl⟩ := rename_eq_ok given
  exact (distinct.remove p).put _ _

theorem Distinct.of_unlink (distinct : t.Distinct) (given : t.unlink p = .ok t') : t'.Distinct := by
  obtain ⟨content, -, rfl⟩ := unlink_eq_ok given
  exact distinct.remove p

/-- Directories are made where nothing is. The induction is on the way that is left. -/
theorem Distinct.of_makeFrom {target reached names : Path} (distinct : t.Distinct)
    (given : makeFrom target t reached names = .ok t') : t'.Distinct := by
  induction names generalizing t reached with
  | nil =>
    cases given
    exact distinct
  | cons name names ih =>
    unfold makeFrom at given
    dsimp only at given
    split at given
    · cases given
    · split at given
      · exact ih distinct given
      · split at given <;> cases given
      · exact ih (distinct.put _ _) given

theorem Distinct.of_makeDirectories (distinct : t.Distinct)
    (given : t.makeDirectories p = .ok t') : t'.Distinct := by
  unfold makeDirectories at given
  split at given
  · cases given
  · exact distinct.of_makeFrom given

/-- The name under which a directory lists a path, if it does. -/
def nameIn? (directory : Path) (q : Path) : Option String :=
  match q.reverse with
  | name :: parent => if parent.reverse = directory then some name else none
  | [] => none

theorem eq_of_nameIn? {d q : Path} {name : String} (named : nameIn? d q = some name) :
    q = d ++ [name] := by
  unfold nameIn? at named
  split at named
  · next last parent whole =>
    split at named
    · next inside =>
      cases named
      rw [← inside, ← List.reverse_cons, ← whole, List.reverse_reverse]
    · cases named
  · cases named

/-- A directory of a tree without repetition lists each name once. -/
theorem Distinct.nodup_list {names : List String} (distinct : t.Distinct)
    (listed : t.list p = .ok names) : names.Nodup := by
  obtain ⟨n, -, rest⟩ := bind_eq_ok.mp listed
  cases n with
  | file content => cases rest
  | directory =>
    cases rest
    have byPaths : (t.nodes.filterMap fun e => nameIn? p e.1) =
        (t.nodes.map (·.1)).filterMap (nameIn? p) := by
      rw [List.filterMap_map]
      rfl
    show (t.nodes.filterMap fun e => nameIn? p e.1).Nodup
    rw [byPaths]
    refine List.Nodup.filterMap ?_ distinct
    intro q q' name named named'
    rw [eq_of_nameIn? named, eq_of_nameIn? named']

end FileTree

/-- No action makes a path stand twice, whether it succeeds or not. -/
theorem World.distinct_perform {α : Type} {w : World} (distinct : w.tree.Distinct)
    (action : Action α) : (w.perform action).2.tree.Distinct := by
  have change {changed : Except FileFault FileTree}
      (keeps : ∀ tree, changed = .ok tree → tree.Distinct) :
      (w.change changed).2.tree.Distinct := by
    cases changed with
    | ok tree => exact keeps tree rfl
    | error e => exact distinct
  cases action with
  | makeDirectories p => exact change fun _ => distinct.of_makeDirectories
  | touch p => exact change fun _ => distinct.of_touch
  | write p content => exact change fun _ => distinct.of_update
  | append p content => exact change fun _ => distinct.of_update
  | rename source target => exact change fun _ => distinct.of_rename
  | unlink p => exact change fun _ => distinct.of_unlink
  | acquire p =>
    show (w.acquire p).2.tree.Distinct
    unfold acquire
    cases appended : w.tree.append p .empty with
    | error e => exact distinct
    | ok tree =>
      dsimp only
      split <;> exact distinct.of_update appended
  | makeTemporary directory stem =>
    show (w.makeTemporary directory stem).2.tree.Distinct
    unfold makeTemporary
    dsimp only
    split
    · next tree written => exact distinct.of_update written
    · exact distinct
  | _ => exact distinct

/-- No run of a program makes a path stand twice. The induction is on the program. -/
theorem Program.distinct_run {α : Type} (p : Program α) {w : World} (distinct : w.tree.Distinct) :
    (p.run w).2.tree.Distinct := by
  induction p generalizing w with
  | done a => exact distinct
  | act action next ih => exact ih _ (World.distinct_perform distinct action)

/-- A store in a tree without repetition lists each id once. -/
theorem FileStore.nodup_documentIds {s : FileStore} {tree : FileTree} {ids : List String}
    (distinct : tree.Distinct) (stored : s.documentIds tree = .ok ids) : ids.Nodup := by
  unfold documentIds at stored
  split at stored
  · obtain ⟨names, listed, rfl⟩ := map_eq_ok.mp stored
    have once := distinct.nodup_list (mapError_eq_ok.mp listed)
    refine List.Nodup.filterMap ?_ ((List.mergeSort_perm _ _).nodup_iff.mpr (once.filter _))
    intro name name' id stands stands'
    rw [(stem?_eq_some_iff.mp stands).2, (stem?_eq_some_iff.mp stands').2]
  · cases stored
    exact List.nodup_nil

end InvoiceForms
