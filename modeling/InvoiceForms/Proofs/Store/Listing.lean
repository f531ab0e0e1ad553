import InvoiceForms.Proofs.Store.Places

/-!
# What a listing shows

The ids that a store in a directory lists are those whose document is a file, whatever else stands in
the directory.
-/

namespace InvoiceForms

open InvoiceForms.Results

namespace FileTree

variable {t : FileTree} {p d : Path} {name : String} {names : List String} {n : Node}

theorem hasFile_iff : t.hasFile p = true ↔ ∃ content, t.find p = .ok (.file content) := by
  unfold hasFile
  split
  · next content found => exact ⟨fun _ => ⟨content, found⟩, fun _ => rfl⟩
  · next other => exact ⟨nofun, fun ⟨content, found⟩ => absurd found (other content)⟩

/-- What is in a directory is found in the directory that is found. -/
theorem find_of_find_concat (found : t.find (d ++ [name]) = .ok n) : t.find d = .ok .directory := by
  obtain ⟨short, walked⟩ := find_eq_ok_iff.mp found
  obtain ⟨⟨m, here⟩, inside, -, -⟩ := walk_concat_eq_ok_iff.mp walked
  have directory : m = .directory := by
    cases d using List.reverseRecOn with
    | nil =>
      cases here
      rfl
    | append_singleton d part =>
      obtain ⟨-, -, -, there⟩ := walk_concat_eq_ok_iff.mp here
      rw [inside] at there
      exact (Option.some.inj there).symm
  exact find_eq_ok_iff.mpr ⟨tooLong_of_concat short, directory ▸ here⟩

/-- What stands in a directory is listed. -/
theorem mem_list (found : t.find (d ++ [name]) = .ok n) (listed : t.list d = .ok names) :
    name ∈ names := by
  obtain ⟨-, walked⟩ := find_eq_ok_iff.mp found
  obtain ⟨-, -, -, there⟩ := walk_concat_eq_ok_iff.mp walked
  unfold list at listed
  rw [find_of_find_concat found] at listed
  cases listed
  unfold node? at there
  rw [if_neg (by simp)] at there
  obtain ⟨e, first, -⟩ := Option.map_eq_some_iff.mp there
  have path : e.1 = d ++ [name] := by simpa using List.find?_some first
  refine List.mem_filterMap.mpr ⟨e, List.mem_of_find?_eq_some first, ?_⟩
  rw [path, List.reverse_append]
  simp

end FileTree

namespace FileStore

variable {s : FileStore} {tree : FileTree} {id name : String} {ids : List String}

/-- A file name stands for an id when it is the id with the ending of documents. -/
theorem stem?_eq_some_iff : stem? name = some id ↔ id ≠ "" ∧ name = id ++ suffix := by
  unfold stem?
  dsimp only
  constructor
  · intro given
    split at given
    · next ends =>
      obtain ⟨ending, longer⟩ := ends
      cases given
      obtain ⟨front, whole⟩ := List.isSuffixOf_iff_suffix.mp ending
      have taken : name.toList.take (name.toList.length - suffix.toList.length) = front := by
        rw [← whole, List.length_append, Nat.add_sub_cancel, List.take_left]
      rw [taken]
      refine ⟨fun empty => ?_, String.toList_inj.mp ?_⟩
      · have nothing : front = [] := by simpa using congrArg String.toList empty
        rw [← whole, nothing] at longer
        simp at longer
      · rw [String.toList_append, String.toList_ofList, whole]
    · cases given
  · rintro ⟨nonempty, rfl⟩
    have some : id.toList ≠ [] := by simpa using nonempty
    rw [String.toList_append, List.length_append, Nat.add_sub_cancel, List.take_left,
      String.ofList_toList]
    refine if_pos ⟨List.isSuffixOf_iff_suffix.mpr (List.suffix_append _ _), ?_⟩
    have positive := List.length_pos_iff.mpr some
    omega

/-- The ids that are listed are those whose document is a file. -/
theorem mem_documentIds_iff (stored : s.documentIds tree = .ok ids) :
    id ∈ ids ↔ id ≠ "" ∧ tree.hasFile (s.templatePath id) = true := by
  unfold documentIds at stored
  split at stored
  · obtain ⟨names, listed, rfl⟩ := map_eq_ok.mp stored
    have listed := mapError_eq_ok.mp listed
    rw [List.mem_filterMap]
    simp only [List.mem_mergeSort, List.mem_filter, stem?_eq_some_iff]
    constructor
    · rintro ⟨name, ⟨-, file⟩, nonempty, rfl⟩
      exact ⟨nonempty, file⟩
    · rintro ⟨nonempty, file⟩
      obtain ⟨content, found⟩ := FileTree.hasFile_iff.mp file
      exact ⟨id ++ suffix, ⟨FileTree.mem_list found listed, file⟩, nonempty, rfl⟩
  · next missing =>
    cases stored
    refine ⟨nofun, fun there => absurd ?_ missing⟩
    obtain ⟨content, found⟩ := FileTree.hasFile_iff.mp there.2
    unfold FileTree.has
    rw [FileTree.find_of_find_concat found]
    rfl

end FileStore

end InvoiceForms
