import Mathlib.Data.List.Nodup
import LineTemplate.File.Loader
import LineTemplate.Proofs.File.Ways

/-!
The names in a directory. Where all of them are UTF-8 they are read as they are, so that each leads to what
has it and none is read twice.
-/

set_option autoImplicit false

namespace LineTemplate

theorem Path.onDisk_concat (p : Path) {c : Text} (formed : c.wellFormed = c) :
    (p ++ [c]).onDisk = p.onDisk ++ [c] := by
  rw [onDisk, List.map_append, List.map_singleton, formed]
  rfl

namespace FileTree

/-- A tree of files as an operating system keeps it: no path occurs twice, and each is a path of names that
directories can hold. -/
structure WellFormed (files : FileTree) : Prop where
  distinct : (files.map Prod.fst).Nodup
  proper : ∀ p ∈ files.map Prod.fst, p.Proper

/-- The names in a directory are UTF-8. -/
def Decodable (files : FileTree) (p : Path) : Prop :=
  ∀ q ∈ files.map Prod.fst, q.dropLast = p.onDisk → q.onDisk = q

instance (files : FileTree) (p : Path) : Decidable (files.Decodable p) :=
  inferInstanceAs (Decidable (∀ q ∈ files.map Prod.fst, q.dropLast = p.onDisk → q.onDisk = q))

theorem eq_concat_of_last {p q : Path} {c : Text}
    (last : (if q.dropLast = p then q.getLast? else none) = some c) : q = p ++ [c] := by
  split at last
  · rename_i within
    obtain ⟨start, rfl⟩ := List.getLast?_eq_some_iff.1 last
    rw [← within, List.dropLast_concat]
  · cases last

theorem Decodable.names_eq {files : FileTree} {p : Path} (h : files.Decodable p) : files.names p =
    (files.map Prod.fst).filterMap fun q => if q.dropLast = p.onDisk then q.getLast? else none := by
  rw [List.filterMap_map]
  refine List.filterMap_congr fun ⟨q, node⟩ inside => ?_
  by_cases within : q.dropLast = p.onDisk
  · have same : q.onDisk = q := h q (List.mem_map_of_mem inside) within
    simp only [Function.comp_apply, if_pos within]
    rw [← List.getLast?_map]
    exact congrArg List.getLast? same
  · simp only [Function.comp_apply, if_neg within]

theorem Decodable.mem_names {files : FileTree} {p : Path} (h : files.Decodable p) {c : Text} :
    c ∈ files.names p ↔ p.onDisk ++ [c] ∈ files.map Prod.fst := by
  rw [h.names_eq, List.mem_filterMap]
  constructor
  · rintro ⟨q, inside, last⟩
    exact eq_concat_of_last last ▸ inside
  · intro inside
    exact ⟨_, inside, by rw [if_pos List.dropLast_concat, List.getLast?_concat]⟩

theorem Decodable.nodup_names {files : FileTree} {p : Path} (h : files.Decodable p)
    (distinct : (files.map Prod.fst).Nodup) : (files.names p).Nodup := by
  rw [h.names_eq]
  refine List.Nodup.filterMap (fun q q' c last last' => ?_) distinct
  rw [eq_concat_of_last last, eq_concat_of_last last']

theorem Decodable.wellFormed_of_mem {files : FileTree} {p : Path} (h : files.Decodable p) {c : Text}
    (inside : c ∈ files.names p) : c.wellFormed = c := by
  have same := h _ (h.mem_names.1 inside) List.dropLast_concat
  rw [Path.onDisk, List.map_append] at same
  exact List.singleton_injective (List.append_inj_right' same rfl)

theorem Decodable.contains_of_mem {files : FileTree} {p : Path} (h : files.Decodable p) {c : Text}
    (inside : c ∈ files.names p) : files.contains (p ++ [c]) = true := by
  have entry := h.mem_names.1 inside
  unfold contains find?
  rw [if_neg (by simp), Path.onDisk_concat p (h.wellFormed_of_mem inside), Option.isSome_iff_ne_none]
  intro missing
  obtain ⟨m, there, same⟩ := List.mem_map.1 entry
  exact absurd (beq_iff_eq.2 same.symm) (by simpa using List.lookup_eq_none_iff.1 missing m there)

theorem exists_mem_of_isFile {files : FileTree} {p : Path} (file : files.isFile p = true) :
    ∃ content, (p.onDisk, .file content) ∈ files ∧ files.read p = .ok content := by
  unfold isFile at file
  split at file
  · rename_i content found
    refine ⟨content, ?_, by rw [read, found]⟩
    unfold find? at found
    split at found
    · cases found
    · obtain ⟨before, after, rfl, -⟩ := List.lookup_eq_some_iff.1 found
      simp
  · cases file

end FileTree

end LineTemplate
