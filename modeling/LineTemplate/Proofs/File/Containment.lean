import LineTemplate.Proofs.File.Keeping

/-!
Loads stay below the directory. A load of a file that is kept looks at no file, and one that is not kept
looks at the path that its name is resolved to, after the written way to this path has been tested.
-/

set_option autoImplicit false

namespace LineTemplate

namespace Loader

variable {files files' : FileTree} {base : Path} {filename : Text}

theorem read_congr (same : Path.leaves (Path.relative base (Path.resolve base filename)) = false →
    files'.find? (Path.resolve base filename) = files.find? (Path.resolve base filename)) :
    read files' base filename = read files base filename := by
  cases leads : Path.leaves (Path.relative base (Path.resolve base filename)) with
  | true => rw [read_of_leaves files leads, read_of_leaves files' leads]
  | false =>
    have contains : files'.contains (Path.resolve base filename) =
        files.contains (Path.resolve base filename) := congrArg Option.isSome (same leads)
    have content : files'.read (Path.resolve base filename) =
        files.read (Path.resolve base filename) := by
      unfold FileTree.read
      rw [same leads]
    unfold read
    dsimp only
    rw [contains, content]

theorem load_congr {l : Loader} (same : l.cache.get? filename = none →
    read files' l.base filename = read files l.base filename) :
    l.load files' filename = l.load files filename := by
  unfold load
  cases kept : l.cache.get? filename with
  | some file => rfl
  | none =>
    dsimp only
    rw [same kept]

end Loader

theorem Keeps.load_eq_outside_iff {base : Path} {made : List LoadCall} {l : Loader}
    (h : Keeps base made l) (proper : Path.Proper base) (files : FileTree) (filename : Text) :
    (l.load files filename).1 = .error (Loader.outside base filename) ↔
      ¬Path.Below base (Path.resolve base filename) := by
  rw [← Path.leaves_relative_iff (proper.resolve filename)]
  cases kept : l.cache.get? filename with
  | some file =>
    obtain ⟨c, -, -, read⟩ := h.get?_eq_some kept
    rw [Loader.load_of_get? kept, (Loader.reads_of_read read).stays]
    simp
  | none =>
    cases leads : Path.leaves (Path.relative base (Path.resolve base filename)) with
    | true =>
      have failed := Loader.read_of_leaves files leads
      rw [← h.base_eq] at failed ⊢
      rw [Loader.load_of_read_error kept failed]
      simp
    | false =>
      rw [iff_false_right Bool.false_ne_true]
      rcases Loader.read_of_below files leads with ⟨file, read, -⟩ | ⟨e, read, other⟩
      · rw [← h.base_eq] at read
        simp [Loader.load_of_read kept read]
      · rw [← h.base_eq] at read
        simpa [Loader.load_of_read_error kept read] using other

/-- After any history of a loader, a load fails as one that leaves the directory exactly if the path that
its name is resolved to does not lie below the directory. A load that gives a file has a path that does, and
beside what is kept it looks at this path only. -/
theorem load_stays_below (here directory : Text) {files : FileTree} {l : Loader}
    (opened : Loader.openDirectory files (workingPath here directory) = .ok l)
    (steps : List LoaderStep) (filename : Text) :
    let base := workingPath here directory
    let s := LoaderState.performAll ⟨l, files⟩ steps
    ((s.loader.load s.files filename).1 = .error (Loader.outside base filename) ↔
      ¬Path.Below base (Path.resolve base filename)) ∧
    (∀ file, (s.loader.load s.files filename).1 = .ok file →
      Path.Below base (Path.resolve base filename)) ∧
    ∀ files', (Path.Below base (Path.resolve base filename) →
        files'.find? (Path.resolve base filename) = s.files.find? (Path.resolve base filename)) →
      s.loader.load files' filename = s.loader.load s.files filename := by
  intro base s
  have keeps := (keeps_of_openDirectory opened).performAll (s := ⟨l, files⟩) steps
  have proper := proper_workingPath here directory
  have fails := keeps.load_eq_outside_iff proper s.files filename
  refine ⟨fails, fun file loaded => ?_, fun files' same => ?_⟩
  · by_cases below : Path.Below base (Path.resolve base filename)
    · exact below
    · cases (fails.2 below).symm.trans loaded
  · refine Loader.load_congr fun _ => ?_
    rw [keeps.base_eq]
    refine Loader.read_congr fun stays => same ?_
    by_cases below : Path.Below base (Path.resolve base filename)
    · exact below
    · cases ((Path.leaves_relative_iff (proper.resolve filename)).2 below).symm.trans stays

/-- The directory `a-b` beside `a` is not below it, though its path starts with the same text, and a name
that starts with two dots is. -/
theorem load_stays_below_sibling :
    let files : FileTree := [(["a"], .directory), (["a-b"], .directory),
      (["a-b", "x.tpl"], .file "out"), (["a", "..x.tpl"], .file "in")]
    let l : Loader := ⟨["a"], []⟩
    Loader.openDirectory files (workingPath "/" "a") = .ok l ∧
      (l.load files "../a-b/x.tpl").1 = .error (Loader.outside ["a"] "../a-b/x.tpl") ∧
      (l.load files "..x.tpl").1 ≠ .error (Loader.outside ["a"] "..x.tpl") := by
  intro files l
  have opened : Loader.openDirectory files (workingPath "/" "a") = .ok l := rfl
  refine ⟨opened, (load_stays_below "/" "a" opened [] "../a-b/x.tpl").1.2 (by decide), fun failed => ?_⟩
  exact (load_stays_below "/" "a" opened [] "..x.tpl").1.1 failed (by decide)

/-- Neither the directory itself nor a way around it is below it, and all but the root is below the root. -/
example : ["", ".", "a/../../x.tpl", "/b/x.tpl"].all (fun name =>
      Path.leaves (Path.relative ["a"] (Path.resolve ["a"] name))) ∧
    Path.leaves (Path.relative [] (Path.resolve [] "../x.tpl")) = false := by
  decide

end LineTemplate
