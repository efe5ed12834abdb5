import LineTemplate.Proofs.File.Listing

/-!
Listing and loading agree. The names that are listed for a directory are those of its templates, in the order
of their units and none of them twice, and a loader accepts each of them, whatever dots, blanks or capitals it
holds: it lies below the directory, and what is cut off its end is its extension. So a loader loads a directory
as a whole as long as the files stay as they are.
-/

set_option autoImplicit false

namespace LineTemplate

namespace Text

theorem le_trans {s t u : Text} (first : le s t = true) (second : le t u = true) : le s u = true := by
  induction s generalizing t u with
  | nil => rfl
  | cons a s ih =>
    cases t with
    | nil => cases first
    | cons b t =>
      cases u with
      | nil => cases second
      | cons c u =>
        simp only [le] at first second ⊢
        grind

theorem le_total (s t : Text) : (le s t || le t s) = true := by
  induction s generalizing t with
  | nil => rfl
  | cons a s ih =>
    cases t with
    | nil => rfl
    | cons b t =>
      simp only [le]
      grind

theorem lt_of_le_of_ne {s t : Text} (ordered : le s t = true) (other : s ≠ t) : s < t := by
  induction s generalizing t with
  | nil =>
    cases t with
    | nil => exact absurd rfl other
    | cons b t => exact List.nil_lt_cons b t
  | cons a s ih =>
    cases t with
    | nil => cases ordered
    | cons b t =>
      rw [le] at ordered
      split at ordered
      · rename_i same
        subst same
        exact List.cons_lt_cons_self.2 (ih ordered fun tail => other (congrArg _ tail))
      · exact List.cons_lt_cons_iff.2 (.inl (of_decide_eq_true ordered))

theorem pairwise_mergeSort {texts : List Text} (distinct : texts.Nodup) :
    (texts.mergeSort le).Pairwise (· < ·) := by
  have ordered : (texts.mergeSort le).Pairwise fun s t => le s t = true :=
    List.pairwise_mergeSort (fun s t u => le_trans (s := s) (t := t) (u := u)) le_total texts
  have differ : (texts.mergeSort le).Nodup := (List.mergeSort_perm texts le).nodup_iff.2 distinct
  exact ordered.imp₂ (fun _ _ => lt_of_le_of_ne) differ

end Text

namespace Text

theorem exists_of_splitEnd (p : CodeUnit → Bool) {t : Text} (some : (splitEnd p t).1 ≠ []) :
    ∃ init c, (splitEnd p t).1 = init ++ [c] ∧ p c = false := by
  unfold splitEnd at some ⊢
  dsimp only at some ⊢
  cases rest : t.reverse.dropWhile p with
  | nil =>
    rw [rest] at some
    exact absurd rfl some
  | cons c others =>
    refine ⟨others.reverse, c, List.reverse_cons, ?_⟩
    have first := List.head?_dropWhile_not p t.reverse
    rw [rest] at first
    simpa using first

end Text

namespace Path

instance : DecidablePred ProperName := fun c =>
  decidable_of_iff (c ≠ [] ∧ c ≠ "." ∧ c ≠ ".." ∧ CodeUnit.ofChar '/' ∉ c)
    ⟨fun ⟨units, dot, dots, slash⟩ => ⟨units, dot, dots, slash⟩,
      fun name => ⟨name.ne_nil, name.ne_dot, name.ne_dots, name.slash⟩⟩

instance : DecidablePred Proper := fun p => inferInstanceAs (Decidable (∀ c ∈ p, ProperName c))

theorem exists_append_extensionOfName (name : Text) : ∃ start, name = start ++ extensionOfName name := by
  have parts := Text.splitEnd_append (fun c : CodeUnit => c != '.') name
  unfold extensionOfName
  dsimp only
  split
  · exact ⟨name, (List.append_nil name).symm⟩
  · rename_i cut
    have some : (Text.splitEnd (fun c : CodeUnit => c != '.') name).1 ≠ [] := by
      intro none
      simp [none] at cut
    obtain ⟨init, c, start, dot⟩ := Text.exists_of_splitEnd _ some
    have dot : c = CodeUnit.ofChar '.' := by simpa using dot
    refine ⟨init, ?_⟩
    rw [start, dot] at parts
    rw [← List.append_assoc]
    exact parts.symm

theorem fileStem_append_fileExtension (written : Text) :
    fileStem written ++ fileExtension written = fileName written := by
  obtain ⟨start, spelled⟩ := exists_append_extensionOfName (fileName written)
  have length := congrArg List.length spelled
  rw [List.length_append] at length
  have stem : fileStem written = start := by
    unfold fileStem
    dsimp only
    rw [show (fileName written).length - (extensionOfName (fileName written)).length = start.length by omega]
    conv_lhs => rw [spelled]
    exact List.take_left
  rw [stem]
  exact spelled.symm

theorem fileName_of_properName {c : Text} (name : ProperName c) : fileName c = c := by
  have alone : segments c = [c] := Text.splitOn_of_notMem _ c name.slash
  simp [fileName, alone, name.ne_nil]

end Path

namespace Loader

variable {files : FileTree} {base : Path}

theorem exists_list (wellFormed : files.WellFormed) (decodable : files.Decodable base)
    (there : files.find? base = some .directory) :
    ∃ names, list files base = .ok names ∧ names.Pairwise (· < ·) ∧
      (∀ filename, filename ∈ names ↔ filename.wellFormed = filename ∧
        files.isFile (base ++ [filename]) = true ∧ isTemplateName filename = true) ∧
      ∀ filename ∈ names, Path.ProperName filename := by
  have distinct : ((files.names base).filter fun name =>
      files.isFile (base ++ [name]) && isTemplateName name).Nodup :=
    (decodable.nodup_names wellFormed.distinct).filter _
  refine ⟨_, list_eq there fun name => decodable.contains_of_mem, Text.pairwise_mergeSort distinct,
    fun filename => ?_, fun filename inside => ?_⟩
  · rw [List.mem_mergeSort, List.mem_filter, Bool.and_eq_true]
    refine and_congr_left fun template => ⟨decodable.wellFormed_of_mem, fun formed => ?_⟩
    obtain ⟨content, entry, -⟩ := FileTree.exists_mem_of_isFile template.1
    rw [Path.onDisk_concat base formed] at entry
    exact decodable.mem_names.2 (List.mem_map_of_mem entry)
  · rw [List.mem_mergeSort, List.mem_filter] at inside
    exact wellFormed.proper _ (decodable.mem_names.1 inside.1) filename
      (List.mem_append_right _ List.mem_cons_self)

variable {l : Loader}

theorem Current.of_load (h : l.Current files) (filename : Text) :
    (l.load files filename).2.Current files ∧ (l.load files filename).2.base = l.base := by
  cases kept : l.cache.get? filename with
  | some file =>
    rw [load_of_get? kept]
    exact ⟨h, rfl⟩
  | none =>
    cases found : read files l.base filename with
    | error e =>
      rw [load_of_read_error kept found]
      exact ⟨h, rfl⟩
    | ok file =>
      obtain ⟨l', loaded, current, base⟩ := h.load found
      rw [loaded]
      exact ⟨current, base⟩

theorem Current.of_loadEach (h : l.Current files) (sofar : Members Text) (filenames : List Text) :
    (Loader.loadEach files l sofar filenames).2.Current files ∧
      (Loader.loadEach files l sofar filenames).2.base = l.base := by
  induction filenames generalizing l sofar with
  | nil => exact ⟨h, rfl⟩
  | cons filename rest ih =>
    obtain ⟨current, base⟩ := h.of_load filename
    unfold Loader.loadEach
    cases loaded : l.load files filename with
    | mk outcome l₁ =>
      rw [loaded] at current base
      cases outcome with
      | error e => exact ⟨current, base⟩
      | ok file =>
        obtain ⟨current', base'⟩ := ih current (addSource sofar file)
        exact ⟨current', base'.trans base⟩

theorem Current.of_loadAll (h : l.Current files) :
    (l.loadAll files).2.Current files ∧ (l.loadAll files).2.base = l.base := by
  unfold Loader.loadAll
  cases list files l.base with
  | error e => exact ⟨h, rfl⟩
  | ok filenames => exact h.of_loadEach [] filenames

end Loader

/-- A step that changes no files. -/
def LoaderStep.KeepsFiles : LoaderStep → Prop
  | .change _ => False
  | _ => True

instance : DecidablePred LoaderStep.KeepsFiles := fun step =>
  match step with
  | .change _ => .isFalse id
  | .load _ | .loadAll | .clear => .isTrue trivial

namespace LoaderState

theorem current_perform {s : LoaderState} (h : s.loader.Current s.files) {step : LoaderStep}
    (keeps : step.KeepsFiles) :
    (s.perform step).loader.Current s.files ∧ (s.perform step).loader.base = s.loader.base ∧
      (s.perform step).files = s.files := by
  cases step with
  | load filename => exact ⟨(h.of_load filename).1, (h.of_load filename).2, rfl⟩
  | loadAll => exact ⟨h.of_loadAll.1, h.of_loadAll.2, rfl⟩
  | clear => exact ⟨(fun _ _ kept => by cases kept), rfl, rfl⟩
  | change files => exact keeps.elim

theorem current_performAll {s : LoaderState} (h : s.loader.Current s.files) {steps : List LoaderStep}
    (keep : ∀ step ∈ steps, step.KeepsFiles) :
    (s.performAll steps).loader.Current s.files ∧ (s.performAll steps).loader.base = s.loader.base ∧
      (s.performAll steps).files = s.files := by
  induction steps generalizing s with
  | nil => exact ⟨h, rfl, rfl⟩
  | cons step rest ih =>
    obtain ⟨current, base, files⟩ := current_perform h (keep step List.mem_cons_self)
    rw [← files] at current
    obtain ⟨current', base', files'⟩ :=
      ih current fun other member => keep other (List.mem_cons_of_mem step member)
    exact ⟨files ▸ current', base'.trans base, files'.trans files⟩

end LoaderState

/-- As long as the files stay as they are, a loader accepts what is listed for its directory: the names of
its templates, each strictly before the next one. Each is loaded from the file with this name, under a name
that together with the extension gives the filename. So all of them can be loaded together. -/
theorem list_accepted (here directory : Text) {files : FileTree} (wellFormed : files.WellFormed)
    (decodable : files.Decodable (workingPath here directory))
    {l : Loader} (opened : Loader.openDirectory files (workingPath here directory) = .ok l)
    (there : files.find? (workingPath here directory) = some .directory)
    {steps : List LoaderStep} (keep : ∀ step ∈ steps, step.KeepsFiles) :
    let base := workingPath here directory
    let s := LoaderState.performAll ⟨l, files⟩ steps
    ∃ names, Loader.list s.files base = .ok names ∧ names.Nodup ∧ names.Pairwise (· < ·) ∧
      (∀ filename, filename ∈ names ↔ filename.wellFormed = filename ∧
        files.isFile (base ++ [filename]) = true ∧ Loader.isTemplateName filename = true) ∧
      (∀ filename ∈ names, ∃ file, (s.loader.load s.files filename).1 = .ok file ∧
        file.name ++ Path.fileExtension filename = filename ∧
        files.read (base ++ [filename]) = .ok file.source) ∧
      ∃ record, (s.loader.loadAll s.files).1 = .ok record := by
  intro base s
  obtain ⟨current, kept_base, kept_files⟩ : s.loader.Current files ∧ s.loader.base = l.base ∧
      s.files = files :=
    LoaderState.current_performAll (s := ⟨l, files⟩) (current_of_openDirectory opened) keep
  rw [(keeps_of_openDirectory opened).base_eq] at kept_base
  rw [kept_files]
  obtain ⟨names, listed, ordered, member, proper⟩ := Loader.exists_list wellFormed decodable there
  have each (filename : Text) (inside : filename ∈ names) :=
    Loader.read_of_isFile (proper_workingPath here directory) (proper filename inside)
      ((member filename).1 inside).2.1 ((member filename).1 inside).2.2
  refine ⟨names, listed, ordered.imp ?_, ordered, member, fun filename inside => ?_, ?_⟩
  · rintro s _ before rfl
    exact List.lt_irrefl s before
  · obtain ⟨source, read, given⟩ := each filename inside
    rw [← kept_base] at given
    obtain ⟨l', loaded, -⟩ := current.load given
    refine ⟨_, congrArg Prod.fst loaded, ?_, read⟩
    have named := Path.fileName_of_properName (proper filename inside)
    exact (Path.fileStem_append_fileExtension filename).trans named
  · choose! source read given using each
    rw [← kept_base] at given listed
    obtain ⟨l', loaded⟩ := current.loadAll listed given
    exact ⟨_, congrArg Prod.fst loaded⟩

/-- Names with several dots, with dots in front, with capitals, with a blank and with a line break, beside a
directory that is named as a template and files that are none. -/
theorem list_accepted_dots :
    let files : FileTree := [(["a"], .directory), (["a", "...md"], .file "s"), (["a", "..tpl"], .file "t"),
      (["a", "..x.txt"], .file "u"), (["a", ".md"], .file "v"), (["a", "A.TPL"], .file "w"),
      (["a", "b c.x.md"], .file "x"), (["a", "d.md"], .directory), (["a", "e\n.Txt"], .file "y"),
      (["a", "f.js"], .file "z")]
    let l : Loader := ⟨["a"], []⟩
    let names : List Text := ["...md", "..tpl", "..x.txt", "A.TPL", "b c.x.md", "e\n.Txt"]
    Loader.openDirectory files (workingPath "/" "a") = .ok l ∧
      Loader.list files (workingPath "/" "a") = .ok names ∧
      (∀ filename ∈ names, ∃ file, (l.load files filename).1 = .ok file ∧
        file.name ++ Path.fileExtension filename = filename) ∧
      ∃ record, (l.loadAll files).1 = .ok record := by
  intro files l names
  have opened : Loader.openDirectory files (workingPath "/" "a") = .ok l := rfl
  have wellFormed : files.WellFormed := ⟨by decide +kernel, by decide +kernel⟩
  have listed : Loader.list files (workingPath "/" "a") = .ok names :=
    Loader.list_of_pairwise rfl (by decide) (by decide +kernel) (by decide)
  obtain ⟨names', listed', -, -, -, each, all⟩ :=
    list_accepted "/" "a" wellFormed (by decide +kernel) opened rfl (List.forall_mem_nil LoaderStep.KeepsFiles)
  cases listed.symm.trans listed'
  refine ⟨opened, listed, fun filename inside => ?_, all⟩
  obtain ⟨file, loaded, spelled, -⟩ := each filename inside
  exact ⟨file, loaded, spelled⟩

/-- A name that is not UTF-8 is read as another one. If nothing has the other name, the directory cannot be
listed, be the file a template or not; if a file has it, it is listed twice. And a loader of one directory does
not accept what is listed for another. -/
theorem list_not_accepted :
    let lost : FileTree :=
      [(["a"], .directory), (["a", "x.tpl"], .file "s"), (["a", 0xDC80 :: ".jpg"], .file "t")]
    let twice : FileTree := [(["a"], .directory), (["a", 0xDC80 :: ".tpl"], .file "s"),
      (["a", 0xFFFD :: ".tpl"], .file "t")]
    let apart : FileTree := [(["a"], .directory), (["b"], .directory), (["b", "x.tpl"], .file "s")]
    let l : Loader := ⟨["a"], []⟩
    let e : ErrorReport := FileFault.notFound.report "stat" (some ("/a/\uFFFD.jpg" : String))
    (lost.WellFormed ∧ Loader.openDirectory lost (workingPath "/" "a") = .ok l ∧
        Loader.list lost ["a"] = .error e ∧ l.loadAll lost = (.error e, l)) ∧
      (twice.WellFormed ∧ Loader.openDirectory twice (workingPath "/" "a") = .ok l ∧
        Loader.list twice ["a"] = .ok [0xFFFD :: ".tpl", 0xFFFD :: ".tpl"]) ∧
      apart.WellFormed ∧ Loader.openDirectory apart (workingPath "/" "a") = .ok l ∧
        Loader.list apart ["b"] = .ok ["x.tpl"] ∧ (l.load apart "x.tpl").1 =
          .error (.templateLoad "/a/x.tpl" (some ("Template file not found: /a/x.tpl" : String))) := by
  intro lost twice apart l e
  have listed : Loader.list lost ["a"] = .error e := rfl
  refine ⟨⟨⟨by decide +kernel, by decide +kernel⟩, rfl, listed, ?_⟩,
    ⟨⟨by decide +kernel, by decide +kernel⟩, rfl, ?_⟩,
    ⟨by decide +kernel, by decide +kernel⟩, rfl, ?_, by decide +kernel⟩
  · rw [Loader.loadAll, listed]
  · exact Loader.list_of_pairwise rfl (by decide) (by decide +kernel) (by decide)
  · exact Loader.list_of_pairwise rfl (by decide) (by decide +kernel) (by decide)

end LineTemplate
