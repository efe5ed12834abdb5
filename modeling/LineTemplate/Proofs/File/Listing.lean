import Mathlib.Data.List.Induction
import Mathlib.Tactic.Choose
import LineTemplate.Proofs.File.Keeping
import LineTemplate.Proofs.File.Names

/-!
The templates of a directory. Every file that is listed can be loaded, and a loader that keeps nothing else
than the files hold gives it as it is. All of them together are kept by their names without the extensions:
of files with one name the last one counts, and nothing is kept under the name that is reserved.
-/

set_option autoImplicit false

namespace LineTemplate

namespace Path

theorem resolve_of_properName (base : Path) {c : Text} (name : ProperName c) :
    resolve base c = base ++ [c] := by
  have alone : segments c = [c] := Text.splitOn_of_notMem _ c name.slash
  have relative : isAbsolute c = false := by
    cases c with
    | nil => rfl
    | cons first rest =>
      rw [isAbsolute, List.head?_cons, beq_eq_false_iff_ne]
      intro same
      exact name.slash (Option.some.inj same ▸ List.mem_cons_self)
  rw [resolve, alone, relative, if_neg Bool.false_ne_true, List.foldl_cons, List.foldl_nil, follow,
    if_neg (by simp [name.ne_nil, name.ne_dot]), if_neg name.ne_dots]

theorem below_concat (base : Path) (c : Text) : Below base (base ++ [c]) :=
  ⟨List.prefix_append base [c], by simp⟩

theorem Proper.concat {base : Path} (proper : base.Proper) {c : Text} (name : ProperName c) :
    Proper (base ++ [c]) := by
  intro d member
  rcases List.mem_append.1 member with old | new
  · exact proper d old
  · exact List.mem_singleton.1 new ▸ name

end Path

namespace Loader

variable {files : FileTree} {base : Path} {l : Loader} {names : List Text} {filename : Text}

theorem of_mem_list (listed : list files base = .ok names) (member : filename ∈ names) :
    filename ∈ files.names base ∧ files.isFile (base ++ [filename]) = true ∧
      isTemplateName filename = true := by
  unfold list at listed
  split at listed
  · cases listed
    cases member
  · cases listed
  · split at listed
    · cases listed
    · cases listed
      rw [List.mem_mergeSort, List.mem_filter, Bool.and_eq_true] at member
      exact member

theorem list_eq (directory : files.find? base = some .directory)
    (reached : ∀ name ∈ files.names base, files.contains (base ++ [name]) = true) :
    list files base = .ok (((files.names base).filter fun name =>
      files.isFile (base ++ [name]) && isTemplateName name).mergeSort Text.le) := by
  have none_missing : ((files.names base).find? fun name => !files.contains (base ++ [name])) = none :=
    List.find?_eq_none.2 fun name member => by simp [reached name member]
  unfold list
  rw [directory]
  dsimp only
  rw [none_missing]

theorem list_of_pairwise (directory : files.find? base = some .directory)
    (reached : ∀ name ∈ files.names base, files.contains (base ++ [name]) = true)
    (templates : ((files.names base).filter fun name =>
      files.isFile (base ++ [name]) && isTemplateName name) = names)
    (sorted : names.Pairwise fun a b => Text.le a b = true) : list files base = .ok names := by
  rw [list_eq directory reached, templates, List.mergeSort_of_pairwise sorted]

theorem read_of_isFile (proper : base.Proper) (name : Path.ProperName filename)
    (file : files.isFile (base ++ [filename]) = true) (named : isTemplateName filename = true) :
    ∃ source, files.read (base ++ [filename]) = .ok source ∧
      read files base filename = .ok ⟨Path.fileStem filename, filename, source⟩ := by
  have stays : Path.leaves (Path.relative base (base ++ [filename])) = false := by
    by_contra leads
    rw [Bool.not_eq_false] at leads
    exact (Path.leaves_relative_iff (proper.concat name)).1 leads (Path.below_concat base filename)
  obtain ⟨content, -, readable⟩ := FileTree.exists_mem_of_isFile file
  have contains : files.contains (base ++ [filename]) = true := by
    unfold FileTree.read at readable
    unfold FileTree.contains
    split at readable <;> simp_all
  refine ⟨content, readable, ?_⟩
  unfold read
  rw [Path.resolve_of_properName base name]
  dsimp only
  rw [stays, contains, named, readable]
  rfl

/-- A loader that keeps nothing else than what the files hold. -/
def Current (l : Loader) (files : FileTree) : Prop :=
  ∀ filename file, l.cache.get? filename = some file → read files l.base filename = .ok file

theorem Current.load (h : l.Current files) {file : TemplateFile}
    (found : read files l.base filename = .ok file) :
    ∃ l', l.load files filename = (.ok file, l') ∧ l'.Current files ∧ l'.base = l.base := by
  cases kept : l.cache.get? filename with
  | some file' =>
    cases (h filename file' kept).symm.trans found
    exact ⟨l, load_of_get? kept files, h, rfl⟩
  | none =>
    refine ⟨_, load_of_read kept found, fun other file' kept' => ?_, rfl⟩
    by_cases this_one : other = filename
    · subst this_one
      rw [Members.get?_set_self] at kept'
      cases kept'
      exact found
    · rw [Members.get?_set_of_ne _ _ _ _ this_one] at kept'
      exact h other file' kept'

def addSource (sofar : Members Text) (file : TemplateFile) : Members Text :=
  if file.name = reservedName then sofar else sofar.set file.name file.source

theorem Current.loadEach (h : l.Current files) {given : Text → TemplateFile}
    (all : ∀ filename ∈ names, read files l.base filename = .ok (given filename)) (sofar : Members Text) :
    ∃ l', loadEach files l sofar names = (.ok ((names.map given).foldl addSource sofar), l') := by
  induction names generalizing l sofar with
  | nil => exact ⟨l, rfl⟩
  | cons filename rest ih =>
    obtain ⟨l₁, loaded, current, base⟩ := h.load (all filename List.mem_cons_self)
    have others : ∀ other ∈ rest, read files l₁.base other = .ok (given other) := by
      rw [base]
      exact fun other member => all other (List.mem_cons_of_mem filename member)
    obtain ⟨l', same⟩ := ih current others (addSource sofar (given filename))
    refine ⟨l', ?_⟩
    unfold Loader.loadEach
    rw [loaded]
    exact same

theorem Current.loadAll (h : l.Current files) (listed : list files l.base = .ok names)
    {given : Text → TemplateFile}
    (all : ∀ filename ∈ names, read files l.base filename = .ok (given filename)) :
    ∃ l', l.loadAll files = (.ok ((names.map given).foldl addSource []), l') := by
  unfold Loader.loadAll
  rw [listed]
  exact h.loadEach all []

theorem get?_foldl_addSource (templates : List TemplateFile) (key : Text) :
    (templates.foldl addSource []).get? key = if key = reservedName then none else
      (templates.filter fun t => t.name = key).getLast?.map TemplateFile.source := by
  -- from the right, since the template that is added last decides
  induction templates using List.reverseRecOn with
  | nil => simp [Members.get?]
  | append_singleton earlier last ih =>
    rw [List.foldl_append, List.foldl_cons, List.foldl_nil, List.filter_append, addSource]
    by_cases this_one : last.name = key
    · subst this_one
      by_cases reserved : last.name = reservedName
      · rw [if_pos reserved, ih, if_pos reserved, if_pos reserved]
      · rw [if_neg reserved, if_neg reserved, Members.get?_set_self]
        simp
    · have same : ((if last.name = reservedName then earlier.foldl addSource []
          else (earlier.foldl addSource []).set last.name last.source).get? key) =
            (earlier.foldl addSource []).get? key := by
        split
        · rfl
        · exact Members.get?_set_of_ne _ _ _ _ (Ne.symm this_one)
      rw [same, ih]
      simp [this_one]

end Loader

theorem current_of_openDirectory {files : FileTree} {base : Path} {l : Loader}
    (opened : Loader.openDirectory files base = .ok l) : l.Current files := by
  intro filename file kept
  rw [(keeps_of_openDirectory opened).cache] at kept
  cases kept

/-- The last of the files that have this name without their extensions. -/
def lastNamed (names : List Text) (stem : Text) : Option Text :=
  (names.filter fun filename => Path.fileStem filename = stem).getLast?

theorem mem_of_lastNamed {names : List Text} {stem last : Text} (h : lastNamed names stem = some last) :
    last ∈ names ∧ Path.fileStem last = stem := by
  have member := List.mem_filter.1 (List.mem_of_getLast? h)
  exact ⟨member.1, of_decide_eq_true member.2⟩

theorem exists_lastNamed {names : List Text} {filename : Text} (member : filename ∈ names) :
    ∃ last, lastNamed names (Path.fileStem filename) = some last := by
  have inside : filename ∈ names.filter fun other => Path.fileStem other = Path.fileStem filename :=
    List.mem_filter.2 ⟨member, decide_eq_true rfl⟩
  exact Option.isSome_iff_exists.1 (List.getLast?_isSome.2 (List.ne_nil_of_mem inside))

theorem get?_sources (names : List Text) (source : Text → Text) (key : Text) :
    ((names.map fun filename => (⟨Path.fileStem filename, filename, source filename⟩ : TemplateFile)).foldl
        Loader.addSource []).get? key =
      if key = Loader.reservedName then none else (lastNamed names key).map source := by
  rw [Loader.get?_foldl_addSource, List.filter_map, List.getLast?_map, Option.map_map]
  rfl

theorem sources_kept_iff {names : List Text} {record : Members Text}
    {content : Text → Except FileFault Text}
    (readable : ∀ filename ∈ names, ∃ source, content filename = .ok source)
    (by_key : ∀ key, record.get? key = if key = Loader.reservedName then none else
      (lastNamed names key).bind fun last => (content last).toOption) :
    (∀ filename ∈ names, ∃ source, content filename = .ok source ∧
        record.get? (Path.fileStem filename) = some source) ↔
      ∀ filename ∈ names, Path.fileStem filename ≠ Loader.reservedName ∧
        ∀ other ∈ names, Path.fileStem other = Path.fileStem filename →
          content other = content filename := by
  constructor
  · intro kept filename member
    obtain ⟨source, read, found⟩ := kept filename member
    refine ⟨fun reserved => ?_, fun other member' same => ?_⟩
    · rw [by_key, if_pos reserved] at found
      cases found
    · obtain ⟨source', read', found'⟩ := kept other member'
      rw [same, found] at found'
      rw [read, read', Option.some.inj found']
  · intro single filename member
    obtain ⟨free, same⟩ := single filename member
    obtain ⟨source, read⟩ := readable filename member
    obtain ⟨last, found⟩ := exists_lastNamed member
    obtain ⟨member', named⟩ := mem_of_lastNamed found
    refine ⟨source, read, ?_⟩
    rw [by_key, if_neg free, found, Option.bind_some, same last member' named, read]
    rfl

/-- A loader that is new loads all templates that are listed, each from the place on the disk that has its name.
Under each name but the reserved one it gives the source of the last file with this name; so no template is lost
exactly if no file has the reserved name and files with one name hold the same. -/
theorem loadAll_keeps_iff (here directory : Text) {files : FileTree}
    (decodable : files.Decodable (workingPath here directory)) {l : Loader}
    (opened : Loader.openDirectory files (workingPath here directory) = .ok l) {names : List Text}
    (listed : Loader.list files (workingPath here directory) = .ok names)
    (proper : ∀ filename ∈ names, Path.ProperName filename) :
    let base := workingPath here directory
    ∃ record l', l.loadAll files = (.ok record, l') ∧
      (∀ filename ∈ names, ∃ source, (base.onDisk ++ [filename], .file source) ∈ files ∧
        files.read (base ++ [filename]) = .ok source) ∧
      (∀ key, record.get? key = if key = Loader.reservedName then none else
        (lastNamed names key).bind fun last => (files.read (base ++ [last])).toOption) ∧
      ((∀ filename ∈ names, ∃ source, files.read (base ++ [filename]) = .ok source ∧
          record.get? (Path.fileStem filename) = some source) ↔
        ∀ filename ∈ names, Path.fileStem filename ≠ Loader.reservedName ∧
          ∀ other ∈ names, Path.fileStem other = Path.fileStem filename →
            files.read (base ++ [other]) = files.read (base ++ [filename])) := by
  intro base
  have current := current_of_openDirectory opened
  have each (filename : Text) (member : filename ∈ names) :=
    Loader.read_of_isFile (proper_workingPath here directory) (proper filename member)
      (Loader.of_mem_list listed member).2.1 (Loader.of_mem_list listed member).2.2
  have placed (filename : Text) (member : filename ∈ names) : ∃ source,
      (base.onDisk ++ [filename], .file source) ∈ files ∧ files.read (base ++ [filename]) = .ok source := by
    obtain ⟨inside, file, -⟩ := Loader.of_mem_list listed member
    rw [← Path.onDisk_concat base (decodable.wellFormed_of_mem inside)]
    exact FileTree.exists_mem_of_isFile file
  choose! source read given using each
  rw [← (keeps_of_openDirectory opened).base_eq] at given listed
  obtain ⟨l', loaded⟩ := current.loadAll listed given
  have readable (filename : Text) (member : filename ∈ names) :
      ∃ source, files.read (base ++ [filename]) = .ok source := ⟨_, read filename member⟩
  have by_key (key : Text) := get?_sources names source key
  have last_source (key : Text) : (lastNamed names key).map source =
      (lastNamed names key).bind fun last => (files.read (base ++ [last])).toOption := by
    cases found : lastNamed names key with
    | none => rfl
    | some last =>
      rw [Option.map_some, Option.bind_some, read last (mem_of_lastNamed found).1]
      rfl
  simp only [last_source] at by_key
  exact ⟨_, l', loaded, placed, by_key, sources_kept_iff readable by_key⟩

/-- Two files with one name and the same text, beside a directory and a file that is no template. -/
theorem loadAll_keeps_copies :
    let files : FileTree := [(["a"], .directory), (["a", "x.TXT"], .file "t"), (["a", "x.tpl"], .file "t"),
      (["a", "b.md"], .directory), (["a", "y.js"], .file "s")]
    let l : Loader := ⟨["a"], []⟩
    let names : List Text := ["x.TXT", "x.tpl"]
    files.Decodable (workingPath "/" "a") ∧
      Loader.openDirectory files (workingPath "/" "a") = .ok l ∧
      Loader.list files (workingPath "/" "a") = .ok names ∧
      (∀ filename ∈ names, Path.ProperName filename) ∧
      ∃ record l', l.loadAll files = (.ok record, l') ∧
        ∀ filename ∈ names, ∃ source, files.read ["a", filename] = .ok source ∧
          record.get? (Path.fileStem filename) = some source := by
  intro files l names
  have opened : Loader.openDirectory files (workingPath "/" "a") = .ok l := rfl
  have listed : Loader.list files (workingPath "/" "a") = .ok names :=
    Loader.list_of_pairwise rfl (by decide) (by decide +kernel) (by decide)
  have proper : ∀ filename ∈ names, Path.ProperName filename :=
    List.forall_mem_cons.2 ⟨⟨by decide, by decide, by decide, by decide⟩,
      List.forall_mem_singleton.2 ⟨by decide, by decide, by decide, by decide⟩⟩
  have decodable : files.Decodable (workingPath "/" "a") := by decide +kernel
  refine ⟨decodable, opened, listed, proper, ?_⟩
  obtain ⟨record, l', loaded, -, -, kept⟩ := loadAll_keeps_iff "/" "a" decodable opened listed proper
  exact ⟨record, l', loaded, kept.2 (by decide +kernel)⟩

/-- A file with the reserved name is lost, and so is the first of two files with one name. -/
theorem loadAll_loses :
    let files : FileTree := [(["a"], .directory), (["a", "__proto__.tpl"], .file "lost"),
      (["a", "page.tpl"], .file "first"), (["a", "page.txt"], .file "second")]
    let l : Loader := ⟨["a"], []⟩
    let record : Members Text := [("page", "second")]
    Loader.openDirectory files (workingPath "/" "a") = .ok l ∧
      Loader.list files (workingPath "/" "a") = .ok ["__proto__.tpl", "page.tpl", "page.txt"] ∧
      (l.loadAll files).1.toOption = some record ∧
      record.get? (Path.fileStem "__proto__.tpl") = none ∧
      files.read ["a", "page.tpl"] = .ok "first" ∧
      record.get? (Path.fileStem "page.tpl") = some "second" := by
  intro files l record
  have listed : Loader.list files (workingPath "/" "a") = .ok ["__proto__.tpl", "page.tpl", "page.txt"] :=
    Loader.list_of_pairwise rfl (by decide) (by decide +kernel) (by decide)
  have loaded : (l.loadAll files).1.toOption = some record := by
    unfold Loader.loadAll
    rw [show Loader.list files l.base = _ from listed]
    decide +kernel
  exact ⟨rfl, listed, loaded, by decide, rfl, by decide⟩

end LineTemplate
