import LineTemplate.File.History
import LineTemplate.Proofs.File.Ways

/-!
What a loader keeps. A load either gives what the first load of the file gave that succeeded since the
loader was cleared, or reads the file, which lies below the directory; a load that fails leaves nothing.
Over a history of loads this is carried from each load to the next one, whether the load was asked for by
itself or with all others.
-/

set_option autoImplicit false

namespace LineTemplate

namespace Loader

/-- A template that was read from a file: the file lies below the directory and is named as a template. -/
structure Reads (files : FileTree) (base : Path) (filename : Text) (file : TemplateFile) : Prop where
  stays : Path.leaves (Path.relative base (Path.resolve base filename)) = false
  named : isTemplateName filename = true
  source : files.read (Path.resolve base filename) = .ok file.source
  file_name : file.name = Path.fileStem filename
  file_filename : file.filename = filename

theorem Reads.below {files : FileTree} {base : Path} {filename : Text} {file : TemplateFile}
    (h : Reads files base filename file) (proper : Path.Proper (Path.resolve base filename)) :
    Path.Below base (Path.resolve base filename) := by
  by_cases below : Path.Below base (Path.resolve base filename)
  · exact below
  · exact absurd h.stays (by rw [(Path.leaves_relative_iff proper).2 below]; decide)

theorem message_ne_outside {base : Path} {filename message : Text} (path : Text)
    (other : message[9]? ≠ some 0x70) :
    ErrorReport.templateLoad path (some message) ≠ outside base filename := by
  intro same
  have messages : message = ("Template path leaves the template directory: " : Text) ++ filename :=
    congrArg ErrorReport.message same
  rw [messages, List.getElem?_append_left (by decide)] at other
  exact other (by decide)

theorem read_of_leaves (files : FileTree) {base : Path} {filename : Text}
    (leads : Path.leaves (Path.relative base (Path.resolve base filename)) = true) :
    read files base filename = .error (outside base filename) := by
  unfold read
  exact if_pos leads

theorem read_of_below (files : FileTree) {base : Path} {filename : Text}
    (below : Path.leaves (Path.relative base (Path.resolve base filename)) = false) :
    (∃ file, read files base filename = .ok file ∧ Reads files base filename file) ∨
      ∃ e, read files base filename = .error e ∧ e ≠ outside base filename := by
  unfold read
  dsimp only
  rw [below, if_neg Bool.false_ne_true]
  by_cases missing : files.contains (Path.resolve base filename) = false
  · refine .inr ⟨_, if_pos (by rw [missing]; rfl), message_ne_outside _ ?_⟩
    rw [List.getElem?_append_left (by decide)]
    decide
  · rw [Bool.not_eq_false] at missing
    rw [missing, if_neg (by decide)]
    by_cases named : isTemplateName filename = true
    · rw [named, if_neg (by decide)]
      cases found : files.read (Path.resolve base filename) with
      | ok source => exact .inl ⟨_, rfl, below, named, found, rfl, rfl⟩
      | error fault =>
        refine .inr ⟨_, rfl, fun same => ?_⟩
        have names := congrArg ErrorReport.name same
        revert names
        change ¬("Error" : Text) = ("TemplateLoadError" : Text)
        decide
    · refine .inr ⟨_, if_pos (by simpa using named), message_ne_outside _ ?_⟩
      rw [List.append_assoc, List.append_assoc, List.getElem?_append_left (by decide)]
      decide

theorem reads_of_read {files : FileTree} {base : Path} {filename : Text} {file : TemplateFile}
    (h : read files base filename = .ok file) : Reads files base filename file := by
  cases leads : Path.leaves (Path.relative base (Path.resolve base filename)) with
  | true => cases (read_of_leaves files leads).symm.trans h
  | false =>
    rcases read_of_below files leads with ⟨file', same, reads⟩ | ⟨e, same, -⟩
    · cases same.symm.trans h
      exact reads
    · cases same.symm.trans h

theorem load_of_get? {l : Loader} {filename : Text} {file : TemplateFile}
    (kept : l.cache.get? filename = some file) (files : FileTree) :
    l.load files filename = (.ok file, l) := by
  unfold load
  rw [kept]

theorem load_of_read {l : Loader} {filename : Text} (new : l.cache.get? filename = none)
    {files : FileTree} {file : TemplateFile} (found : read files l.base filename = .ok file) :
    l.load files filename = (.ok file, { l with cache := l.cache.set filename file }) := by
  unfold load
  rw [new]
  dsimp only
  rw [found]

theorem load_of_read_error {l : Loader} {filename : Text} (new : l.cache.get? filename = none)
    {files : FileTree} {e : ErrorReport} (failed : read files l.base filename = .error e) :
    l.load files filename = (.error e, l) := by
  unfold load
  rw [new]
  dsimp only
  rw [failed]

theorem load_error {l : Loader} {files : FileTree} {filename : Text} {e : ErrorReport}
    (failed : (l.load files filename).1 = .error e) : (l.load files filename).2 = l := by
  cases kept : l.cache.get? filename with
  | some file => rw [load_of_get? kept]
  | none =>
    cases found : read files l.base filename with
    | error e => rw [load_of_read_error kept found]
    | ok file =>
      rw [load_of_read kept found] at failed
      cases failed

theorem get?_of_load {l : Loader} {files : FileTree} {filename : Text} {file : TemplateFile}
    (loaded : (l.load files filename).1 = .ok file) :
    (l.load files filename).2.cache.get? filename = some file := by
  cases kept : l.cache.get? filename with
  | some file' =>
    rw [load_of_get? kept] at loaded ⊢
    cases loaded
    exact kept
  | none =>
    cases found : read files l.base filename with
    | error e =>
      rw [load_of_read_error kept found] at loaded
      cases loaded
    | ok file' =>
      rw [load_of_read kept found] at loaded ⊢
      cases loaded
      exact Members.get?_set_self _ _ _

end Loader

theorem firstLoaded_append (made : List LoadCall) (c : LoadCall) (filename : Text) :
    firstLoaded (made ++ [c]) filename = (firstLoaded made filename).or
      (if c.filename = filename ∧ c.outcome.isOk = true then some c else none) := by
  unfold firstLoaded
  rw [List.find?_append, List.find?_singleton]
  simp only [Bool.and_eq_true, decide_eq_true_eq]

/-- A loader keeps what the first successful one of some loads of each file has read. -/
structure Keeps (base : Path) (made : List LoadCall) (l : Loader) : Prop where
  base_eq : l.base = base
  cache : ∀ filename,
    l.cache.get? filename = (firstLoaded made filename).bind fun c => c.outcome.toOption
  first : ∀ filename c, firstLoaded made filename = some c →
    ∃ file, c.outcome = .ok file ∧ Loader.read c.files base filename = .ok file

namespace Keeps

variable {base : Path} {made : List LoadCall} {l : Loader}

theorem get?_eq_some (h : Keeps base made l) {filename : Text} {file : TemplateFile}
    (kept : l.cache.get? filename = some file) :
    ∃ c, firstLoaded made filename = some c ∧ c.outcome = .ok file ∧
      Loader.read c.files base filename = .ok file := by
  rw [h.cache] at kept
  obtain ⟨c, first, same⟩ := Option.bind_eq_some_iff.1 kept
  obtain ⟨file', outcome, read⟩ := h.first filename c first
  rw [outcome] at same
  cases same
  exact ⟨c, first, outcome, read⟩

theorem firstLoaded_eq_none (h : Keeps base made l) {filename : Text}
    (new : l.cache.get? filename = none) : firstLoaded made filename = none := by
  cases first : firstLoaded made filename with
  | none => rfl
  | some c =>
    obtain ⟨file, outcome, -⟩ := h.first filename c first
    rw [h.cache, first, Option.bind_some, outcome] at new
    cases new

theorem append_of_failed (h : Keeps base made l) (c : LoadCall) (failed : c.outcome.isOk = false) :
    Keeps base (made ++ [c]) l := by
  have same (filename : Text) : firstLoaded (made ++ [c]) filename = firstLoaded made filename := by
    rw [firstLoaded_append]
    simp [failed]
  refine ⟨h.base_eq, fun filename => ?_, fun filename c' first => ?_⟩
  · rw [same]
    exact h.cache filename
  · rw [same] at first
    exact h.first filename c' first

theorem append_of_known (h : Keeps base made l) (c first : LoadCall)
    (known : firstLoaded made c.filename = some first) : Keeps base (made ++ [c]) l := by
  have same (filename : Text) : firstLoaded (made ++ [c]) filename = firstLoaded made filename := by
    rw [firstLoaded_append]
    by_cases this_one : c.filename = filename
    · rw [← this_one, known]
      rfl
    · simp [this_one]
  refine ⟨h.base_eq, fun filename => ?_, fun filename c' first => ?_⟩
  · rw [same]
    exact h.cache filename
  · rw [same] at first
    exact h.first filename c' first

/-- One load more: what is kept now is what the first successful loads have read, this one included. -/
theorem load (h : Keeps base made l) (files : FileTree) (filename : Text) :
    Keeps base (made ++ [⟨filename, files, (l.load files filename).1⟩]) (l.load files filename).2 := by
  cases kept : l.cache.get? filename with
  | some file =>
    obtain ⟨first, known, -⟩ := h.get?_eq_some kept
    rw [Loader.load_of_get? kept]
    exact h.append_of_known _ first known
  | none =>
    have new := h.firstLoaded_eq_none kept
    cases found : Loader.read files l.base filename with
    | error e =>
      rw [Loader.load_of_read_error kept found]
      exact h.append_of_failed _ rfl
    | ok file =>
      rw [Loader.load_of_read kept found]
      rw [h.base_eq] at found
      refine ⟨h.base_eq, fun other => ?_, fun other c' first => ?_⟩
      · rw [firstLoaded_append]
        by_cases this_one : filename = other
        · subst this_one
          rw [Members.get?_set_self, new]
          simp [Except.isOk, Except.toBool, Except.toOption]
        · rw [Members.get?_set_of_ne _ _ _ _ (Ne.symm this_one), h.cache other]
          simp [this_one]
      · rw [firstLoaded_append] at first
        by_cases this_one : filename = other
        · subst this_one
          rw [new] at first
          obtain rfl : _ = c' := by simpa [Except.isOk, Except.toBool] using first
          exact ⟨file, rfl, found⟩
        · rw [if_neg fun both => this_one both.1, Option.or_none] at first
          exact h.first other c' first

theorem exists_of_callsOfEach (h : Keeps base made l) (files : FileTree) {filenames : List Text}
    {before after : List LoadCall} {c : LoadCall}
    (calls : Loader.callsOfEach files l filenames = before ++ c :: after) :
    ∃ l', Keeps base (made ++ before) l' ∧ c.outcome = (l'.load c.files c.filename).1 := by
  induction filenames generalizing made l before with
  | nil => simp [Loader.callsOfEach] at calls
  | cons filename rest ih =>
    have next := h.load files filename
    unfold Loader.callsOfEach at calls
    cases loaded : l.load files filename with
    | mk outcome l₁ =>
      rw [loaded] at calls next
      cases before with
      | nil =>
        refine ⟨l, by rwa [List.append_nil], ?_⟩
        cases outcome with
        | error e =>
          obtain ⟨rfl, -⟩ := List.cons.inj calls
          rw [loaded]
        | ok file =>
          obtain ⟨rfl, -⟩ := List.cons.inj calls
          rw [loaded]
      | cons first before =>
        cases outcome with
        | error e => simp at calls
        | ok file =>
          obtain ⟨rfl, later⟩ := List.cons.inj calls
          obtain ⟨l', keeps, same⟩ := ih next later
          exact ⟨l', by rwa [List.append_assoc] at keeps, same⟩

theorem loadEach (h : Keeps base made l) (files : FileTree) (filenames : List Text)
    (sofar : Members Text) :
    Keeps base (made ++ Loader.callsOfEach files l filenames)
      (Loader.loadEach files l sofar filenames).2 := by
  induction filenames generalizing made l sofar with
  | nil => simpa [Loader.callsOfEach, Loader.loadEach] using h
  | cons filename rest ih =>
    have next := h.load files filename
    unfold Loader.callsOfEach Loader.loadEach
    cases loaded : l.load files filename with
    | mk outcome l₁ =>
      rw [loaded] at next
      cases outcome with
      | error e => exact next
      | ok file =>
        rw [List.append_cons]
        exact ih next _

theorem loadAll (h : Keeps base made l) (files : FileTree) :
    Keeps base (made ++ l.callsOfAll files) (l.loadAll files).2 := by
  unfold Loader.callsOfAll Loader.loadAll
  cases Loader.list files l.base with
  | error e => rwa [List.append_nil]
  | ok filenames => exact h.loadEach files filenames []

theorem clear (h : Keeps base made l) : Keeps base [] l.clear :=
  ⟨h.base_eq, fun _ => rfl, fun _ _ first => by cases first⟩

theorem performAll {s : LoaderState} (h : Keeps base made s.loader) (steps : List LoaderStep) :
    Keeps base (s.callsSince made steps) (s.performAll steps).loader := by
  induction steps generalizing made s with
  | nil => exact h
  | cons step rest ih =>
    cases step with
    | load filename => exact ih (s := s.perform (.load filename)) (h.load s.files filename)
    | loadAll => exact ih (s := s.perform .loadAll) (h.loadAll s.files)
    | clear => exact ih (s := s.perform .clear) h.clear
    | change files =>
      refine ih (s := s.perform (.change files)) ?_
      rw [LoaderState.calls, List.append_nil]
      exact h

theorem exists_of_calls {s : LoaderState} (h : Keeps base made s.loader) {step : LoaderStep}
    {before after : List LoadCall} {c : LoadCall} (calls : s.calls step = before ++ c :: after) :
    ∃ l', Keeps base (made ++ before) l' ∧ c.outcome = (l'.load c.files c.filename).1 := by
  cases step with
  | load filename =>
    rcases List.append_eq_singleton_iff.1 calls.symm with ⟨rfl, only⟩ | ⟨-, none⟩
    · obtain ⟨rfl, -⟩ := List.cons.inj only
      exact ⟨s.loader, by rwa [List.append_nil], rfl⟩
    · cases none
  | loadAll =>
    change s.loader.callsOfAll s.files = _ at calls
    unfold Loader.callsOfAll at calls
    split at calls
    · simp at calls
    · exact h.exists_of_callsOfEach s.files calls
  | clear => simp [LoaderState.calls] at calls
  | change files => simp [LoaderState.calls] at calls

theorem exists_first (h : Keeps base made l) {files : FileTree} {filename : Text} {file : TemplateFile}
    (loaded : (l.load files filename).1 = .ok file) :
    ∃ first, firstLoaded (made ++ [⟨filename, files, .ok file⟩]) filename = some first ∧
      Loader.Reads first.files base filename file := by
  have next := h.load files filename
  rw [loaded] at next
  obtain ⟨first, known, -, read⟩ := next.get?_eq_some (Loader.get?_of_load loaded)
  exact ⟨first, known, Loader.reads_of_read read⟩

theorem exists_load_ok_iff (h : Keeps base made l) (files : FileTree) (filename : Text) :
    (∃ file, (l.load files filename).1 = .ok file) ↔
      (∃ first, firstLoaded made filename = some first) ∨
        ∃ file, Loader.read files base filename = .ok file := by
  cases kept : l.cache.get? filename with
  | some file =>
    obtain ⟨first, known, -⟩ := h.get?_eq_some kept
    rw [Loader.load_of_get? kept]
    exact iff_of_true ⟨file, rfl⟩ (.inl ⟨first, known⟩)
  | none =>
    rw [h.firstLoaded_eq_none kept, ← h.base_eq]
    cases found : Loader.read files l.base filename with
    | error e => simp [Loader.load_of_read_error kept found]
    | ok file => simp [Loader.load_of_read kept found]

end Keeps

theorem keeps_of_openDirectory {files : FileTree} {base : Path} {l : Loader}
    (opened : Loader.openDirectory files base = .ok l) : Keeps base [] l := by
  unfold Loader.openDirectory at opened
  split at opened
  · cases opened
    exact ⟨rfl, fun _ => rfl, fun _ _ first => by cases first⟩
  · cases opened

def workingPath (here directory : Text) : Path := Path.resolve (Path.resolve [] here) directory

theorem proper_workingPath (here directory : Text) : Path.Proper (workingPath here directory) :=
  (Path.proper_nil.resolve here).resolve directory

/-- After any history, a load that succeeds, by itself or among all others, gives the file under its name
with the content that it had when it was first loaded since the loader was cleared. A load that fails leaves
nothing, and whether one succeeds does not depend on those that failed. What is kept lies below the
directory and is named as a template. -/
theorem load_recalls_first (here directory : Text) {files : FileTree} {l : Loader}
    (opened : Loader.openDirectory files (workingPath here directory) = .ok l)
    (steps : List LoaderStep) :
    let base := workingPath here directory
    let s := LoaderState.performAll ⟨l, files⟩ steps
    let made := LoaderState.callsSince [] ⟨l, files⟩ steps
    (∀ step before c after file, s.calls step = before ++ c :: after → c.outcome = .ok file →
      file.filename = c.filename ∧ file.name = Path.fileStem c.filename ∧
      ∃ first, firstLoaded (made ++ before ++ [c]) c.filename = some first ∧
        first.files.read (Path.resolve base c.filename) = .ok file.source) ∧
    (∀ filename e, (s.loader.load s.files filename).1 = .error e →
      (s.loader.load s.files filename).2 = s.loader) ∧
    (∀ filename, (∃ file, (s.loader.load s.files filename).1 = .ok file) ↔
      (∃ first, firstLoaded made filename = some first) ∨
        ∃ file, Loader.read s.files base filename = .ok file) ∧
    ∀ filename file, s.loader.cache.get? filename = some file →
      Path.Below base (Path.resolve base filename) ∧
        (Path.fileExtension filename).toLower ∈ Loader.extensions := by
  intro base s made
  have keeps : Keeps base made s.loader :=
    (keeps_of_openDirectory opened).performAll (s := ⟨l, files⟩) steps
  refine ⟨?_, fun filename e => Loader.load_error, keeps.exists_load_ok_iff s.files, ?_⟩
  -- a call within a step is made to a loader that keeps what the calls before it have loaded
  · intro step before c after file calls outcome
    obtain ⟨l', found, same⟩ := keeps.exists_of_calls calls
    obtain ⟨first, known, reads⟩ := found.exists_first (same.symm.trans outcome)
    have this_call : (⟨c.filename, c.files, .ok file⟩ : LoadCall) = c := by rw [← outcome]
    rw [this_call] at known
    exact ⟨reads.file_filename, reads.file_name, first, known, reads.source⟩
  · intro filename file kept
    obtain ⟨c, -, -, read⟩ := keeps.get?_eq_some kept
    have reads := Loader.reads_of_read read
    exact ⟨reads.below ((proper_workingPath here directory).resolve filename),
      List.contains_iff_mem.1 reads.named⟩

/-- A file that was loaded with all others, then changed, then removed, is given as it was at first. -/
theorem load_recalls_first_removed :
    let files : FileTree := [(["a"], .directory), (["a", "x.tpl"], .file "old")]
    let l : Loader := ⟨["a"], []⟩
    let steps : List LoaderStep :=
      [.load "y.tpl", .loadAll, .change [(["a", "x.tpl"], .file "new")], .change []]
    let s := LoaderState.performAll ⟨l, files⟩ steps
    let file : TemplateFile := ⟨"x", "x.tpl", "old"⟩
    Loader.openDirectory files (workingPath "/" "a") = .ok l ∧
      (s.loader.load [] "x.tpl").1 = .ok file ∧
      ∃ first, firstLoaded (LoaderState.callsSince [] ⟨l, files⟩ steps ++
          [⟨"x.tpl", [], .ok file⟩]) "x.tpl" = some first ∧
        first.files.read (Path.resolve ["a"] "x.tpl") = .ok file.source := by
  intro files l steps s file
  have opened : Loader.openDirectory files (workingPath "/" "a") = .ok l := rfl
  have loaded : (s.loader.load [] "x.tpl").1 = .ok file := by
    have given : (s.loader.load [] "x.tpl").1.toOption = some file := by decide +kernel
    cases outcome : (s.loader.load [] "x.tpl").1 with
    | error e =>
      rw [outcome] at given
      cases given
    | ok other =>
      rw [outcome] at given
      cases given
      rfl
  have call : s.calls (.load "x.tpl") = [⟨"x.tpl", [], .ok file⟩] := by
    rw [← loaded]
    rfl
  obtain ⟨recalled, -⟩ := load_recalls_first "/" "a" opened steps
  obtain ⟨-, -, first⟩ := recalled (.load "x.tpl") [] _ [] file call rfl
  rw [List.append_nil] at first
  exact ⟨opened, loaded, first⟩

end LineTemplate
