import Mathlib.Algebra.Ring.Nat
import Mathlib.Data.List.Forall2
import LineTemplate.Log.Logger
import LineTemplate.Proofs.Evaluation.Stack
import LineTemplate.Proofs.Evaluation.Steps
import LineTemplate.Proofs.Template.ScriptLines

/-!
Entries as lines. What a line adds to the message of its entry holds no control: the time, the level and the
run are written in digits and letters, and the context is written as JSON, which escapes controls. The message
alone is copied as it is. So a line of the log breaks exactly where the message of its entry does, and a log
file has one line for each entry exactly if no message holds a newline.
-/

set_option autoImplicit false

namespace LineTemplate

namespace Text

/-- A text without units below the blank. -/
def Printed (t : Text) : Prop := ∀ c ∈ t, (0x20 : CodeUnit) ≤ c

instance : DecidablePred Printed := fun t => inferInstanceAs (Decidable (∀ c ∈ t, (0x20 : CodeUnit) ≤ c))

variable {t u : Text}

theorem printed_append : (t ++ u).Printed ↔ t.Printed ∧ u.Printed := List.forall_mem_append

theorem Printed.append (first : t.Printed) (second : u.Printed) : (t ++ u).Printed :=
  printed_append.2 ⟨first, second⟩

theorem Printed.of_subset (whole : u.Printed) (part : t ⊆ u) : t.Printed :=
  fun c inside => whole c (part inside)

theorem printed_replicate (n : Nat) {c : CodeUnit} (high : 0x20 ≤ c) : Printed (List.replicate n c) :=
  fun _ inside => List.eq_of_mem_replicate inside ▸ high

theorem printed_ofNat (n : Nat) : (ofNat n).Printed := by
  intro c inside
  have digit := isDigit_of_mem_ofNat inside
  simp only [CodeUnit.isDigit, Bool.and_eq_true, decide_eq_true_eq] at digit
  exact UInt16.le_trans (by decide) digit.1

theorem printed_join {sep : Text} {pieces : List Text} (between : sep.Printed)
    (all : ∀ piece ∈ pieces, piece.Printed) : (join sep pieces).Printed := by
  intro c inside
  rcases mem_join sep pieces c inside with apart | ⟨piece, member, inside⟩
  · exact between c apart
  · exact all piece member c inside

theorem printed_quoted (t : Text) : t.quoted.Printed := le_of_mem_quoted t

theorem count_eq_zero_of_printed (whole : t.Printed) {c : CodeUnit} (low : c < 0x20) : t.count c = 0 :=
  List.count_eq_zero.2 fun inside => UInt16.not_lt.2 (whole c inside) low

end Text

open Text (Printed)

namespace Instant

theorem printed_padded (width n : Nat) : (padded width n).Printed :=
  (Text.printed_replicate _ (by decide)).append (Text.printed_ofNat n)

theorem printed_yearText (year : Int) : (yearText year).Printed := by
  unfold yearText
  split
  · exact printed_padded 4 _
  · refine Printed.append ?_ (printed_padded 6 _)
    split <;> decide

theorem printed_text (t : Instant) : t.text.Printed := by
  unfold text
  simp only [Text.printed_append, printed_yearText, printed_padded, true_and, and_true]
  decide

end Instant

namespace Number

theorem printed_place {digits : Text} (whole : digits.Printed) (before : Int) :
    (layout.place digits before).Printed := by
  have zeros (n : Nat) : Printed (List.replicate n (CodeUnit.ofChar '0')) :=
    Text.printed_replicate n (by decide)
  have taken (n : Nat) : Printed (digits.take n) := whole.of_subset (List.take_subset n digits)
  have dropped (n : Nat) : Printed (digits.drop n) := whole.of_subset (List.drop_subset n digits)
  unfold Layout.place
  dsimp only
  split
  · exact whole.append (zeros _)
  split
  · exact ((taken _).append (by decide)).append (dropped _)
  split
  · exact (((zeros _).append (by decide)).append (zeros _)).append whole
  · refine Printed.append (Printed.append (((taken 1).append ?_).append (by decide)) ?_)
      (Text.printed_ofNat _)
    · split
      · decide
      · exact Printed.append (by decide) (dropped 1)
    · split
      · decide
      · decide

theorem printed_text (x : Float) : (text x).Printed := by
  unfold text Layout.write
  dsimp only
  have sign : Printed (if isNegative x = true then layout.minusSign else []) := by
    split <;> decide
  split
  · decide
  split
  · decide
  split
  · exact sign.append (by decide)
  · exact sign.append (printed_place (Text.printed_ofNat _) _)

end Number

namespace Json

theorem printed_bracketed {opening closing : Text} (first : opening.Printed) (last : closing.Printed)
    {parts : List Text} (all : ∀ part ∈ parts, part.Printed) :
    (bracketed opening closing none parts).Printed := by
  unfold bracketed
  split
  · exact first.append last
  · exact (first.append (Text.printed_join (by decide) all)).append last

mutual

theorem printed_write (j : Json) : (j.write none).Printed := by
  cases j with
  | null => exact (by decide : Printed "null")
  | bool b =>
    cases b with
    | true => exact (by decide : Printed "true")
    | false => exact (by decide : Printed "false")
  | number x =>
    rw [write, numberText]
    split
    · exact Number.printed_text x
    · decide
  | text t => exact Text.printed_quoted t
  | array items => exact printed_bracketed (by decide) (by decide) (printed_of_mem_writeItems items)
  | object members => exact printed_bracketed (by decide) (by decide) (printed_of_mem_writeMembers members)

theorem printed_of_mem_writeItems (items : List Json) : ∀ part ∈ writeItems none items, part.Printed := by
  cases items with
  | nil => exact fun _ inside => absurd inside List.not_mem_nil
  | cons item rest =>
    exact List.forall_mem_cons.2 ⟨printed_write item, printed_of_mem_writeItems rest⟩

theorem printed_of_mem_writeMembers (members : List (Text × Json)) :
    ∀ part ∈ writeMembers none members, part.Printed := by
  cases members with
  | nil => exact fun _ inside => absurd inside List.not_mem_nil
  | cons m rest =>
    obtain ⟨key, value⟩ := m
    exact List.forall_mem_cons.2 ⟨((Text.printed_quoted key).append (by decide)).append (printed_write value),
      printed_of_mem_writeMembers rest⟩

end

end Json

namespace RunId

theorem printed_byteText (b : UInt8) : (byteText b).Printed := by
  have small : b.toNat < 256 := b.toNat_lt
  refine List.forall_mem_cons.2 ⟨(Text.plain_hexDigit _ (by omega)).1, ?_⟩
  exact List.forall_mem_singleton.2 (Text.plain_hexDigit _ (by omega)).1

theorem printed_of_make {start : Option Instant} {bytes : List UInt8} {name : Text}
    (made : make start bytes = .ok name) : name.Printed := by
  unfold make at made
  split at made
  · cases made
  · rename_i time
    have date : Printed ((time.text.take 10).filter fun c => c != CodeUnit.ofChar '-') :=
      fun c inside => Instant.printed_text time c (List.mem_of_mem_take (List.mem_of_mem_filter inside))
    have dash : Printed "-" := by decide
    rw [← Except.ok.inj made]
    refine (date.append dash).append fun c inside => ?_
    obtain ⟨b, -, digit⟩ := List.mem_flatMap.1 inside
    exact printed_byteText b c digit

end RunId

namespace LogEntry

/-- An entry with a valid time, the name of a run as runs are named or none, and a context that is there and
can be written as JSON. -/
structure Ordinary (e : LogEntry) : Prop where
  time : e.time.isSome = true
  run : ∀ name ∈ e.run, ∃ start bytes, RunId.make start bytes = .ok name
  context_ne_undefined : e.context ≠ .undefined
  context_ne_null : e.context ≠ .null
  serializable : ∃ j, e.context.toJson = .ok j

variable {e : LogEntry}

theorem exists_contextText {context : Datum} (defined : context ≠ .undefined) (some : context ≠ .null)
    (serializable : ∃ j, context.toJson = .ok j) :
    ∃ t, contextText context = .ok t ∧ t.Printed := by
  obtain ⟨j, json⟩ := serializable
  unfold contextText
  split
  · exact absurd rfl defined
  · exact absurd rfl some
  · split
    · exact ⟨[], rfl, by decide⟩
    · rw [json]
      cases j with
      | none => exact ⟨_, rfl, by decide⟩
      | some j => exact ⟨_, rfl, Printed.append (by decide) (Json.printed_write j)⟩

theorem Ordinary.exists_line (h : e.Ordinary) :
    ∃ before after, e.line = .ok (before ++ e.message ++ after) ∧ before.Printed ∧ after.Printed := by
  obtain ⟨time, valid⟩ := Option.isSome_iff_exists.1 h.time
  obtain ⟨after, context, printed⟩ :=
    exists_contextText h.context_ne_undefined h.context_ne_null h.serializable
  have level : Printed (Text.padEnd e.level.name.toUpper 5 ' ') := by
    cases e.level <;> decide +kernel
  have run : Printed (e.run.getD "no-run-id") := by
    cases named : e.run with
    | none => exact (by decide : Printed "no-run-id")
    | some name =>
      obtain ⟨start, bytes, made⟩ := h.run name named
      exact RunId.printed_of_make made
  have field {t : Text} (inside : t.Printed) : Printed (("[" : Text) ++ t ++ ("] " : Text)) :=
    (Printed.append (by decide) inside).append (by decide)
  have before := ((field (Instant.printed_text time)).append (field level)).append (field run)
  refine ⟨_, after, ?_, before, printed⟩
  unfold line
  rw [valid, context]
  rfl

theorem Ordinary.count_line (h : e.Ordinary) :
    ∃ content, e.line = .ok content ∧
      ∀ c : CodeUnit, c < 0x20 → content.count c = e.message.count c := by
  obtain ⟨before, after, line, first, last⟩ := h.exists_line
  refine ⟨_, line, fun c low => ?_⟩
  rw [List.count_append, List.count_append, Text.count_eq_zero_of_printed first low,
    Text.count_eq_zero_of_printed last low, Nat.zero_add, Nat.add_zero]

end LogEntry

namespace Text

/-- Lines that each end with a newline. -/
def closed (lines : List Text) : Text := lines.flatMap fun line => line ++ [newline]

theorem splitOn_closed {lines : List Text} (free : ∀ line ∈ lines, newline ∉ line) :
    splitOn newline (closed lines) = lines ++ [[]] := by
  induction lines with
  | nil => rfl
  | cons line rest ih =>
    obtain ⟨here, later⟩ := List.forall_mem_cons.1 free
    rw [closed, List.flatMap_cons, List.append_assoc, List.singleton_append, splitOn_append_cons,
      splitOn_of_notMem newline line here]
    exact congrArg (line :: ·) (ih later)

theorem splitOn_closed_iff (lines : List Text) :
    splitOn newline (closed lines) = lines ++ [[]] ↔ ∀ line ∈ lines, newline ∉ line := by
  refine ⟨fun apart line inside => ?_, splitOn_closed⟩
  refine notMem_of_mem_splitOn newline (closed lines) line ?_
  rw [apart]
  exact List.mem_append_left _ inside

end Text

namespace FileTree

/-- Text can be added at a path: a file is there, or there is none and its directory is there. -/
def Appendable (files : FileTree) (p : Path) : Prop :=
  (∃ content, files.find? p = some (.file content)) ∨
    files.find? p = none ∧ files.find? p.dropLast = some .directory

def present (files : FileTree) (p : Path) : Text := (files.read p).toOption.getD []

variable {files : FileTree} {p : Path}

theorem find?_set_self (files : FileTree) {p : Path} (some : p ≠ []) (node : FileNode) :
    (files.set p node).find? p = Option.some node := by
  have inner : p.isEmpty = false := List.isEmpty_eq_false_iff.2 some
  unfold find? set
  rw [inner, if_neg Bool.false_ne_true]
  induction files with
  | nil => simp [replace]
  | cons entry rest ih =>
    obtain ⟨q, old⟩ := entry
    rw [replace]
    split
    · exact List.lookup_cons_self
    · rename_i other
      rw [List.lookup_cons, beq_eq_false_iff_ne.2 (Ne.symm other)]
      exact ih

theorem Appendable.ne_nil (h : files.Appendable p) : p ≠ [] := by
  rintro rfl
  rcases h with ⟨content, file⟩ | ⟨missing, -⟩
  · cases file
  · cases missing

theorem Appendable.exists_append (h : files.Appendable p) (content : Text) :
    ∃ files', files.append p content = .ok files' ∧
      files'.find? p = some (.file (files.present p ++ content)) := by
  unfold append present read
  rcases h.imp_left id with ⟨old, file⟩ | ⟨missing, directory⟩
  · rw [file]
    exact ⟨_, rfl, find?_set_self files h.ne_nil _⟩
  · rw [missing, directory]
    exact ⟨_, rfl, find?_set_self files h.ne_nil _⟩

end FileTree

namespace LogSink

variable {written : Text} {s : LogState}

theorem exists_write_file {e : LogEntry} {content : Text} (line : e.line = .ok content)
    (appendable : s.files.Appendable (Path.resolve s.directory written)) :
    ∃ s', file written e s = .ok e s' ∧ s'.directory = s.directory ∧
      s'.files.find? (Path.resolve s.directory written) =
        some (.file (s.files.present (Path.resolve s.directory written) ++ (content ++ [newline]))) := by
  obtain ⟨files, appended, found⟩ := appendable.exists_append (content ++ [newline])
  refine ⟨{ s with files := files }, ?_, rfl, found⟩
  have added : appendLine written e s = .ok (.ok ()) { s with files := files } := by
    have current : (get : Logging LogState) s = .ok s s := rfl
    unfold appendLine
    rw [bind_ok current, line]
    dsimp only
    rw [show ("\n" : Text) = [newline] from rfl, appended]
    rfl
  unfold file
  rw [bind_ok added]
  rfl

def writeLines (written : Text) (entries : List LogEntry) : Logging Unit :=
  entries.forM fun e => discard (file written e)

theorem exists_writeLines {entries : List LogEntry} {lines : List Text}
    (each : List.Forall₂ (fun e content => LogEntry.line e = .ok content) entries lines)
    (appendable : s.files.Appendable (Path.resolve s.directory written)) :
    ∃ s', writeLines written entries s = .ok () s' ∧
      s'.files.present (Path.resolve s.directory written) =
        s.files.present (Path.resolve s.directory written) ++ Text.closed lines := by
  induction each generalizing s with
  | nil => exact ⟨s, rfl, (List.append_nil _).symm⟩
  | @cons e content entries lines line _ ih =>
    obtain ⟨t, first, directory, found⟩ := exists_write_file line appendable
    rw [← directory] at found
    obtain ⟨s', others, present⟩ := ih (s := t) (.inl ⟨_, found⟩)
    refine ⟨s', ?_, ?_⟩
    · have own : (discard (file written e) : Logging Unit) s = .ok () t := bind_ok first
      change (discard (file written e) >>= fun _ => writeLines written entries) s = _
      rw [bind_ok own, others]
    · rw [directory] at present found
      rw [present, FileTree.present, FileTree.read, found]
      exact List.append_assoc _ _ _

end LogSink

namespace LogEntry

/-- What the line of an entry is: a text that breaks where the message does, at newlines and at CRs. -/
structure IsLine (e : LogEntry) (content : Text) : Prop where
  line : e.line = .ok content
  newlines : content.count newline = e.message.count newline
  returns : content.count 0x0D = e.message.count 0x0D

theorem Ordinary.exists_isLine {e : LogEntry} (h : e.Ordinary) : ∃ content, e.IsLine content := by
  obtain ⟨content, line, count⟩ := h.count_line
  exact ⟨content, line, count _ (by decide), count _ (by decide)⟩

theorem exists_isLines {entries : List LogEntry} (ordinary : ∀ e ∈ entries, e.Ordinary) :
    ∃ lines, List.Forall₂ IsLine entries lines := by
  induction entries with
  | nil => exact ⟨[], .nil⟩
  | cons e rest ih =>
    obtain ⟨here, later⟩ := List.forall_mem_cons.1 ordinary
    obtain ⟨content, is_line⟩ := here.exists_isLine
    obtain ⟨lines, each⟩ := ih later
    exact ⟨content :: lines, .cons is_line each⟩

variable {entries : List LogEntry} {lines : List Text}

theorem count_closed (each : List.Forall₂ IsLine entries lines) :
    (Text.closed lines).count newline = (entries.map fun e => e.message.count newline + 1).sum := by
  induction each with
  | nil => rfl
  | @cons e content entries lines is_line _ ih =>
    rw [Text.closed, List.flatMap_cons, List.count_append, List.count_append, is_line.newlines,
      List.count_singleton_self, List.map_cons, List.sum_cons, ← ih]
    rfl

theorem newline_notMem_lines_iff (each : List.Forall₂ IsLine entries lines) :
    (∀ content ∈ lines, newline ∉ content) ↔ ∀ e ∈ entries, newline ∉ e.message := by
  induction each with
  | nil => simp
  | @cons e content entries lines is_line _ ih =>
    rw [List.forall_mem_cons, List.forall_mem_cons, ih, ← List.count_eq_zero, ← List.count_eq_zero,
      is_line.newlines]

end LogEntry

/-- Ordinary entries have lines, and each of these breaks just where its message does. A log file gets the
lines of the entries in order, each with a newline behind it. What it gets is split at its newlines into one
piece for each entry and one more for each newline in a message, and an empty one at the end; the pieces are
the lines of the entries, one each, exactly if no message holds a newline. -/
theorem logFile_splits_iff (written : Text) {entries : List LogEntry}
    (ordinary : ∀ e ∈ entries, e.Ordinary) {s : LogState}
    (appendable : s.files.Appendable (Path.resolve s.directory written)) :
    let path := Path.resolve s.directory written
    ∃ lines s', List.Forall₂ LogEntry.IsLine entries lines ∧
      LogSink.writeLines written entries s = .ok () s' ∧
      s'.files.present path = s.files.present path ++ Text.closed lines ∧
      (Text.splitOn newline (Text.closed lines)).length =
        (entries.map fun e => e.message.count newline + 1).sum + 1 ∧
      (Text.splitOn newline (Text.closed lines) = lines ++ [[]] ↔
        ∀ e ∈ entries, newline ∉ e.message) := by
  intro path
  obtain ⟨lines, each⟩ := LogEntry.exists_isLines ordinary
  obtain ⟨s', done, present⟩ :=
    LogSink.exists_writeLines (each.imp fun _ _ is_line => is_line.line) appendable
  refine ⟨lines, s', each, done, present, ?_, ?_⟩
  · rw [Text.length_splitOn, LogEntry.count_closed each]
  · rw [Text.splitOn_closed_iff, LogEntry.newline_notMem_lines_iff each]

/-- Two entries in a file that holds a line already: one with a run and line breaks in its context. -/
theorem logFile_splits_context :
    let context : Datum := .record [("k\n", .string "a\r\nb")]
    let first : LogEntry := ⟨some 0, .info, some "20240115-a1b2c3", "loaded", context⟩
    let second : LogEntry := ⟨some (-1), .error, none, "", .array [.record []]⟩
    let files : FileTree := [(["a"], .directory), (["a", "x.log"], .file "old\n")]
    let s : LogState := ⟨["a"], none, none, files, [], []⟩
    (∀ e ∈ [first, second], e.Ordinary) ∧ s.files.Appendable (Path.resolve s.directory "x.log") ∧
      ∃ lines s', LogSink.writeLines "x.log" [first, second] s = .ok () s' ∧
        s'.files.present ["a", "x.log"] = ("old\n" : Text) ++ Text.closed lines ∧
        Text.splitOn newline (Text.closed lines) = lines ++ [[]] := by
  intro context first second files s
  have ordinary : ∀ e ∈ [first, second], e.Ordinary := by
    refine List.forall_mem_cons.2 ⟨⟨rfl, ?_, nofun, nofun, _, rfl⟩, List.forall_mem_singleton.2
      ⟨rfl, nofun, nofun, nofun, _, rfl⟩⟩
    rintro name ⟨⟩
    exact ⟨some 1705312800000, [0xA1, 0xB2, 0xC3], by decide +kernel⟩
  have appendable : s.files.Appendable (Path.resolve s.directory "x.log") := .inl ⟨"old\n", rfl⟩
  obtain ⟨lines, s', -, done, present, -, apart⟩ := logFile_splits_iff "x.log" ordinary appendable
  exact ⟨ordinary, appendable, lines, s', done, present, apart.2 (by decide)⟩

/-- The line of an entry whose message holds a newline is two lines in the file. -/
theorem logFile_splits_message :
    let e : LogEntry := ⟨some 0, .info, none, "first\nsecond", .record []⟩
    let s : LogState := ⟨["a"], none, none, [(["a"], .directory)], [], []⟩
    e.Ordinary ∧ e.line = .ok "[1970-01-01T00:00:00.000Z] [INFO ] [no-run-id] first\nsecond" ∧
      ∃ s', LogSink.writeLines "x.log" [e] s = .ok () s' ∧
        Text.splitOn newline (s'.files.present ["a", "x.log"]) =
          List.map Text.ofString ["[1970-01-01T00:00:00.000Z] [INFO ] [no-run-id] first", "second", ""] := by
  intro e s
  have line : e.line = .ok "[1970-01-01T00:00:00.000Z] [INFO ] [no-run-id] first\nsecond" := by
    decide +kernel
  refine ⟨⟨rfl, nofun, nofun, nofun, _, rfl⟩, line, ?_⟩
  have appendable : s.files.Appendable (Path.resolve s.directory "x.log") := .inr ⟨rfl, rfl⟩
  obtain ⟨s', done, present⟩ := LogSink.exists_writeLines (.cons line .nil) appendable
  refine ⟨s', done, ?_⟩
  change s'.files.present ["a", "x.log"] = _ at present
  rw [present]
  decide +kernel

end LineTemplate
