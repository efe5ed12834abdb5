import LineTemplate.Proofs.Evaluation.Returning
import LineTemplate.Proofs.Evaluation.Stack

/-!
Which line a failure is attributed to. The stack of an error lists active functions of several compilations,
and others; each compilation reads the rows that carry its serial number, whatever the other rows are.
-/

set_option autoImplicit false

namespace LineTemplate

open Script

/-- The row of a stack for an active function. -/
inductive StackRow where
  /-- A function with a name, at a place in generated code. -/
  | named (function : Text) (serial line column : Nat)
  /-- A place in generated code alone. -/
  | bare (serial line column : Nat)
  /-- Any other row. -/
  | elsewhere (row : Text)

/-- How a row starts: with white space and a word. -/
def StartsAsRow (t : Text) : Prop :=
  ∃ blanks rest, blanks ≠ [] ∧ (∀ c ∈ blanks, c.isBlank = true) ∧ t = blanks ++ (("at " : Text) ++ rest)

/-- Somewhere in the text a place in generated code is named. -/
def NamesPlace (t : Text) : Prop :=
  ∃ before serial line rest, serial ≠ [] ∧ (∀ c ∈ serial, c.isDigit = true) ∧ line ≠ [] ∧
    (∀ c ∈ line, c.isDigit = true) ∧
    t = before ++ (("[template#" : Text) ++ (serial ++ (("]:" : Text) ++ (line ++ rest))))

namespace StackRow

def place (serial line column : Nat) (rest : Text) : Text :=
  ("[template#" : Text) ++ (Text.ofNat serial ++ (("]:" : Text) ++ (Text.ofNat line ++
    (':' : CodeUnit) :: (Text.ofNat column ++ rest))))

def text : StackRow → Text
  | .named function serial line column =>
    ("    at " : Text) ++ (function ++ ((" (" : Text) ++ place serial line column ")"))
  | .bare serial line column => ("    at " : Text) ++ place serial line column []
  | .elsewhere row => row

/-- What tells the kinds of rows apart: the name of a function holds no start of a place, and the rows
without a place name none. Each is one row. -/
def WellFormed : StackRow → Prop
  | .named function _ _ _ => 0x0A ∉ function ∧ ¬("[template#" : Text) <:+: function
  | .bare _ _ _ => True
  | .elsewhere row => 0x0A ∉ row ∧ StartsAsRow row ∧ ¬NamesPlace row

/-- The serial number and the line that a row is written with. -/
def place? : StackRow → Option (Nat × Nat)
  | .named _ serial line _ | .bare serial line _ => some (serial, line)
  | .elsewhere _ => none

/-- The line that a row names to the compilation with this serial number. What is written is read as the
nearest number, which for numbers below 2^53 is the same. -/
def lineFor (serial : Nat) (row : StackRow) : Option Int :=
  match row.place? with
  | some (own, line) => if Number.nearest own = serial then some (Number.nearest line) else none
  | none => none

theorem lineFor_of_small {row : StackRow} {own line : Nat} (written : row.place? = some (own, line))
    (serial_small : own < 2 * Number.hiddenBit) (line_small : line < 2 * Number.hiddenBit) (serial : Nat) :
    row.lineFor serial = if own = serial then some (line : Int) else none := by
  unfold lineFor
  rw [written]
  dsimp only
  rw [Number.nearest_eq_self own serial_small, Number.nearest_eq_self line line_small]

end StackRow

namespace CodeLine

theorem digits?_eq_some {t rest : Text} {n : Nat} (h : digits? t = some (n, rest)) :
    ∃ ds, ds ≠ [] ∧ (∀ c ∈ ds, c.isDigit = true) ∧ t = ds ++ rest := by
  have whole : t.takeWhile CodeUnit.isDigit ++ t.dropWhile CodeUnit.isDigit = t :=
    List.takeWhile_append_dropWhile
  have digits : ∀ c ∈ t.takeWhile CodeUnit.isDigit, c.isDigit = true :=
    List.all_eq_true.1 List.all_takeWhile
  unfold digits? at h
  generalize t.takeWhile CodeUnit.isDigit = ds at h whole digits
  cases ds with
  | nil => cases h
  | cons d ds =>
    cases h
    refine ⟨d :: ds, List.cons_ne_nil d ds, digits, ?_⟩
    rw [← whole, List.drop_left]

theorem after?_eq_some {lead t rest : Text} (h : Text.after? lead t = some rest) : t = lead ++ rest := by
  unfold Text.after? at h
  split at h
  · rename_i starts
    obtain ⟨last, rfl⟩ := List.isPrefixOf_iff_prefix.1 starts
    cases h
    rw [List.drop_left]
  · cases h

theorem atStart?_eq_some {t : Text} {found : Nat × Nat} (h : atStart? t = some found) : NamesPlace t := by
  unfold atStart? at h
  obtain ⟨behind, opened, h⟩ := Option.bind_eq_some_iff.1 h
  obtain ⟨⟨serial, rest⟩, first, h⟩ := Option.bind_eq_some_iff.1 h
  obtain ⟨behind', closed, h⟩ := Option.bind_eq_some_iff.1 h
  obtain ⟨⟨line, rest'⟩, second, -⟩ := Option.bind_eq_some_iff.1 h
  obtain ⟨ds, some, digits, same⟩ := digits?_eq_some first
  obtain ⟨ds', some', digits', same'⟩ := digits?_eq_some second
  refine ⟨[], ds, ds', rest', some, digits, some', digits', ?_⟩
  rw [List.nil_append, after?_eq_some opened, same, after?_eq_some closed, same']

theorem first?_of_not_namesPlace {t : Text} (free : ¬NamesPlace t) : first? t = none := by
  induction t with
  | nil => rfl
  | cons c rest ih =>
    have start : atStart? (c :: rest) = none := by
      cases found : atStart? (c :: rest) with
      | none => rfl
      | some place => exact absurd (atStart?_eq_some found) free
    rw [first?, start, Option.none_or]
    refine ih fun named => free ?_
    obtain ⟨before, serial, line, last, some, digits, some', digits', rfl⟩ := named
    exact ⟨c :: before, serial, line, last, some, digits, some', digits', rfl⟩

/-- Text that does not hold the start of a place, and is followed by a unit that no such start holds, is
passed over. -/
theorem first?_append_of_clear {lead : Text} (clear : ¬("[template#" : Text) <:+: lead) {c : CodeUnit}
    (foreign : c ∉ ("[template#" : Text)) (rest : Text) :
    first? (lead ++ c :: rest) = first? (c :: rest) := by
  induction lead with
  | nil => rfl
  | cons d lead ih =>
    have off : ¬("[template#" : Text) <+: d :: (lead ++ c :: rest) := by
      rintro ⟨last, same⟩
      have same : ("[template#" : Text) ++ last = (d :: lead) ++ c :: rest := same
      rcases List.append_eq_append_iff.1 same with ⟨inner, inside, -⟩ | ⟨inner, cut, behind⟩
      · exact clear ⟨[], inner, by rw [List.nil_append, ← inside]⟩
      -- A start that reaches beyond the text holds the unit after it.
      · cases inner with
        | nil => exact clear ⟨[], [], by rw [cut, List.append_nil, List.append_nil, List.nil_append]⟩
        | cons e inner =>
          obtain ⟨rfl, -⟩ := List.cons.inj behind
          exact foreign (cut ▸ List.mem_append_right _ List.mem_cons_self)
    rw [List.cons_append, first?, atStart?_of_not_started off, Option.none_or]
    exact ih fun inside => clear (inside.trans (List.suffix_cons d lead).isInfix)

theorem first?_place (serial line column : Nat) (rest : Text) :
    first? (StackRow.place serial line column rest) =
      some (Number.nearest serial, Number.nearest line) :=
  first?_of_atStart? (atStart?_place serial line (by decide) _)

theorem find?_of_first? {t : Text} {own line : Nat} (found : first? t = some (own, line)) (serial : Nat) :
    (find? t serial).map Int.ofNat = if own = serial then some (line : Int) else none := by
  unfold find?
  rw [found]
  dsimp only
  split <;> rfl

theorem find?_text (serial : Nat) {row : StackRow} (formed : row.WellFormed) :
    (find? row.text serial).map Int.ofNat = row.lineFor serial := by
  cases row with
  | named function own line column =>
    refine find?_of_first? ?_ serial
    unfold StackRow.text
    rw [first?_append (by decide)]
    change first? (function ++ (' ' : CodeUnit) :: (("(" : Text) ++ StackRow.place own line column ")")) = _
    rw [first?_append_of_clear formed.2 (by decide)]
    change first? ((" (" : Text) ++ StackRow.place own line column ")") = _
    rw [first?_append (by decide), first?_place]
  | bare own line column =>
    refine find?_of_first? ?_ serial
    unfold StackRow.text
    rw [first?_append (by decide), first?_place]
  | elsewhere row =>
    have none : first? (StackRow.elsewhere row).text = none := first?_of_not_namesPlace formed.2.2
    unfold find?
    rw [none]
    rfl

end CodeLine

namespace FailureDescription

theorem isStackRow_iff {t : Text} : isStackRow t = true ↔ StartsAsRow t := by
  have whole : t.takeWhile CodeUnit.isBlank ++ t.dropWhile CodeUnit.isBlank = t :=
    List.takeWhile_append_dropWhile
  constructor
  · intro row
    obtain ⟨shorter, word⟩ := Bool.and_eq_true_iff.1 row
    obtain ⟨rest, behind⟩ := Option.isSome_iff_exists.1 word
    refine ⟨t.takeWhile CodeUnit.isBlank, rest, fun none => ?_, List.all_eq_true.1 List.all_takeWhile, ?_⟩
    · rw [none, List.nil_append] at whole
      rw [whole, decide_eq_true_eq] at shorter
      exact Nat.lt_irrefl _ shorter
    · rw [← CodeLine.after?_eq_some behind, whole]
  · rintro ⟨blanks, rest, some, blank, rfl⟩
    have dropped : (blanks ++ (("at " : Text) ++ rest)).dropWhile CodeUnit.isBlank =
        ("at " : Text) ++ rest := by
      rw [List.dropWhile_append_of_pos blank]
      rfl
    have longer := List.length_pos_of_ne_nil some
    have length : (blanks ++ (("at " : Text) ++ rest)).length =
        blanks.length + (("at " : Text) ++ rest).length := List.length_append
    rw [isStackRow, dropped, CodeLine.after?_append, Option.isSome_some, Bool.and_true, decide_eq_true_eq,
      length]
    omega

theorem startsAsRow_text {row : StackRow} (formed : row.WellFormed) : StartsAsRow row.text := by
  cases row with
  | named function own line column => exact ⟨"    ", _, by decide, by decide, rfl⟩
  | bare own line column => exact ⟨"    ", _, by decide, by decide, rfl⟩
  | elsewhere row => exact formed.2.1

theorem lineFeed_notMem_place (serial line column : Nat) {rest : Text} (free : 0x0A ∉ rest) :
    0x0A ∉ StackRow.place serial line column rest := by
  have digits (n : Nat) : 0x0A ∉ Text.ofNat n := fun inside =>
    absurd (Text.isDigit_of_mem_ofNat inside) (by decide)
  have lead : 0x0A ∉ ("[template#" : Text) := by decide
  have middle : 0x0A ∉ ("]:" : Text) := by decide
  have colon : (0x0A : CodeUnit) ≠ (':' : CodeUnit) := by decide
  unfold StackRow.place
  simp only [List.mem_append, List.mem_cons, not_or]
  exact ⟨lead, digits _, middle, digits _, colon, digits _, free⟩

theorem lineFeed_notMem_text {row : StackRow} (formed : row.WellFormed) : 0x0A ∉ row.text := by
  have lead : 0x0A ∉ ("    at " : Text) := by decide
  cases row with
  | named function own line column =>
    have opening : 0x0A ∉ (" (" : Text) := by decide
    unfold StackRow.text
    simp only [List.mem_append, not_or]
    exact ⟨lead, formed.1, opening, lineFeed_notMem_place _ _ _ (by decide)⟩
  | bare own line column =>
    unfold StackRow.text
    simp only [List.mem_append, not_or]
    exact ⟨lead, lineFeed_notMem_place _ _ _ List.not_mem_nil⟩
  | elsewhere row => exact formed.1

/-- A stack: some lines that are no rows, and rows. -/
def stackOf (headers : List Text) (rows : List StackRow) : Text :=
  Text.join [0x0A] (headers ++ rows.map StackRow.text)

theorem stackEntries_stackOf (serial : Nat) {headers : List Text} {rows : List StackRow}
    (plain : ∀ line ∈ headers, 0x0A ∉ line ∧ ¬StartsAsRow line) (formed : ∀ row ∈ rows, row.WellFormed) :
    stackEntries (stackOf headers rows) serial =
      rows.map fun row => ⟨row.text.trim, row.lineFor serial⟩ := by
  have headers_none : headers.filter isStackRow = [] :=
    List.filter_eq_nil_iff.2 fun line inside row => (plain line inside).2 (isStackRow_iff.1 row)
  have rows_all : (rows.map StackRow.text).filter isStackRow = rows.map StackRow.text := by
    refine List.filter_eq_self.2 fun t inside => ?_
    obtain ⟨row, member, rfl⟩ := List.mem_map.1 inside
    exact isStackRow_iff.2 (startsAsRow_text (formed row member))
  have kept : (Text.splitOn 0x0A (stackOf headers rows)).filter isStackRow = rows.map StackRow.text := by
    by_cases empty : headers ++ rows.map StackRow.text = []
    · obtain ⟨-, none⟩ := List.append_eq_nil_iff.1 empty
      unfold stackOf
      rw [empty, none]
      rfl
    · unfold stackOf
      rw [Text.splitOn_join 0x0A _ empty, List.filter_append, headers_none, rows_all, List.nil_append]
      intro piece inside
      rcases List.mem_append.1 inside with header | listed
      · exact (plain piece header).1
      · obtain ⟨row, member, rfl⟩ := List.mem_map.1 listed
        exact lineFeed_notMem_text (formed row member)
  unfold stackEntries
  rw [kept, List.map_map]
  refine List.map_congr_left fun row member => ?_
  exact congrArg (StackEntry.mk row.text.trim) (CodeLine.find?_text serial (formed row member))

end FailureDescription

/-- An object with a message, which has this text as its stack. -/
structure HasStack (v : Value) (stack : Text) (s : Store) : Prop where
  message : ∃ message, Run.ownMessage? v s = .ok (some message) s
  stack : Run.member v "stack" s = .ok (.text stack) s

theorem HasStack.describeFailure {v : Value} {stack : Text} {s : Store} (h : HasStack v stack s)
    (engine : Engine) (frames : List Frame) (serial : Nat) :
    ∃ said, Run.describeFailure engine frames serial v s = .ok (.ofStack said stack serial) s := by
  obtain ⟨message, own⟩ := h.message
  obtain ⟨said, spoken⟩ := Run.failureMessage_of_ownMessage? engine frames own
  have read : Run.failureStack v s = .ok stack s := by
    unfold Run.failureStack
    rw [bind_ok own]
    exact bind_ok h.stack
  refine ⟨said, ?_⟩
  unfold Run.describeFailure
  rw [bind_ok read, bind_ok spoken]
  rfl

theorem findSome?_lineFor_filter (serial : Nat) (rows : List StackRow) :
    (rows.filter fun row => (row.lineFor serial).isSome).findSome? (StackRow.lineFor serial) =
      rows.findSome? (StackRow.lineFor serial) := by
  induction rows with
  | nil => rfl
  | cons row rest ih =>
    cases named : row.lineFor serial with
    | none => rw [List.filter_cons_of_neg (by simp [named]), ih, List.findSome?_cons, named]
    | some line =>
      rw [List.filter_cons_of_pos (by simp [named]), List.findSome?_cons, List.findSome?_cons, named]

namespace Script.BoundTemplate

theorem describeFailure_stackOf {t : BoundTemplate} {main : Value} {serial : Nat}
    (compiled : t.executable = .script main serial) (engine : Engine) (frames : List Frame) {v : Value}
    {s : Store} {headers : List Text} {rows : List StackRow}
    (plain : ∀ line ∈ headers, 0x0A ∉ line ∧ ¬StartsAsRow line) (formed : ∀ row ∈ rows, row.WellFormed)
    (stack : HasStack v (FailureDescription.stackOf headers rows) s) :
    ∃ said, t.describeFailure engine frames v s =
      .ok ⟨said, rows.findSome? (StackRow.lineFor serial),
        rows.map fun row => ⟨row.text.trim, row.lineFor serial⟩⟩ s := by
  obtain ⟨said, described⟩ := stack.describeFailure engine frames serial
  have first : (rows.map fun row => (⟨row.text.trim, row.lineFor serial⟩ : StackEntry)).findSome?
      StackEntry.line = rows.findSome? (StackRow.lineFor serial) := List.findSome?_map
  have content : FailureDescription.ofStack said (FailureDescription.stackOf headers rows) serial =
      ⟨said, rows.findSome? (StackRow.lineFor serial),
        rows.map fun row => ⟨row.text.trim, row.lineFor serial⟩⟩ := by
    unfold FailureDescription.ofStack
    rw [FailureDescription.stackEntries_stackOf serial plain formed]
    dsimp only
    rw [first]
  refine ⟨said, ?_⟩
  unfold describeFailure
  rw [compiled, ← content]
  exact described

/-- A compilation reports the line of the first row that carries its serial number, and lists all rows with
a line for those that carry it. Rows of other compilations may be put in or left out anywhere without any
change of the line that is reported. -/
theorem describeFailure_attributes {t : BoundTemplate} {main : Value} {serial : Nat}
    (compiled : t.executable = .script main serial) (engine : Engine) (frames : List Frame) {v : Value}
    {s : Store} {headers : List Text} {rows : List StackRow}
    (plain : ∀ line ∈ headers, 0x0A ∉ line ∧ ¬StartsAsRow line) (formed : ∀ row ∈ rows, row.WellFormed)
    (stack : HasStack v (FailureDescription.stackOf headers rows) s) :
    (∃ said, t.describeFailure engine frames v s =
      .ok ⟨said, rows.findSome? (StackRow.lineFor serial),
        rows.map fun row => ⟨row.text.trim, row.lineFor serial⟩⟩ s) ∧
    (∀ (row : StackRow) own line, row.place? = some (own, line) → own < 2 * Number.hiddenBit →
      line < 2 * Number.hiddenBit → row.lineFor serial = if own = serial then some (line : Int) else none) ∧
    ∀ v' s' headers' rows', (∀ line ∈ headers', 0x0A ∉ line ∧ ¬StartsAsRow line) →
      (∀ row ∈ rows', row.WellFormed) → HasStack v' (FailureDescription.stackOf headers' rows') s' →
      (rows'.filter fun row => (row.lineFor serial).isSome) =
        (rows.filter fun row => (row.lineFor serial).isSome) →
      ∃ failure, t.describeFailure engine frames v' s' = .ok failure s' ∧
        failure.line = rows.findSome? (StackRow.lineFor serial) := by
  refine ⟨describeFailure_stackOf compiled engine frames plain formed stack, ?_, ?_⟩
  · intro row own line written serial_small line_small
    exact StackRow.lineFor_of_small written serial_small line_small serial
  · intro v' s' headers' rows' plain' formed' stack' same
    obtain ⟨said, described⟩ := describeFailure_stackOf compiled engine frames plain' formed' stack'
    refine ⟨_, described, ?_⟩
    change rows'.findSome? (StackRow.lineFor serial) = _
    rw [← findSome?_lineFor_filter, same, findSome?_lineFor_filter]

/-- A failure in a template that another one evaluates: the serial number 12 is not read as 1. -/
theorem describeFailure_attributes_nested :
    let rows : List StackRow := [.named "shout" 12 7 3, .elsewhere "    at Array.map (<anonymous>)",
      .bare 1 4 9, .named "page" 1 2 1]
    let stack : Text := FailureDescription.stackOf ["Error: no"] rows
    let thrown : Obj := { Obj.ofKind (.error .none "Error") with
      hidden := [("message", .text "no"), ("stack", .text stack)] }
    let s : Store := { Store.empty with objects := #[thrown] }
    let t : BoundTemplate := ⟨default, 0, .script .undefined 1⟩
    stack = ("Error: no\n    at shout ([template#12]:7:3)\n    at Array.map (<anonymous>)\n" : Text) ++
        ("    at [template#1]:4:9\n    at page ([template#1]:2:1)" : Text) ∧
      ∃ failure, t.describeFailure .standard [] (.ref 0) s = .ok failure s ∧ failure.line = some 4 ∧
        failure.stack.map StackEntry.line = [none, none, some 4, some 2] := by
  intro rows stack thrown s t
  have plain : ∀ line ∈ (["Error: no"] : List Text), 0x0A ∉ line ∧ ¬StartsAsRow line := by
    intro line inside
    rw [List.mem_singleton.1 inside]
    exact ⟨by decide, fun row => absurd (FailureDescription.isStackRow_iff.2 row) (by decide)⟩
  have formed : ∀ row ∈ rows, row.WellFormed := by
    have elsewhere : (StackRow.elsewhere "    at Array.map (<anonymous>)").WellFormed := by
      refine ⟨by decide, ⟨"    ", "Array.map (<anonymous>)", by decide, by decide, rfl⟩, ?_⟩
      rintro ⟨before, serial, line, rest, -, -, -, -, same⟩
      have bracket : ('[' : CodeUnit) ∈ ("    at Array.map (<anonymous>)" : Text) := by
        rw [same]
        exact List.mem_append_right _ (List.mem_append_left _ (by decide))
      exact absurd bracket (by decide)
    intro row inside
    simp only [rows, List.mem_cons, List.not_mem_nil, or_false] at inside
    rcases inside with rfl | rfl | rfl | rfl
    · exact ⟨by decide, by decide⟩
    · exact elsewhere
    · trivial
    · exact ⟨by decide, by decide⟩
  have carried : HasStack (.ref 0) (FailureDescription.stackOf ["Error: no"] rows) s := ⟨⟨_, rfl⟩, rfl⟩
  obtain ⟨⟨said, described⟩, -⟩ :=
    describeFailure_attributes (t := t) rfl .standard [] plain formed carried
  exact ⟨rfl, _, described, rfl, rfl⟩

end Script.BoundTemplate

end LineTemplate
