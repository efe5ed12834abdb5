import LineTemplate.Proofs.Evaluation.Lines
import LineTemplate.Proofs.Evaluation.Loops
import LineTemplate.Proofs.Template.FieldReading

/-!
A list and the loop that spells it out. The list emits an empty line for an item without text, and its
indentation for an array without items, where the loop emits the indentation or nothing; so the two agree
on all that is visible, and on every line if each of the items has text.
-/

set_option autoImplicit false

namespace LineTemplate

open Script

/-- The template of a list behind some blanks. -/
def listTemplate (p : Text) : Text := p ++ ("$\x7bxs\x7d" : Text)

/-- The template of a loop that puts each item behind some blanks. -/
def loopTemplate (p : Text) : Text :=
  ("@for (const x of xs) \x7b\n" : Text) ++ p ++ ("$(x)\n@\x7d" : Text)

section

variable {p : Text} (blank : ∀ c ∈ p, c = CodeUnit.ofChar ' ' ∨ c = CodeUnit.ofChar '\t')

include blank

theorem isBlank_of_indent : ∀ c ∈ p, c.isBlank = true := by
  intro c inside
  rcases blank c inside with rfl | rfl <;> decide

theorem gives_listTemplate : Line.Gives .standard 0 (listTemplate p) (.list "xs" p) := by
  have alone : Line.classify ("$\x7bxs\x7d" : Text) = .list [] [] "xs" [] := by decide
  have kind : Line.classify (listTemplate p) = .list (p ++ []) [] "xs" [] :=
    (Line.classify_append p _ (isBlank_of_indent blank)).trans (congrArg (Line.indented p) alone)
  unfold Line.Gives Line.inclusion? Line.instructions
  rw [kind, List.append_nil]
  refine ⟨rfl, ?_⟩
  change [Instruction.list "xs" (p ++ [])] = _
  rw [List.append_nil]

theorem ofText_field :
    TokenizedLine.ofText .standard (p ++ ("$(x)" : Text)) = ⟨[⟨p, some "x"⟩], []⟩ := by
  have skips : DelimiterStyle.standard.Skips p ("$(x)" : Text) := by
    -- A token that starts among the blanks would start with one of them.
    rintro q rest some rfl ⟨e, after, -, whole⟩
    obtain ⟨c, others, rfl⟩ := List.exists_cons_of_ne_nil some
    have same : c = CodeUnit.ofChar '$' := (List.cons.inj whole).1
    rcases blank c (by simp) with rfl | rfl <;> exact absurd same (by decide)
  have encloses : DelimiterStyle.standard.Encloses "x" :=
    (Settles.cons_other 0 [] (by decide) (by decide)).2 ((Settles.nil_iff 0).2 rfl)
  have cut : DelimiterStyle.standard.cut? (p ++ ("$(x)" : Text)) = some ⟨p, "x", []⟩ :=
    (DelimiterStyle.cut?_eq_some_iff _ _ _).2 ⟨rfl, encloses, skips⟩
  have run : Quoting.splitRun p = (p, []) := by
    have left := Text.splitEnd_append_left CodeUnit.isBackslash p [] fun c inside => by
      rcases blank c inside with rfl | rfl <;> decide
    rw [List.append_nil] at left
    exact left.trans (congrArg (·, []) (List.append_nil p))
  have own : Segment.ofCut .standard ⟨p, "x", []⟩ = ⟨p, some "x"⟩ := by
    unfold Segment.ofCut
    rw [run]
    change Segment.mk (p ++ []) (some "x") = _
    rw [List.append_nil]
  rw [TokenizedLine.ofText_eq, cut]
  dsimp only
  rw [own, TokenizedLine.ofText_eq]
  rfl

theorem gives_field :
    Line.Gives .standard 0 (p ++ ("$(x)" : Text)) (.fields [] [⟨p, some "x"⟩] []) := by
  have alone : Line.classify ("$(x)" : Text) = .text "$(x)" := by decide
  have kind : Line.classify (p ++ ("$(x)" : Text)) = .text (p ++ ("$(x)" : Text)) :=
    (Line.classify_append p _ (isBlank_of_indent blank)).trans (congrArg (Line.indented p) alone)
  unfold Line.Gives Line.inclusion? Line.instructions
  rw [kind]
  refine ⟨rfl, ?_⟩
  dsimp only
  rw [ofText_field blank]
  rfl

theorem newline_notMem_behind {t : Text} (free : newline ∉ t) : newline ∉ p ++ t := by
  intro inside
  rcases List.mem_append.1 inside with inside | inside
  · rcases blank _ inside with same | same <;> exact absurd same (by decide)
  · exact free inside

theorem expand_listTemplate (included : Members Text) :
    ∃ list, expand 0 .standard included (listTemplate p) = .ok list ∧ list.instructions = [.list "xs" p] ∧
      list.endsWithNewline = false := by
  have free : newline ∉ listTemplate p := newline_notMem_behind blank (by decide)
  have last : (listTemplate p).getLast? = some (CodeUnit.ofChar '\x7d') := by
    rw [listTemplate, List.getLast?_append]
    rfl
  have lines : splitLines (listTemplate p) = [listTemplate p] := by
    rw [splitLines, last, if_neg (by decide)]
    exact Text.splitOn_of_notMem newline _ free
  have own : List.Forall₂ (Line.Gives .standard 0) (splitLines (listTemplate p)) [.list "xs" p] := by
    rw [lines]
    exact .cons (gives_listTemplate blank) .nil
  obtain ⟨list, expanded, instructions, ends⟩ := expand_own own
  rw [last] at instructions ends
  exact ⟨list, expanded, instructions.trans (List.append_nil _), ends.trans (by decide)⟩

theorem expand_loopTemplate (included : Members Text) :
    ∃ loop, expand 0 .standard included (loopTemplate p) = .ok loop ∧
      loop.instructions = loopInstructions p ∧ loop.endsWithNewline = false := by
  have last : (loopTemplate p).getLast? = some (CodeUnit.ofChar '\x7d') := by
    rw [loopTemplate, List.getLast?_append]
    rfl
  have field : newline ∉ p ++ ("$(x)" : Text) := newline_notMem_behind blank (by decide)
  have lines : splitLines (loopTemplate p) =
      [("@" : Text) ++ loopHead, p ++ ("$(x)" : Text), ("@" : Text) ++ loopFoot] := by
    have parts : loopTemplate p = (("@" : Text) ++ loopHead) ++ newline ::
        (p ++ ("$(x)" : Text) ++ newline :: (("@" : Text) ++ loopFoot)) := by
      simp only [loopTemplate, List.append_assoc]
      rfl
    rw [splitLines, last, if_neg (by decide), parts]
    change Text.splitOn newline _ = _
    rw [Text.splitOn_append_cons, Text.splitOn_append_cons, Text.splitOn_of_notMem newline _ field,
      Text.splitOn_of_notMem newline _ (by decide), Text.splitOn_of_notMem newline _ (by decide)]
    rfl
  have own : List.Forall₂ (Line.Gives .standard 0) (splitLines (loopTemplate p)) (loopInstructions p) := by
    rw [lines]
    exact .cons ⟨by decide, by decide⟩ (.cons (gives_field blank) (.cons ⟨by decide, by decide⟩ .nil))
  obtain ⟨loop, expanded, instructions, ends⟩ := expand_own own
  rw [last] at instructions ends
  exact ⟨loop, expanded, instructions.trans (List.append_nil _), ends.trans (by decide)⟩

end

section

variable {p : Text}

theorem isBlank_append (blank : ∀ c ∈ p, c.isBlank = true) (t : Text) : (p ++ t).isBlank = t.isBlank := by
  have all : p.all CodeUnit.isBlank = true := List.all_eq_true.2 blank
  unfold Text.isBlank
  rw [List.all_append, all, Bool.true_and]

theorem visible_loopLines (blank : ∀ c ∈ p, c.isBlank = true) (ts : List Text) :
    (ts.map (p ++ ·)).filter (fun line => !line.isBlank) = (ts.filter fun t => !t.isBlank).map (p ++ ·) := by
  rw [List.filter_map]
  refine congrArg (List.map (p ++ ·)) (List.filter_congr fun t _ => ?_)
  exact congrArg not (isBlank_append blank t)

theorem visible_listLines (blank : ∀ c ∈ p, c.isBlank = true) (ts : List Text) :
    (listLines p ts).filter (fun line => !line.isBlank) = (ts.filter fun t => !t.isBlank).map (p ++ ·) := by
  cases ts with
  | nil =>
    have alone : p.isBlank = true := List.all_eq_true.2 blank
    unfold listLines
    cases p with
    | nil => rfl
    | cons c rest => simp [alone]
  | cons t others =>
    rw [← visible_loopLines blank]
    change ((t :: others).map (itemLine p)).filter _ = _
    induction t :: others with
    | nil => rfl
    | cons t others ih =>
      rw [List.map_cons, List.map_cons, List.filter_cons, List.filter_cons, ih]
      cases t with
      | nil =>
        have hidden : (p ++ []).isBlank = true := isBlank_append blank []
        rw [hidden]
        rfl
      | cons c rest => rfl

theorem listLines_eq {ts : List Text} (some : ts ≠ []) (texts : [] ∉ ts) :
    listLines p ts = ts.map (p ++ ·) := by
  have items : listLines p ts = ts.map (itemLine p) := by
    unfold listLines
    rw [if_neg (by simpa using some)]
  rw [items]
  refine List.map_congr_left fun t inside => ?_
  have text : t.isEmpty = false := by
    cases t with
    | nil => exact absurd inside texts
    | cons c rest => rfl
  unfold itemLine
  rw [text, if_neg Bool.false_ne_true]

theorem length_listLines_le {ts : List Text} (room : ts.length ≤ Items.arrayLimit) :
    (listLines p ts).length ≤ Items.arrayLimit := by
  have one : 1 ≤ Items.arrayLimit := by decide
  unfold listLines
  split
  · split
    · exact Nat.zero_le _
    · exact one
  · rwa [List.length_map]

end

theorem plain_list {program : Program} {p : Text} (isList : program.instructions = [.list "xs" p]) :
    ∀ i ∈ program.instructions, i.Plain := by
  rw [isList]
  intro i inside
  rw [List.mem_singleton.1 inside]
  exact (by decide : PlainName "xs")

theorem legible_list {program : Program} {p : Text} (isList : program.instructions = [.list "xs" p]) :
    ∀ i ∈ program.instructions, i.Legible := by
  intro i inside
  refine (plain_list isList i inside).legible fun boundary name same => ?_
  rw [isList, same] at inside
  cases List.mem_singleton.1 inside

/-- A program with one list can be loaded. An evaluation yields the lines of the list, as far as the options
keep them. -/
theorem load_list (depth scope : Nat) {program : Program} {p : Text}
    (isList : program.instructions = [.list "xs" p]) (s : Store) :
    ∃ bound s₁ s₂, Run.load (.nested (depth + 3)) program scope .script s = .ok (.loaded bound) s₁ ∧
      Run.prepareScope scope s₁ = .ok () s₂ ∧
      ∀ {σ : Type} {b : Behaviour σ} {holds : σ → Own → Option Cursor → Store → Prop} {w : σ} {a : Nat}
        {ts : List Text},
        Realizes b (.nested (depth + 1)) scope holds → holds w ⟨[], [s.scopes.size]⟩ none s₂ →
        b.Lists w "xs" a ts → ts.length ≤ Items.arrayLimit →
        ∀ (active : List Frame) (o : EvaluationOptions),
        ∃ s₃, bound.evaluate (.nested (depth + 3)) active o [] s₁ =
          .ok (.produced (.ofLines o (o.keepLines program.endsWithNewline (listLines p ts)))) s₃ := by
  obtain ⟨bound, s₁, s₂, loaded, prepared, run⟩ :=
    load_evaluate depth scope s (plain_list isList) (legible_list isList)
  refine ⟨bound, s₁, s₂, loaded, prepared, ?_⟩
  intro σ b holds w a ts real h ⟨entry, limit, w₁, w', started, converts, enough⟩ room active o
  have space : ([] : List Text).length + (listLines p ts).length ≤ Items.arrayLimit := by
    rw [List.length_nil, Nat.zero_add]
    exact length_listLines_le room
  have emitted : b.emit (.list "xs" p) ⟨w, [], 0⟩ = .ok () ⟨w', [] ++ listLines p ts, 0⟩ :=
    Behaviour.emit_list entry rfl started converts enough space
  have interpreted : b.interpret program.instructions ⟨w, [], 0⟩ = .ok () ⟨w', [] ++ listLines p ts, 1⟩ := by
    rw [isList]
    exact bind_ok emitted
  have ran := run w real h active o
  rw [interpreted] at ran
  exact ran

/-- A list and the loop over its items. Both templates are expanded and loaded. In a store with an array of
items that are converted to text, where the scope does the same for both, they yield the same lines when
neither blank nor empty lines are kept. By default they do so if there are items and each has text. -/
theorem evaluate_list_loop {p : Text} (blank : ∀ c ∈ p, c = CodeUnit.ofChar ' ' ∨ c = CodeUnit.ofChar '\t')
    (included : Members Text) (depth scope : Nat) (s : Store) :
    ∃ list loop lister looper s₁ s₂ s₁' s₂',
      expand 0 .standard included (listTemplate p) = .ok list ∧
      expand 0 .standard included (loopTemplate p) = .ok loop ∧
      Run.load (.nested (depth + 3)) list scope .script s = .ok (.loaded lister) s₁ ∧
      Run.prepareScope scope s₁ = .ok () s₂ ∧
      Run.load (.nested (depth + 3)) loop scope .script s = .ok (.loaded looper) s₁' ∧
      Run.prepareScope scope s₁' = .ok () s₂' ∧
      ∀ {σ : Type} (b : Behaviour σ) (w : σ) {a : Nat} {slots : Slots Value} {ts : List Text},
        s.kindAt a = some (.array slots) → b.Lists w "xs" a ts →
        b.Stands (.nested (depth + 1)) scope w ⟨[], [s.scopes.size]⟩ s₂ →
        b.Stands (.nested (depth + 1)) scope w ⟨[], [s.scopes.size]⟩ s₂' →
        (∀ t ∈ ts, p.length + t.length ≤ Text.maxLength) → ts.length ≤ Items.arrayLimit →
        ∀ active,
          (∃ o s₃ s₃', EvaluationOptions.parse (.record [("preserveBlankLines", .bool false),
              ("preserveEmptyLines", .bool false), ("returnAsLines", .bool true)]) = .ok o ∧
            lister.evaluate (.nested (depth + 3)) active o [] s₁ =
              .ok (.produced (.lines ((ts.filter fun t => !t.isBlank).map (p ++ ·)))) s₃ ∧
            looper.evaluate (.nested (depth + 3)) active o [] s₁' =
              .ok (.produced (.lines ((ts.filter fun t => !t.isBlank).map (p ++ ·)))) s₃') ∧
          (ts ≠ [] → [] ∉ ts → ∀ given ∈ [Datum.undefined, .record [("returnAsLines", .bool true)]],
            ∃ o s₃ s₃', EvaluationOptions.parse given = .ok o ∧
              lister.evaluate (.nested (depth + 3)) active o [] s₁ =
                .ok (.produced (.ofLines o (ts.map (p ++ ·)))) s₃ ∧
              looper.evaluate (.nested (depth + 3)) active o [] s₁' =
                .ok (.produced (.ofLines o (ts.map (p ++ ·)))) s₃') := by
  obtain ⟨list, list_expanded, list_instructions, list_ends⟩ := expand_listTemplate blank included
  obtain ⟨loop, loop_expanded, loop_instructions, loop_ends⟩ := expand_loopTemplate blank included
  obtain ⟨lister, s₁, s₂, list_loaded, list_prepared, list_runs⟩ := load_list depth scope list_instructions s
  obtain ⟨looper, s₁', s₂', loop_loaded, loop_prepared, loop_runs⟩ := load_loop depth scope loop_instructions s
  refine ⟨list, loop, lister, looper, s₁, s₂, s₁', s₂', list_expanded, loop_expanded, list_loaded,
    list_prepared, loop_loaded, loop_prepared, ?_⟩
  intro σ b w a slots ts array lists ⟨b₁, holds₁, more₁, real₁, h₁⟩ ⟨b₂, holds₂, more₂, real₂, h₂⟩ fits room
    active
  obtain ⟨readied, -⟩ := readied_of_loop loop_instructions loop_loaded loop_prepared
  -- Each run gives the lines of the same texts, as far as the options keep them.
  have list_lines := list_runs real₁ h₁ (more₁.lists lists) room active
  have loop_lines := loop_runs real₂ h₂ (more₂.lists lists) (readied.kindAt array) fits room active
  rw [list_ends] at list_lines
  rw [loop_ends] at loop_lines
  constructor
  · obtain ⟨s₃, lister_yields⟩ := list_lines ⟨true, false, false⟩
    obtain ⟨s₃', looper_yields⟩ := loop_lines ⟨true, false, false⟩
    rw [keepLines_visible rfl rfl, visible_listLines (isBlank_of_indent blank)] at lister_yields
    rw [keepLines_visible rfl rfl, visible_loopLines (isBlank_of_indent blank)] at looper_yields
    exact ⟨_, s₃, s₃', by with_unfolding_all rfl, lister_yields, looper_yields⟩
  · intro some texts given default
    obtain ⟨o, parsed, keepsBlank, keepsEmpty⟩ : ∃ o, EvaluationOptions.parse given = .ok o ∧
        o.preserveBlankLines = true ∧ o.preserveEmptyLines = true := by
      rcases List.mem_pair.1 default with rfl | rfl
      · exact ⟨⟨false, true, true⟩, by with_unfolding_all rfl, rfl, rfl⟩
      · exact ⟨⟨true, true, true⟩, by with_unfolding_all rfl, rfl, rfl⟩
    obtain ⟨s₃, lister_yields⟩ := list_lines o
    obtain ⟨s₃', looper_yields⟩ := loop_lines o
    rw [keepLines_all keepsBlank keepsEmpty, listLines_eq some texts] at lister_yields
    rw [keepLines_all keepsBlank keepsEmpty] at looper_yields
    exact ⟨o, s₃, s₃', parsed, lister_yields, looper_yields⟩

/-- A text and a number behind a space and a tab. -/
theorem evaluate_list_loop_tab :
    let p : Text := " \t"
    let array : Obj := .ofKind (.array (.ofList [.text "b", .bigint 7]))
    let scope : Obj := { Obj.ofKind .plain with members := [("xs", .ref 12)] }
    let s := (Store.empty.addObject array).addObject scope
    let bare : Datum := .record [("preserveBlankLines", .bool false), ("preserveEmptyLines", .bool false),
      ("returnAsLines", .bool true)]
    ∃ list loop lister looper s₁ s₁', expand 0 .standard [] (listTemplate p) = .ok list ∧
      expand 0 .standard [] (loopTemplate p) = .ok loop ∧
      Run.load (.nested 3) list 13 .script s = .ok (.loaded lister) s₁ ∧
      Run.load (.nested 3) loop 13 .script s = .ok (.loaded looper) s₁' ∧
      (∃ o s₃ s₃', EvaluationOptions.parse bare = .ok o ∧
        lister.evaluate (.nested 3) [] o [] s₁ = .ok (.produced (.lines [" \tb", " \t7"])) s₃ ∧
        looper.evaluate (.nested 3) [] o [] s₁' = .ok (.produced (.lines [" \tb", " \t7"])) s₃') ∧
      ∃ o s₃ s₃', EvaluationOptions.parse .undefined = .ok o ∧
        lister.evaluate (.nested 3) [] o [] s₁ = .ok (.produced (.ofLines o [" \tb", " \t7"])) s₃ ∧
        looper.evaluate (.nested 3) [] o [] s₁' = .ok (.produced (.ofLines o [" \tb", " \t7"])) s₃' := by
  intro p array scope s bare
  obtain ⟨list, loop, lister, looper, s₁, s₂, s₁', s₂', list_expanded, loop_expanded, list_loaded,
    list_prepared, loop_loaded, loop_prepared, yields⟩ := evaluate_list_loop (by decide : ∀ c ∈ p, _) [] 0 13 s
  have isList : list.instructions = [.list "xs" p] := by
    obtain ⟨list', expanded, instructions, -⟩ := expand_listTemplate (by decide : ∀ c ∈ p, _) []
    cases list_expanded.symm.trans expanded
    exact instructions
  have isLoop : loop.instructions = loopInstructions p := by
    obtain ⟨loop', expanded, instructions, -⟩ := expand_loopTemplate (by decide : ∀ c ∈ p, _) []
    cases loop_expanded.symm.trans expanded
    exact instructions
  -- What the scope holds before is known to both programs.
  let d := (s.contents 13).without providedNames
  obtain ⟨has, grown, more⟩ :=
    contents_of_load 0 (legible_list isList) list_loaded list_prepared rfl rfl
  obtain ⟨readied, helpers⟩ := readied_of_loop isLoop loop_loaded loop_prepared
  obtain ⟨has', grown', more'⟩ := contents_of_readied 0 readied helpers rfl rfl
  have lists : d.behaviour.Lists ((), []) "xs" 12 ["b", "7"] :=
    ⟨rfl, 3, ((), [.text "b", .bigint 7]), ((), []), rfl, .cons rfl rfl rfl (.cons rfl rfl rfl (.nil rfl)),
      by decide⟩
  obtain ⟨shown, all⟩ := yields d.behaviour ((), []) (a := 12) rfl lists
    ⟨_, _, more.behaviour, realizes_of_hasContents has, grown _, trivial⟩
    ⟨_, _, more'.behaviour, realizes_of_hasContents has', grown' _, trivial⟩ (by decide) (by decide) []
  exact ⟨list, loop, lister, looper, s₁, s₁', list_expanded, loop_expanded, list_loaded, loop_loaded, shown,
    all (by decide) (by decide) .undefined List.mem_cons_self⟩

end LineTemplate
