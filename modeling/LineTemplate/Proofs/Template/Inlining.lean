import LineTemplate.Proofs.Template.Indentation

/-!
Inclusion as inlining. A template that includes another one has the program of the template in which the
lines of the other one stand in place of the inclusion, pushed in by the blanks before the token; the two
programs differ in markers and in how literal text is cut, and in nothing else that is emitted.
-/

set_option autoImplicit false

namespace LineTemplate

/-- The lines that stand for the inclusion of a source: the halved backslashes, if there are any, on a
line of their own, and the lines of the source. -/
def inlinedLines (blanks run source : Text) : List Text :=
  (if run.isEmpty then [] else [blanks ++ (Quoting.ofRun run).literal]) ++
    (splitLines source).map (Line.pushedIn blanks.length)

/-- A template with the lines of a source in place of the inclusion on line `n`, counted from zero. -/
def inlineAt (template : Text) (n : Nat) (blanks run source : Text) : Text :=
  terminated ((splitLines template).take n ++ inlinedLines blanks run source ++
    (splitLines template).drop (n + 1))

theorem DelimiterStyle.cut?_eq_none (style : DelimiterStyle) (t : Text)
    (h : ∀ c ∈ t, c ≠ '$' ∧ c ≠ leftMark) : style.cut? t = none := by
  induction t with
  | nil => rfl
  | cons c rest ih =>
    have here : style.tokenHere? (c :: rest) = none := by
      obtain ⟨dollar, mark⟩ := h c List.mem_cons_self
      cases style with
      | standard => cases rest <;> simp [tokenHere?, dollar]
      | alternate => simp [tokenHere?, mark]
    rw [cut?, here, ih fun d inside => h d (List.mem_cons_of_mem c inside)]
    rfl

namespace Line

theorem classify_backslashes (n : Nat) :
    classify (Quoting.backslashes n) = .text (Quoting.backslashes n) := by
  cases n with
  | zero => rfl
  | succ n =>
    have whole : Quoting.backslashes (n + 1) = CodeUnit.ofChar '\\' :: Quoting.backslashes n := rfl
    have visible : CodeUnit.isBlank (CodeUnit.ofChar '\\') = false := by decide
    have run : (Quoting.backslashes (n + 1)).dropWhile CodeUnit.isBackslash = [] := by
      have sign : CodeUnit.isBackslash (CodeUnit.ofChar '\\') = true := by decide
      rw [Quoting.backslashes, List.dropWhile_replicate, if_pos sign]
    have start : (Quoting.backslashes (n + 1)).dropWhile CodeUnit.isBlank =
        CodeUnit.ofChar '\\' :: Quoting.backslashes n := by
      rw [whole, List.dropWhile_cons_of_neg (by simp [visible])]
    unfold classify
    dsimp only
    rw [start]
    dsimp only
    rw [if_neg (by decide), ← whole, run]
    rfl

theorem instructions_backslashes (style : DelimiterStyle) (columns n : Nat) (blanks : Text)
    (blank : ∀ c ∈ blanks, CodeUnit.isBlank c = true) (some : 0 < n) :
    instructions style columns (blanks ++ Quoting.backslashes n) =
      [.literal (Text.spaces columns ++ (blanks ++ Quoting.backslashes n))] := by
  have kind : classify (blanks ++ Quoting.backslashes n) =
      .text (blanks ++ Quoting.backslashes n) := by
    rw [classify_append blanks _ blank, classify_backslashes]
    rfl
  have uncut : style.cut? (blanks ++ Quoting.backslashes n) = none := by
    refine style.cut?_eq_none _ fun c inside => ?_
    rcases List.mem_append.1 inside with inside | inside
    · have blank_c := blank c inside
      constructor
      · rintro rfl
        exact absurd blank_c (by decide)
      · rintro rfl
        exact absurd blank_c (by decide)
    · rw [List.eq_of_mem_replicate inside]
      decide
  have some_text : (blanks ++ Quoting.backslashes n).isEmpty = false := by
    cases n with
    | zero => omega
    | succ n => simp [Quoting.backslashes, List.replicate_succ]
  unfold instructions
  rw [kind]
  dsimp only
  rw [TokenizedLine.ofText_eq, uncut]
  simp only [TokenizedLine.matched, List.isEmpty_nil, Bool.not_true, Bool.false_eq_true, if_false,
    some_text]

theorem classify_inclusion_blanks {line blanks run name trailing : Text}
    (h : classify line = .inclusion blanks run name trailing) :
    blanks = line.takeWhile CodeUnit.isBlank := by
  unfold classify at h
  dsimp only at h
  split at h
  · simp at h
  · split at h
    · simp at h
    · cases found : ofToken? (line.takeWhile CodeUnit.isBlank)
          ((line.dropWhile CodeUnit.isBlank).takeWhile CodeUnit.isBackslash)
          ((line.dropWhile CodeUnit.isBlank).dropWhile CodeUnit.isBackslash) with
      | none => simp [found] at h
      | some token =>
        rw [found] at h
        obtain rfl : token = .inclusion blanks run name trailing := h
        rcases ofToken?_eq_some _ _ _ _ found with ⟨_, _, same, -⟩ | ⟨_, _, other, -⟩
        · exact (Line.inclusion.inj same).1
        · simp at other

theorem inclusion?_blanks {line blanks run name : Text}
    (h : inclusion? line = some (blanks, run, name)) :
    ∀ c ∈ blanks, CodeUnit.isBlank c = true ∧ c ∈ line := by
  obtain ⟨⟨trailing, kind⟩, -⟩ := (inclusion?_eq_some_iff line blanks run name).1 h
  rw [classify_inclusion_blanks kind]
  intro c inside
  exact ⟨List.all_eq_true.1 List.all_takeWhile c inside, (List.takeWhile_sublist _).subset inside⟩

theorem inclusion?_literal {line blanks run name : Text}
    (h : inclusion? line = some (blanks, run, name)) :
    (Quoting.ofRun run).literal.isEmpty = run.isEmpty := by
  obtain ⟨-, active⟩ := (inclusion?_eq_some_iff line blanks run name).1 h
  have even : run.length % 2 ≠ 1 := by simpa [Quoting.ofRun] using active
  rw [Bool.eq_iff_iff, List.isEmpty_iff_length_eq_zero, List.isEmpty_iff_length_eq_zero]
  simp only [Quoting.ofRun, Quoting.backslashes, List.length_replicate]
  omega

end Line

theorem newline_notMem_inlinedLines {line blanks run name source : Text}
    (kind : Line.inclusion? line = some (blanks, run, name)) (free : newline ∉ line) :
    ∀ l ∈ inlinedLines blanks run source, newline ∉ l := by
  intro l member
  unfold inlinedLines at member
  rcases List.mem_append.1 member with lead | body
  · split at lead
    · simp at lead
    · rw [List.mem_singleton.1 lead, List.mem_append, not_or]
      refine ⟨fun inside => free (Line.inclusion?_blanks kind newline inside).2, fun inside => ?_⟩
      exact absurd (List.eq_of_mem_replicate inside) (by decide)
  · obtain ⟨inner, present, rfl⟩ := List.mem_map.1 body
    unfold Line.pushedIn
    split
    · exact List.not_mem_nil
    · rw [List.mem_append, not_or]
      refine ⟨fun inside => ?_, newline_notMem_of_mem_splitLines source inner present⟩
      exact absurd (List.eq_of_mem_replicate inside) (by decide)

theorem forall₂_exists_map {α β γ δ : Type} {R : α → β → Prop} {S : δ → β → Prop} (g : α → δ)
    (f : β → List γ) {xs : List α} {ys : List β} (h : List.Forall₂ R xs ys)
    (step : ∀ x y, R x y → ∃ z, S (g x) z ∧ f z = f y) :
    ∃ zs, List.Forall₂ S (xs.map g) zs ∧ zs.flatMap f = ys.flatMap f := by
  induction h with
  | nil => exact ⟨[], .nil, rfl⟩
  | cons first _ ih =>
    obtain ⟨z, related, same⟩ := step _ _ first
    obtain ⟨zs, all, rest_same⟩ := ih
    exact ⟨z :: zs, .cons related all, by rw [List.flatMap_cons, List.flatMap_cons, same, rest_same]⟩

namespace Expansion

theorem expandTo_of_subset {depth deeper : Nat} {context : ExpansionContext} (chain : List Text)
    {template : Text} {program : Program} (h : expandTo depth context template = .ok program)
    (le : depth ≤ deeper) (fewer : chain ⊆ context.chain) :
    expandTo deeper { context with chain := chain } template = .ok program := by
  induction depth generalizing deeper context chain template program with
  | zero => exact absurd h (expandTo_zero_ne_ok _ _ _)
  | succ depth ih =>
    obtain ⟨deeper, rfl⟩ : ∃ d, deeper = d + 1 := ⟨deeper - 1, by omega⟩
    obtain ⟨ys, all, rfl⟩ := (expandTo_succ_eq_ok_iff _ _ _ _).1 h
    refine (expandTo_succ_eq_ok_iff _ _ _ _).2 ⟨ys, all.imp fun line y yields => ?_, rfl⟩
    cases yields with
    | own plain alone => exact .own plain alone
    | included kind found fresh expanded =>
      refine .included kind found (fun old => fresh (fewer old)) ?_
      refine ih _ expanded (by omega) fun known member => ?_
      rcases List.mem_append.1 member with old | new
      · exact List.mem_append_left _ (fewer old)
      · exact List.mem_append_right _ new

theorem Yields.exists_pushedIn {depth : Nat} {context : ExpansionContext} {blanks name line : Text}
    {y : LineYield} (h : Yields (context.enter blanks name) (expandTo depth) line y) :
    ∃ z, Yields context (expandTo (depth + 1)) (Line.pushedIn blanks.length line) z ∧
      emitted z.instructions = emitted y.instructions := by
  have blank := Text.isBlank_of_mem_spaces blanks.length
  cases h with
  | @own instruction plain alone =>
    have plain' : Line.inclusion? (Line.pushedIn blanks.length line) = none := by
      unfold Line.pushedIn
      split
      · rfl
      · rw [Line.inclusion?_append _ line blank, plain]
        rfl
    obtain ⟨moved, alone', -⟩ := @linePart_of_plain context
      (expandTo (depth + 1)) ⟨1, 0, 0⟩ _ plain'
    refine ⟨.own moved, .own plain' alone', ?_⟩
    change emitted [moved] = emitted [instruction]
    rw [← alone', ← alone]
    exact Line.emitted_pushedIn context.style context.columns blanks.length line
  | @included inner run other source nested kind found fresh expanded =>
    have some_line : ¬line.isEmpty = true := by
      rw [List.isEmpty_iff]
      rintro rfl
      simp [Line.inclusion?, Line.classify] at kind
    have kind' : Line.inclusion? (Line.pushedIn blanks.length line) =
        some (Text.spaces blanks.length ++ inner, run, other) := by
      rw [Line.pushedIn, if_neg some_line, Line.inclusion?_append _ line blank, kind]
      rfl
    have inside : context.enter (Text.spaces blanks.length ++ inner) other =
        { (context.enter blanks name).enter inner other with chain := context.chain ++ [other] } := by
      simp [ExpansionContext.enter, Text.length_spaces, Nat.add_assoc]
    have expanded' := expandTo_of_subset (context.chain ++ [other]) expanded
      (Nat.le_succ depth) fun known member => by
        rcases List.mem_append.1 member with old | new
        · simp [ExpansionContext.enter, old]
        · simp [ExpansionContext.enter, List.mem_singleton.1 new]
    rw [← inside] at expanded'
    refine ⟨_, .included kind' found ?_ expanded', ?_⟩
    · intro old
      exact fresh (by simp [ExpansionContext.enter, old])
    · simp [LineYield.instructions, LineYield.before, ExpansionContext.enter, Text.spaces_add]

theorem Yields.exists_inlined {depth : Nat} {context : ExpansionContext}
    {line blanks run name source : Text} {nested : Program}
    (kind : Line.inclusion? line = some (blanks, run, name))
    (expanded : expandTo depth (context.enter blanks name) source = .ok nested) :
    ∃ zs, List.Forall₂ (Yields context (expandTo depth)) (inlinedLines blanks run source) zs ∧
      emitted (zs.flatMap LineYield.instructions) =
        emitted (LineYield.instructions (.included (Quoting.ofRun run).literal
          (Text.spaces context.columns ++ blanks) name nested)) := by
  cases depth with
  | zero => exact absurd expanded (expandTo_zero_ne_ok _ _ _)
  | succ depth =>
    obtain ⟨ys, all, rfl⟩ := (expandTo_succ_eq_ok_iff _ _ _ _).1 expanded
    obtain ⟨zs, pushed, same⟩ := forall₂_exists_map (Line.pushedIn blanks.length)
      (fun y => emitted y.instructions) all fun line y yields => yields.exists_pushedIn
    rw [← emitted_flatMap, ← emitted_flatMap] at same
    have whole : emitted (LineYield.instructions (.included (Quoting.ofRun run).literal
        (Text.spaces context.columns ++ blanks) name (.ofYields name source ys))) =
        emitted (LineYield.before (Quoting.ofRun run).literal
          (Text.spaces context.columns ++ blanks)) ++
          emitted (ys.flatMap LineYield.instructions) := by
      rw [LineYield.instructions, Program.ofYields_spliced]
      simp [emitted, Instruction.isMarker]
    have empty := Line.inclusion?_literal kind
    change ∃ zs, _ ∧ _ = emitted (LineYield.instructions (.included _ _ _ (.ofYields name source ys)))
    rw [whole]
    unfold inlinedLines LineYield.before
    rw [empty]
    by_cases none : run.isEmpty = true
    · rw [if_pos none, if_pos none]
      exact ⟨zs, pushed, same⟩
    · have some : 0 < run.length / 2 := by
        rw [← empty, List.isEmpty_iff_length_eq_zero] at none
        simp only [Quoting.ofRun, Quoting.backslashes, List.length_replicate] at none
        omega
      have alone := Line.instructions_backslashes context.style context.columns (run.length / 2)
        blanks (fun c inside => (Line.inclusion?_blanks kind c inside).1) some
      have plain : Line.inclusion? (blanks ++ (Quoting.ofRun run).literal) = Option.none := by
        rw [Line.inclusion?_append _ _ fun c inside => (Line.inclusion?_blanks kind c inside).1]
        unfold Line.inclusion?
        rw [Quoting.ofRun, Line.classify_backslashes]
        rfl
      rw [if_neg none, if_neg none]
      refine ⟨.own _ :: zs, .cons (.own plain alone) pushed, ?_⟩
      rw [List.flatMap_cons, emitted_append, same, List.append_assoc]
      rfl

theorem expandTo_inlineAt {depth n : Nat} {context : ExpansionContext}
    {template line blanks run name : Text} {program : Program}
    (h : expandTo depth context template = .ok program) (ends : template.getLast? = some newline)
    (position : (splitLines template)[n]? = some line)
    (kind : Line.inclusion? line = some (blanks, run, name)) :
    ∃ source inlined, context.included.get? name = some source ∧
      expandTo depth context (inlineAt template n blanks run source) = .ok inlined ∧
      emitted inlined.instructions = emitted program.instructions ∧
      inlined.endsWithNewline = program.endsWithNewline := by
  cases depth with
  | zero => exact absurd h (expandTo_zero_ne_ok _ _ _)
  | succ depth =>
    obtain ⟨ys, all, rfl⟩ := (expandTo_succ_eq_ok_iff _ _ _ _).1 h
    obtain ⟨y, at_n, yields⟩ := forall₂_getElem?_right all.flip n line position
    cases yields with
    | own plain => simp [kind] at plain
    | @included _ _ _ source nested kind' found fresh expanded =>
      obtain ⟨rfl, rfl, rfl⟩ : blanks = _ ∧ run = _ ∧ name = _ := by simpa [kind] using kind'
      obtain ⟨zs, inlined, same⟩ := Yields.exists_inlined kind expanded
      have lines : splitLines (inlineAt template n blanks run source) =
          (splitLines template).take n ++ inlinedLines blanks run source ++
            (splitLines template).drop (n + 1) := by
        have free := newline_notMem_of_mem_splitLines template
        refine splitLines_terminated _ ?_ fun l member => ?_
        · simp [inlinedLines, splitLines_ne_nil]
        · rcases List.mem_append.1 member with member | last
          · rcases List.mem_append.1 member with first | middle
            · exact free l (List.mem_of_mem_take first)
            · exact newline_notMem_inlinedLines kind (free line (List.mem_of_getElem? position)) l
                middle
          · exact free l (List.mem_of_mem_drop last)
      have pieces : ys = ys.take n ++ .included (Quoting.ofRun run).literal
          (Text.spaces context.columns ++ blanks) name nested :: ys.drop (n + 1) := by
        obtain ⟨inside, at_n⟩ := List.getElem?_eq_some_iff.1 at_n
        rw [← at_n, ← List.drop_eq_getElem_cons inside, List.take_append_drop]
      refine ⟨source, _, found, (expandTo_succ_eq_ok_iff _ _ _ _).2
        ⟨ys.take n ++ zs ++ ys.drop (n + 1), ?_, rfl⟩, ?_, ?_⟩
      · rw [lines]
        exact List.rel_append (List.rel_append (List.forall₂_take n all) inlined)
          (List.forall₂_drop (n + 1) all)
      · rw [Program.ofYields_instructions, Program.ofYields_instructions, inlineAt]
        have ends' : (terminated ((splitLines template).take n ++ inlinedLines blanks run source ++
            (splitLines template).drop (n + 1))).getLast? = some 0x0A := terminated_getLast? _
        have ends'' : template.getLast? = some 0x0A := ends
        rw [if_pos ends', if_pos ends'']
        conv => rhs; rw [pieces]
        simp only [List.flatMap_append, List.flatMap_cons, emitted_append, same, List.append_assoc]
      · change (_ == _) = (_ == _)
        rw [ends, inlineAt, terminated_getLast?]

theorem expandTo_of_same_lines {depth : Nat} {context : ExpansionContext} {included : Members Text}
    {template other : Text} {program : Program}
    (h : expandTo depth context template = .ok program)
    (sources : ∀ name, (included.get? name).map splitLines =
      (context.included.get? name).map splitLines)
    (lines : splitLines other = splitLines template) :
    ∃ result, expandTo depth { context with included := included } other = .ok result ∧
      result.spliced = program.spliced ∧
      (other = template → result.instructions = program.instructions) := by
  induction depth generalizing context template other program with
  | zero => exact absurd h (expandTo_zero_ne_ok _ _ _)
  | succ depth ih =>
    obtain ⟨ys, all, rfl⟩ := (expandTo_succ_eq_ok_iff _ _ _ _).1 h
    obtain ⟨zs, resourced, same⟩ := forall₂_exists_map
      (S := Yields { context with included := included } (expandTo depth)) id
      LineYield.instructions all fun line y yields => by
        cases yields with
        | own plain alone => exact ⟨_, .own plain alone, rfl⟩
        | @included blanks _ name source nested kind found fresh expanded =>
          have lines := sources name
          rw [found, Option.map_some] at lines
          obtain ⟨source', found', lines⟩ := Option.map_eq_some_iff.1 lines
          obtain ⟨nested', expanded', spliced, -⟩ := ih expanded sources lines
          refine ⟨_, .included kind found' fresh expanded', ?_⟩
          simp only [LineYield.instructions, spliced]
    rw [List.map_id] at resourced
    refine ⟨_, (expandTo_succ_eq_ok_iff _ _ _ _).2 ⟨zs, lines ▸ resourced, rfl⟩, ?_, ?_⟩
    · rw [Program.ofYields_spliced, Program.ofYields_spliced, same]
    · rintro rfl
      rw [Program.ofYields_instructions, Program.ofYields_instructions, same]

end Expansion

theorem Members.length_set {α : Type} (members : Members α) (key : Text) (old value : α)
    (h : members.get? key = some old) : (members.set key value).length = members.length := by
  induction members with
  | nil => simp [get?] at h
  | cons m rest ih =>
    obtain ⟨k, v⟩ := m
    unfold set
    split
    · rfl
    · rename_i other
      have absent : (key == k) = false := by simpa using fun same => other same.symm
      rw [get?, List.lookup_cons, absent] at h
      rw [List.length_cons, ih h, List.length_cons]

/-- Inclusion is inlining. When expansion accepts a template that ends with a newline, it accepts the
template with the lines of a source in place of an inclusion, and the programs of the two emit the same;
and a newline at the end of a source that has none changes no instruction. -/
theorem expand_inlineAt {columns n : Nat} {style : DelimiterStyle} {included : Members Text}
    {template line blanks run name : Text} {program : Program}
    (h : expand columns style included template = .ok program)
    (ends : template.getLast? = some newline) (position : (splitLines template)[n]? = some line)
    (kind : Line.inclusion? line = some (blanks, run, name)) :
    (∃ source inlined, included.get? name = some source ∧
      expand columns style included (inlineAt template n blanks run source) = .ok inlined ∧
      emitted inlined.instructions = emitted program.instructions ∧
      inlined.endsWithNewline = program.endsWithNewline ∧ inlined.name = program.name) ∧
    ∀ other source, included.get? other = some source → source.getLast? ≠ some newline →
      ∃ closed, expand columns style (included.set other (source ++ [newline])) template =
          .ok closed ∧ closed.instructions = program.instructions := by
  refine ⟨?_, fun other source found open' => ?_⟩
  · obtain ⟨source, inlined, found, expanded, same, same_end⟩ :=
      Expansion.expandTo_inlineAt h ends position kind
    have name_eq (t : Text) (p : Program) (h : expand columns style included t = .ok p) :
        p.name = topLevelName := by
      obtain ⟨ys, -, rfl⟩ := (Expansion.expandTo_succ_eq_ok_iff _ _ _ _).1 h
      rfl
    exact ⟨source, inlined, found, expanded, same, same_end,
      (name_eq _ _ expanded).trans (name_eq _ _ h).symm⟩
  · have sources (known : Text) :
        ((included.set other (source ++ [newline])).get? known).map splitLines =
          (included.get? known).map splitLines := by
      by_cases same : known = other
      · subst same
        rw [Members.get?_set_self, found, Option.map_some, Option.map_some,
          splitLines_concat_newline source open']
      · rw [Members.get?_set_of_ne _ _ _ _ same]
    obtain ⟨closed, expanded, -, same⟩ := Expansion.expandTo_of_same_lines h sources rfl
    refine ⟨closed, ?_, same rfl⟩
    rw [expand, Members.length_set included other source _ found]
    exact expanded

/-- A list and a statement in place of an inclusion with backslashes. -/
theorem expand_inlineAt_list :
    let included : Members Text := [("inner", "$\x7bxs\x7d\n@b")]
    let template : Text := "@a\n \\\\$<inner>\n"
    ∃ program inlined closed, expand 1 .standard included template = .ok program ∧
      expand 1 .standard included "@a\n \\\n $\x7bxs\x7d\n @b\n" = .ok inlined ∧
      emitted inlined.instructions = emitted program.instructions ∧
      expand 1 .standard (included.set "inner" "$\x7bxs\x7d\n@b\n") template = .ok closed ∧
      closed.instructions = program.instructions := by
  intro included template
  have expanded : expand 1 .standard included template = .ok _ := rfl
  obtain ⟨⟨source, inlined, found, accepted, same, -⟩, newlines⟩ :=
    @expand_inlineAt 1 1 .standard included template " \\\\$<inner>" " " "\\\\" "inner" _ expanded rfl
      rfl rfl
  obtain rfl : ("$\x7bxs\x7d\n@b" : Text) = source := Option.some.inj found
  obtain ⟨closed, accepted', same'⟩ := newlines "inner" "$\x7bxs\x7d\n@b" rfl (by decide)
  exact ⟨_, inlined, closed, expanded, accepted, same, accepted', same'⟩

end LineTemplate
