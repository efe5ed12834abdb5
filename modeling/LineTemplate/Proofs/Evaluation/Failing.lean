import LineTemplate.Proofs.Evaluation.Data

/-!
The first failure of a program without statements, and the line of the template that it is traced to.
-/

set_option autoImplicit false

namespace LineTemplate

open Script

/-- Steps within an instruction: the number of instructions that are done stays the same. -/
def Direct.Within {σ α : Type} (x : Direct σ α) : Prop :=
  ∀ em, match x em with
    | .ok _ em' | .error _ em' => em'.done = em.done

namespace Direct.Within

variable {σ α β : Type}

theorem bind {x : Direct σ α} {f : α → Direct σ β} (first : x.Within) (second : ∀ a, (f a).Within) :
    Within (x >>= f) := by
  intro em
  have before := first em
  cases result : x em with
  | error e em' =>
    rw [result] at before
    rw [bind_error result]
    exact before
  | ok a em' =>
    rw [result] at before
    rw [bind_ok result]
    have after := second a em'
    cases rest : f a em' <;> rw [rest] at after <;> exact after.trans before

theorem pure (a : α) : Within (Pure.pure a : Direct σ α) := fun _ => rfl

theorem throw (e : Ending) : Within (MonadExcept.throw e : Direct σ α) := fun _ => rfl

theorem step (f : σ → Option (α × σ)) : Within (Direct.step f) := by
  intro em
  cases taken : f em.world with
  | none => rw [Direct.step_none taken]
  | some r => rw [Direct.step_some taken]

theorem append (line t : Text) : Within (Direct.append line t : Direct σ Text) := by
  unfold Direct.append
  split
  · exact throw _
  · exact pure _

theorem emitLine (line : Text) : Within (Direct.emitLine line : Direct σ Unit) := by
  intro em
  have cases : Direct.emitLine line em =
      (if em.lines.length < Items.arrayLimit then
        modify fun s => { s with lines := s.lines ++ [line] }
      else MonadExcept.throw Ending.unknown : Direct σ Unit) em := rfl
  rw [cases]
  by_cases room : em.lines.length < Items.arrayLimit
  · rw [if_pos room]
    rfl
  · rw [if_neg room]
    rfl

end Direct.Within

namespace Behaviour

open Direct

variable {σ : Type} (b : Behaviour σ)

theorem text_within (e : Text) (v : Value) : (b.text e v).Within := by
  unfold text
  split
  · exact .throw _
  · refine .bind (.step _) fun result => ?_
    cases result with
    | text t => exact .pure t
    | _ => exact .throw _

theorem value_within (e : Text) : (b.value e).Within := by
  intro em
  cases entry : b.entry em.world e with
  | none => rw [value_none entry]
  | some v => rw [value_some entry]

theorem segment_within (line : Text) (s : Segment) : (b.segment line s).Within := by
  refine .bind (.append line s.lead) fun line => ?_
  cases s.expression with
  | none => exact .pure line
  | some e => exact .bind (.bind (b.value_within e) fun v => b.text_within e v) fun t => .append line t

theorem foldlM_segment_within (segments : List Segment) (line : Text) :
    (segments.foldlM b.segment line).Within := by
  induction segments generalizing line with
  | nil => exact .pure line
  | cons s rest ih => exact .bind (b.segment_within line s) ih

theorem items_within (e indent : Text) (limit : Nat) (found : Bool) :
    (b.items e indent limit found).Within := by
  induction limit generalizing found with
  | zero => exact .throw _
  | succ limit ih =>
    refine .bind (.step _) fun item => ?_
    cases item with
    | none => exact .pure found
    | some v => exact .bind (.bind (b.text_within e v) fun t => .emitLine _) fun _ => ih true

theorem list_within (e indent : Text) : (b.list e indent).Within := by
  refine .bind (b.value_within e) fun v => ?_
  unfold sequence
  split
  · exact .throw _
  · refine .bind (.step _) fun limit => ?_
    cases limit with
    | none => exact .throw _
    | some limit =>
      refine .bind (b.items_within e indent limit false) fun found => ?_
      change Within (if _ then _ else _)
      split
      · exact .emitLine indent
      · exact .pure ()

theorem emit_within (i : Instruction) : (b.emit i).Within := by
  cases i with
  | literal t => exact .emitLine t
  | fields indent segments trailing =>
    exact .bind (b.foldlM_segment_within segments indent) fun line =>
      .bind (.append line trailing) fun line => .emitLine line
  | list e indent => exact b.list_within e indent
  | statement => exact .throw _
  | marker => exact .pure ()

/-- The instructions before `i` are done, and this one fails, after what it has emitted so far. -/
def FailsAt (instructions : List Instruction) (w : σ) (i : Nat) (cause : Cause) : Prop :=
  ∃ instruction em em', instructions[i]? = some instruction ∧
    b.interpret (instructions.take i) ⟨w, [], 0⟩ = .ok () em ∧
    b.emit instruction em = .error (.failed cause) em'

variable {b}

theorem interpret_done {instructions : List Instruction} {em em' : Emission σ}
    (h : b.interpret instructions em = .ok () em') : em'.done = em.done + instructions.length := by
  induction instructions generalizing em with
  | nil =>
    cases h
    rfl
  | cons i rest ih =>
    have within := b.emit_within i em
    cases result : b.emit i em with
    | error e stop =>
      have failed : b.interpret (i :: rest) em = .error e stop := bind_error result
      rw [failed] at h
      cases h
    | ok u em₁ =>
      rw [result] at within
      have next : b.interpret (i :: rest) em = b.interpret rest { em₁ with done := em₁.done + 1 } :=
        bind_ok result
      rw [next] at h
      have later := ih h
      rw [List.length_cons]
      change em'.done = em₁.done + 1 + rest.length at later
      change em₁.done = em.done at within
      omega

theorem interpret_append (first second : List Instruction) {em em' : Emission σ}
    (h : b.interpret first em = .ok () em') :
    b.interpret (first ++ second) em = b.interpret second em' := by
  induction first generalizing em with
  | nil =>
    cases h
    rfl
  | cons i rest ih =>
    cases result : b.emit i em with
    | error e stop =>
      have failed : b.interpret (i :: rest) em = .error e stop := bind_error result
      rw [failed] at h
      cases h
    | ok u em₁ =>
      have next (more : List Instruction) : b.interpret (i :: more) em =
          b.interpret more { em₁ with done := em₁.done + 1 } := bind_ok result
      rw [next] at h
      rw [List.cons_append, next]
      exact ih h

/-- An interpretation ends at the first failure. -/
theorem FailsAt.interpret {instructions : List Instruction} {w : σ} {i : Nat} {cause : Cause}
    (h : b.FailsAt instructions w i cause) :
    ∃ em, b.interpret instructions ⟨w, [], 0⟩ = .error (.failed cause) em ∧ em.done = i := by
  obtain ⟨instruction, em, em', here, before, failed⟩ := h
  obtain ⟨inside, rfl⟩ := List.getElem?_eq_some_iff.1 here
  have split : instructions = instructions.take i ++ instructions[i] :: instructions.drop (i + 1) := by
    rw [← List.drop_eq_getElem_cons inside, List.take_append_drop]
  have stopped : b.interpret (instructions[i] :: instructions.drop (i + 1)) em =
      .error (.failed cause) em' := bind_error failed
  -- The failing instruction is not done, and it leaves the count as it was.
  have within := b.emit_within instructions[i] em
  rw [failed] at within
  have count := interpret_done before
  rw [List.length_take, Nat.min_eq_left (Nat.le_of_lt inside)] at count
  refine ⟨em', ?_, ?_⟩
  · rw [split, interpret_append _ _ before]
    exact stopped
  · change em'.done = em.done at within
    change em.done = 0 + i at count
    omega

end Behaviour

namespace Contents

variable {σ : Type} {d : Contents σ} {w : σ} {left : List Value} {out : List Text} {n : Nat}

theorem items_missing {vs rest : List Value} {missing : Value} (e indent : Text)
    (covers : ∀ v ∈ vs, v.isMissing = false ∧ d.Shows v) (absent : missing.isMissing = true) {limit : Nat}
    (enough : vs.length < limit) (room : out.length + vs.length ≤ Items.arrayLimit) (found : Bool) :
    ∃ em, d.behaviour.items e indent limit found ⟨(w, vs ++ missing :: rest), out, n⟩ =
      .error (.failed (.missing e)) em := by
  induction vs generalizing w out limit found with
  | nil =>
    obtain ⟨limit, rfl⟩ : ∃ m, limit = m + 1 := ⟨limit - 1, by omega⟩
    have taken : Direct.step d.behaviour.next ⟨(w, missing :: rest), out, n⟩ =
        .ok (some missing) ⟨(w, rest), out, n⟩ := Direct.step_some rfl
    have failed : d.behaviour.text e missing ⟨(w, rest), out, n⟩ =
        .error (.failed (.missing e)) ⟨(w, rest), out, n⟩ := by
      unfold Behaviour.text
      rw [if_pos absent]
      rfl
    refine ⟨⟨(w, rest), out, n⟩, ?_⟩
    rw [List.nil_append]
    unfold Behaviour.items
    rw [bind_ok taken]
    exact bind_error (bind_error failed)
  | cons v vs ih =>
    rw [List.length_cons] at enough room
    obtain ⟨limit, rfl⟩ : ∃ m, limit = m + 1 := ⟨limit - 1, by omega⟩
    obtain ⟨present, shown⟩ := covers v List.mem_cons_self
    have taken : Direct.step d.behaviour.next ⟨(w, v :: (vs ++ missing :: rest)), out, n⟩ =
        .ok (some v) ⟨(w, vs ++ missing :: rest), out, n⟩ := Direct.step_some rfl
    obtain ⟨t, w', converted⟩ := shown w
    have emitted : d.behaviour.item e indent v ⟨(w, vs ++ missing :: rest), out, n⟩ = .ok () _ :=
      Behaviour.item_eq present (convert_text converted _) e indent (by omega)
    have space (line : Text) : (out ++ [line]).length + vs.length ≤ Items.arrayLimit := by
      rw [List.length_append, List.length_singleton]
      omega
    obtain ⟨em, failed⟩ := ih (fun v inside => covers v (List.mem_cons_of_mem _ inside))
      (by omega : vs.length < limit) (space _) true
    refine ⟨em, ?_⟩
    rw [List.cons_append]
    unfold Behaviour.items
    rw [bind_ok taken]
    change (d.behaviour.item e indent v >>= _) _ = _
    rw [bind_ok emitted]
    exact failed

theorem emit_missing {e : Text} {a : Nat} {vs rest : List Value} {missing : Value} (indent : Text)
    (entry : d.entry w e = some (.ref a)) (items : d.items a = some (vs ++ missing :: rest))
    (covers : ∀ v ∈ vs, v.isMissing = false ∧ d.Shows v) (absent : missing.isMissing = true)
    (room : out.length + vs.length ≤ Items.arrayLimit) :
    ∃ em, d.behaviour.emit (.list e indent) ⟨(w, left), out, n⟩ = .error (.failed (.missing e)) em := by
  have enough : vs.length < (vs ++ missing :: rest).length + 1 := by
    rw [List.length_append]
    omega
  obtain ⟨em, failed⟩ : ∃ em, d.behaviour.items e indent ((vs ++ missing :: rest).length + 1) false
      ⟨(w, vs ++ missing :: rest), out, n⟩ = .error (.failed (.missing e)) em :=
    items_missing e indent covers absent enough room false
  exact ⟨em, (Behaviour.list_starts indent entry rfl (start_items (w, left) items)).trans (bind_error failed)⟩

end Contents

/-- Where the first field or list of a template without statements fails, an evaluation fails with the trail
of the instruction at which it does, and tells the cause. The templates hold no line ends but newlines, since
other ones would put the code of later instructions on other lines. -/
theorem evaluate_failure {columns : Nat} {style : DelimiterStyle} {included : Members Text}
    {template : Text} {p : Program} (expanded : expand columns style included template = .ok p)
    (newlines : ∀ c ∈ template, c.isLineEnd = true → c = newline)
    (includedNewlines : ∀ name source, included.get? name = some source →
      ∀ c ∈ source, c.isLineEnd = true → c = newline)
    (plain : ∀ i ∈ p.instructions, i.Plain) (size : p.instructions.length ≤ Items.arrayLimit)
    (depth scope : Nat) (s : Store) (serial : s.nextSerial < 2 * Number.hiddenBit) :
    ∃ bound s₁ s₂, Run.load (.nested (depth + 3)) p scope .script s = .ok (.loaded bound) s₁ ∧
      Run.prepareScope scope s₁ = .ok () s₂ ∧
      ∀ {σ : Type} (b : Behaviour σ) {holds : σ → Own → Option Cursor → Store → Prop} (w : σ),
        Realizes b (.nested (depth + 1)) scope holds → holds w ⟨[], [s.scopes.size]⟩ none s₂ →
        ∀ i cause, b.FailsAt p.instructions w i cause → ∀ active o, ∃ trail s₃,
          bound.evaluate (.nested (depth + 3)) active o [] s₁ = .ok (.failed trail) s₃ ∧
          trail.location = (traceInstruction p i (i + 2) []).location ∧
          trail.kind = cause.kind ∧ trail.expression = cause.expression := by
  obtain ⟨bound, s₁, s₂, loaded, prepared, run⟩ :=
    load_evaluate depth scope s plain (expand_legible expanded plain)
  refine ⟨bound, s₁, s₂, loaded, prepared, fun b _ w real h i cause fails active o => ?_⟩
  have inside : i < p.instructions.length := by
    obtain ⟨instruction, -, -, here, -⟩ := fails
    exact (List.getElem?_eq_some_iff.1 here).1
  obtain ⟨em, interpreted, done⟩ := fails.interpret
  have evaluated := run w real h active o
  rw [interpreted] at evaluated
  have line : em.done + 2 < 2 * Number.hiddenBit := by
    unfold Items.arrayLimit at size
    unfold Number.hiddenBit
    omega
  have single := onOneLine_of_mem expanded newlines includedNewlines
  obtain ⟨trail, s₃, failed, kind, expression, location⟩ := evaluated single serial line
  refine ⟨trail, s₃, failed, ?_, kind, expression⟩
  rw [location, done]
  have back : Instruction.atCodeLine ((i + 2 : Nat) : Int) = i := by
    unfold Instruction.atCodeLine
    omega
  unfold Program.traceCodeLine
  rw [back]
  rfl

/-- An item that is null, in a list of an included template. -/
theorem evaluate_failure_included :
    let included : Members Text := [("inner", "- $(x)\n$\x7bxs\x7d")]
    let template : Text := "$(x)\n  $<inner>\nend\n"
    let array : Obj := .ofKind (.array (.ofList [.text "b", .null, .text "c"]))
    let scope : Obj := { Obj.ofKind .plain with members := [("x", .text "a"), ("xs", .ref 12)] }
    let s := (Store.empty.addObject array).addObject scope
    ∃ p bound s₁ trail s₂, expand 0 .standard included template = .ok p ∧
      Run.load (.nested 3) p 13 .script s = .ok (.loaded bound) s₁ ∧
      bound.evaluate (.nested 3) [] ⟨false, true, true⟩ [] s₁ = .ok (.failed trail) s₂ ∧
      trail.location = [⟨topLevelName, 2⟩, ⟨"inner", 2⟩] ∧ trail.kind = .undefinedReference ∧
      trail.expression = some "xs" := by
  intro included template array scope s
  obtain ⟨p, inner, expanded, instructions, here, record, there, outer_name, inner_name⟩ :
      ∃ p inner, expand 0 .standard included template = .ok p ∧
      p.instructions = [.fields [] [⟨[], some "x"⟩] [], .marker .opening "inner",
        .fields "  " [⟨"- ", some "x"⟩] [], .list "xs" "  ", .marker .closing "inner", .literal "end",
        .literal []] ∧
      elementAt? p.sourceMap 3 = some (.included "inner" 0) ∧
      elementAt? p.inclusions 0 = some ⟨"inner", inner, 2, 2⟩ ∧
      elementAt? inner.sourceMap 1 = some (.line 2) ∧ p.name = topLevelName ∧
      inner.name = "inner" :=
    ⟨_, _, by with_unfolding_all rfl, by with_unfolding_all rfl, by with_unfolding_all rfl,
      by with_unfolding_all rfl, by with_unfolding_all rfl, rfl, rfl⟩
  have traced : (traceInstruction p 3 5 []).location = [⟨topLevelName, 2⟩, ⟨"inner", 2⟩] := by
    have last : (traceInstruction inner (3 - 2) 5 ([] ++ ("  " : Text))).location = [⟨inner.name, 2⟩] :=
      traceInstruction_of_line inner 1 5 2 _ there
    have whole := traceInstruction_of_included p 3 5 0 [] "inner" _ here record
      fun none => absurd (last.symm.trans none) (List.cons_ne_nil _ _)
    rw [whole, last, outer_name, inner_name]
  have plain : ∀ i ∈ p.instructions, i.Plain := by
    rw [instructions]
    decide
  have size : p.instructions.length ≤ Items.arrayLimit := by
    rw [instructions]
    decide
  have newlines : ∀ c ∈ template, c.isLineEnd = true → c = newline := by decide
  have includedNewlines : ∀ name source, included.get? name = some source →
      ∀ c ∈ source, c.isLineEnd = true → c = newline := by
    intro name source found
    obtain ⟨-, rfl⟩ := Prod.mk.inj (List.mem_singleton.1 (Members.mem_of_get? found))
    decide
  obtain ⟨bound, s₁, s₂, loaded, prepared, run⟩ :=
    evaluate_failure expanded newlines includedNewlines plain size 0 13 s (by decide)
  obtain ⟨has, grown, more⟩ := contents_of_load 0 (expand_legible expanded plain) loaded prepared rfl rfl
  have covers : ∀ i ∈ p.instructions.take 3, ((s.contents 13).without providedNames).Covers i := by
    rw [instructions]
    exact fun i inside => Contents.covers_of_covered _ ((by decide : ∀ i ∈ _, _ = true) i inside)
  have lines : (((s.contents 13).without providedNames).lines () (p.instructions.take 3)).1 =
      ["a", "  - a"] := by
    rw [instructions]
    decide
  rw [← more.lines covers] at lines
  obtain ⟨⟨⟨⟨⟩, left⟩, out, n⟩, interpreted, emitted⟩ :
      ∃ em, (s₂.contents 13).behaviour.interpret (p.instructions.take 3) ⟨((), []), [], 0⟩ = .ok () em ∧
        em.lines = [] ++ ((s₂.contents 13).lines () (p.instructions.take 3)).1 :=
    Contents.interpret_eq (fun i inside => plain i (List.mem_of_mem_take inside))
      (fun i inside => more.covers (covers i inside)) (by rw [lines]; decide) (by rw [lines]; decide)
  have items : (s₂.contents 13).items 12 = some ([.text "b"] ++ .null :: [.text "c"]) := more.items rfl
  have first : ∀ v ∈ [Value.text "b"], v.isMissing = false ∧ (s₂.contents 13).Shows v := by
    intro v inside
    rw [List.mem_singleton.1 inside]
    exact ⟨rfl, fun _ => ⟨"b", (), more.convert rfl⟩⟩
  have room : out.length + 1 ≤ Items.arrayLimit := by
    rw [lines] at emitted
    subst emitted
    decide
  obtain ⟨em, failed⟩ : ∃ em, (s₂.contents 13).behaviour.emit (.list "xs" "  ") ⟨((), left), out, n⟩ =
      .error (.failed (.missing "xs")) em :=
    Contents.emit_missing "  " (more.entry rfl) items first rfl room
  obtain ⟨trail, s₃, evaluated, location, kind, expression⟩ :=
    run (s₂.contents 13).behaviour ((), []) (realizes_of_hasContents has) ⟨grown _, trivial⟩ 3 (.missing "xs")
      ⟨_, _, _, by rw [instructions]; rfl, interpreted, failed⟩ [] ⟨false, true, true⟩
  exact ⟨p, bound, s₁, trail, s₃, expanded, loaded, evaluated, location.trans traced, kind, expression⟩

end LineTemplate
