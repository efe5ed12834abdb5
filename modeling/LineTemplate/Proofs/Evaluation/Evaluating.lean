import LineTemplate.Proofs.Evaluation.ArrayItems
import LineTemplate.Proofs.Evaluation.Loading
import LineTemplate.Proofs.Evaluation.Stack
import LineTemplate.Evaluation.Session

/-!
Evaluating a loaded program: the lines that a run yields, and the trail of an error that it raises.
-/

set_option autoImplicit false

namespace LineTemplate

open Script

namespace Cause

def kind : Cause → FailureKind
  | .missing _ => .undefinedReference
  | .notText => .badConversion
  | .notSequence => .evaluation

def expression : Cause → Option Text
  | .missing e => some e
  | .notText | .notSequence => none

end Cause

section

variable {s : Store} {a : Nat} {frames : List Frame} {report : ErrorReport}

theorem ownMessage?_errorObject (found : s.objects[a]? = some (Run.errorObject frames report)) :
    Run.ownMessage? (.ref a) s = .ok (some report.message) s := by
  have member := Run.member_ref found "message"
  rw [(Run.objectMember_errorObject frames report).2.1] at member
  unfold Run.ownMessage?
  change (Run.isFunction (.ref a) >>= _) s = _
  rw [bind_ok (Run.isFunction_ref (Run.kindAt_errorObject found))]
  exact bind_ok member

theorem failureStack_errorObject (found : s.objects[a]? = some (Run.errorObject frames report)) :
    Run.failureStack (.ref a) s = .ok (Run.stackText report.name report.message frames) s := by
  have member := Run.member_ref found "stack"
  rw [(Run.objectMember_errorObject frames report).2.2] at member
  unfold Run.failureStack
  rw [bind_ok (ownMessage?_errorObject found)]
  exact bind_ok member

theorem failureMessage_errorObject (engine : Engine) (active : List Frame)
    (found : s.objects[a]? = some (Run.errorObject frames report)) :
    ∃ said, Run.failureMessage engine active (.ref a) s = .ok said s := by
  have member := Run.member_ref found "name"
  rw [(Run.objectMember_errorObject frames report).1] at member
  unfold Run.failureMessage
  rw [bind_ok (ownMessage?_errorObject found)]
  exact ⟨_, bind_ok member⟩

theorem causeOf_errorObject {cause : Cause} (reported : cause.Reported report)
    (found : s.objects[a]? = some (Run.errorObject frames report)) :
    BoundTemplate.causeOf (.ref a) s = .ok (cause.kind, cause.expression) s := by
  have kind : Run.kind? (.ref a) s = .ok (some (.error report.detail report.name)) s := by
    rw [Run.kind?_ref, Run.kindAt_errorObject found]
  have detail := reported.detail
  unfold BoundTemplate.causeOf
  rw [bind_ok kind]
  cases cause with
  | missing e =>
    rw [detail]
    rfl
  | notText =>
    obtain ⟨t, detail⟩ := detail
    rw [detail]
    rfl
  | notSequence =>
    rw [detail]
    rfl

theorem failed_errorObject (engine : Engine) (active : List Frame) (p : Program) (scope : Nat)
    (main : Value) {callers : List Frame} {cause : Cause} {f : Frame} (reported : cause.Reported report)
    (found : s.objects[a]? = some (Run.errorObject (f :: callers) report))
    (serial : f.serial < 2 * Number.hiddenBit) (line : f.line < 2 * Number.hiddenBit) :
    ∃ trail s', BoundTemplate.failed engine active ⟨p, scope, .script main f.serial⟩ (.ref a) s =
        .ok (.failed trail) s' ∧ trail.kind = cause.kind ∧ trail.expression = cause.expression ∧
      trail.location = (p.traceCodeLine f.line).location := by
  obtain ⟨said, message⟩ := failureMessage_errorObject engine active found
  have described : Run.describeFailure engine active f.serial (.ref a) s =
      .ok (.ofStack said (Run.stackText report.name report.message (f :: callers)) f.serial) s := by
    unfold Run.describeFailure
    rw [bind_ok (failureStack_errorObject found), bind_ok message]
    rfl
  obtain ⟨c, others, starts, visible⟩ := reported.visible
  have known := FailureDescription.line_ofStack starts visible reported.name reported.message serial line
    callers said
  generalize FailureDescription.ofStack said (Run.stackText report.name report.message (f :: callers))
    f.serial = failure at described known
  have ended : ∃ s', BoundTemplate.failed engine active ⟨p, scope, .script main f.serial⟩ (.ref a) s =
      .ok (.failed (.ofFailure p failure cause.kind cause.expression)) s' := by
    change ∃ s', (Run.describeFailure engine active f.serial (.ref a) >>= _) s = _
    rw [bind_ok described]
    rw [bind_ok (causeOf_errorObject reported found)]
    exact ⟨_, rfl⟩
  obtain ⟨s', ended⟩ := ended
  refine ⟨_, s', ended, rfl, rfl, ?_⟩
  change (p.traceKnownLine failure.line).location = _
  rw [known]
  rfl

end

theorem produced_texts (engine : Engine) (active : List Frame) (t : BoundTemplate)
    (o : EvaluationOptions) {s : Store} {a : Nat} {slots : Slots Value} {lines : List Text}
    (array : s.kindAt a = some (.array slots)) (texts : slots.values = lines.map .text) :
    ∃ s', t.produced engine active o (.ref a) s =
      .ok (.produced (.ofLines o (o.keepLines t.program.endsWithNewline lines))) s' := by
  have kind : Run.kind? (.ref a) s = .ok (some (.array slots)) s := by rw [Run.kind?_ref, array]
  have content : Run.itemTexts engine active a s = .ok lines s :=
    Run.itemTexts_of_reads array (texts ▸ Run.forall₂_textOf engine active lines s)
  unfold BoundTemplate.produced
  rw [bind_ok kind]
  change ∃ s', (Run.itemTexts engine active a >>= _) s = _
  rw [bind_ok content]
  exact ⟨_, rfl⟩

theorem produced_lines (engine : Engine) (active : List Frame) (t : BoundTemplate)
    (o : EvaluationOptions) {s : Store} {a : Nat} {lines : List Text}
    (found : s.objects[a]? = some (linesObject lines)) :
    ∃ s', t.produced engine active o (.ref a) s =
      .ok (.produced (.ofLines o (o.keepLines t.program.endsWithNewline lines))) s' := by
  have array : s.kindAt a = some (.array (.ofList (lines.map .text))) := by
    rw [Store.kindAt, found]
    rfl
  exact produced_texts engine active t o array (values_ofList _)

theorem Instruction.Plain.legible {i : Instruction} (plain : i.Plain)
    (free : ∀ boundary name, i = .marker boundary name → ∀ c ∈ name, c.isLineEnd = false) :
    i.Legible := by
  cases i with
  | literal => trivial
  | fields indent segments trailing =>
    intro s inside e expression
    exact ⟨(plain s inside e expression).word, (plain s inside e expression).name⟩
  | list e indent => exact ⟨plain.word, plain.name⟩
  | statement => exact plain
  | marker boundary name => exact free boundary name rfl

/-- What an evaluation does before the run, for a scope without read-only entries. -/
def Script.BoundTemplate.prepare (frames : List Frame) (t : BoundTemplate) (overrides : Members Datum) :
    Run Unit :=
  t.prepareWith frames [] overrides

theorem Script.BoundTemplate.prepare_nil (frames : List Frame) (t : BoundTemplate) :
    t.prepare frames [] = Run.prepareScope t.scope := Run.prepareScopeWith_nil frames t.scope

theorem evaluate_of_attempt {engine : Engine} {active : List Frame} {t : BoundTemplate}
    {o : EvaluationOptions} {overrides : Members Datum} {s₁ s₂ s₃ : Store} {result : Except Value Value}
    (prepared : t.prepare active overrides s₁ = .ok () s₂)
    (attempted : Run.attempt (t.run engine active) s₂ = .ok result s₃) :
    t.evaluate engine active o overrides s₁ =
      match result with
      | .ok v => t.produced engine active o v s₃
      | .error v => t.failed engine active v s₃ := by
  unfold BoundTemplate.prepare at prepared
  unfold BoundTemplate.evaluate BoundTemplate.evaluateWith
  rw [bind_ok prepared, bind_ok attempted]
  cases result <;> rfl

theorem attempt_ok {run : Run Value} {s s' : Store} {v : Value} (h : run s = .ok v s') :
    Run.attempt run s = .ok (.ok v) s' := Run.tryCatch_ok (bind_ok h)

theorem attempt_thrown {run : Run Value} {s s' : Store} {v : Value} (h : run s = .error (.thrown v) s') :
    Run.attempt run s = .ok (.error v) s' := Run.tryCatch_error (bind_error h)

theorem evaluate_of_call {engine : Engine} {active : List Frame} {p : Program} {scope serial : Nat}
    {main : Value} {s₁ s₂ s₃ : Store} {a : Nat} {lines : List Text} (o : EvaluationOptions)
    (prepared : Run.prepareScope scope s₁ = .ok () s₂)
    (called : engine.call active main .undefined [] s₂ = .ok (.ref a) s₃)
    (output : s₃.objects[a]? = some (linesObject lines)) :
    ∃ s₄, BoundTemplate.evaluate engine active ⟨p, scope, .script main serial⟩ o [] s₁ =
      .ok (.produced (.ofLines o (o.keepLines p.endsWithNewline lines))) s₄ := by
  have set_up : BoundTemplate.prepare active ⟨p, scope, .script main serial⟩ [] s₁ = .ok () s₂ :=
    (congrFun (BoundTemplate.prepare_nil active _) s₁).trans prepared
  have ran : BoundTemplate.run engine active ⟨p, scope, .script main serial⟩ s₂ = .ok (.ref a) s₃ := called
  obtain ⟨s₄, produced⟩ := produced_lines engine active ⟨p, scope, .script main serial⟩ o output
  exact ⟨s₄, (evaluate_of_attempt set_up (attempt_ok ran)).trans produced⟩

theorem readied_of_output {engine : Engine} {p : Program} {scope : Nat} {s s₁ s₂ : Store}
    {bound : BoundTemplate} {isBody : List Stmt → Prop} {x : Expr} {spot : Spot}
    (parsed : parse p.code = .ok [.expr x spot]) (isFunction : IsOutputFunction isBody x)
    (keeps : ∀ {body}, isBody body → ∀ s p, isBody (placeBlock s body p).1)
    (loaded : Run.load engine p scope .script s = .ok (.loaded bound) s₁)
    (prepared : Run.prepareScope scope s₁ = .ok () s₂) :
    s.Readied scope s₂ ∧ ∀ o, s.objects[scope]? = some o →
      s₂.Has scope textHelperName (.textHelper scope) ∧ s₂.Has scope listHelperName (.listHelper scope) := by
  obtain ⟨main, s₁', loaded', -, readied, -⟩ := Run.load_output engine scope s parsed isFunction keeps
  rw [loaded] at loaded'
  cases loaded'
  obtain ⟨s₂', prepared', -, -, readied', helpers⟩ := Run.prepareScope_readied scope s₁
  rw [prepared] at prepared'
  cases prepared'
  refine ⟨readied.trans readied', fun o found => ?_⟩
  obtain ⟨members, found', -⟩ := readied.entries o found
  exact helpers _ found'

theorem readied_of_load {engine : Engine} {p : Program} {scope : Nat} {s s₁ s₂ : Store}
    {bound : BoundTemplate} (legible : ∀ i ∈ p.instructions, i.Legible)
    (loaded : Run.load engine p scope .script s = .ok (.loaded bound) s₁)
    (prepared : Run.prepareScope scope s₁ = .ok () s₂) :
    s.Readied scope s₂ ∧ ∀ o, s.objects[scope]? = some o →
      s₂.Has scope textHelperName (.textHelper scope) ∧ s₂.Has scope listHelperName (.listHelper scope) := by
  obtain ⟨x, spot, parsed, isProgram⟩ := parse_code p legible
  exact readied_of_output parsed isProgram (fun isBody => isBody.place) loaded prepared

/-- A program without statements can be loaded. An evaluation yields the lines that the interpretation of
its instructions yields, as far as the options keep them. If the interpretation fails and each instruction
keeps to its line, the evaluation fails with a trail that leads to the instruction at which it does. -/
theorem load_evaluate (depth scope : Nat) {p : Program} (s : Store)
    (plain : ∀ i ∈ p.instructions, i.Plain) (legible : ∀ i ∈ p.instructions, i.Legible) :
    ∃ bound s₁ s₂, Run.load (.nested (depth + 3)) p scope .script s = .ok (.loaded bound) s₁ ∧
      Run.prepareScope scope s₁ = .ok () s₂ ∧
      ∀ {σ : Type} {b : Behaviour σ} {holds : σ → Own → Option Cursor → Store → Prop} (w : σ),
        Realizes b (.nested (depth + 1)) scope holds → holds w ⟨[], [s.scopes.size]⟩ none s₂ →
        ∀ (active : List Frame) (o : EvaluationOptions),
        match b.interpret p.instructions ⟨w, [], 0⟩ with
        | .ok _ em => ∃ s₃, bound.evaluate (.nested (depth + 3)) active o [] s₁ =
            .ok (.produced (.ofLines o (o.keepLines p.endsWithNewline em.lines))) s₃
        | .error (.failed cause) em => (∀ i ∈ p.instructions, i.OnOneLine) →
            s.nextSerial < 2 * Number.hiddenBit → em.done + 2 < 2 * Number.hiddenBit →
            ∃ trail s₃, bound.evaluate (.nested (depth + 3)) active o [] s₁ = .ok (.failed trail) s₃ ∧
              trail.kind = cause.kind ∧ trail.expression = cause.expression ∧
              trail.location = (p.traceCodeLine (em.done + 2 : Nat)).location
        | .error .unknown _ => True := by
  obtain ⟨main, s₁, loaded, scopes, -, kind, found, isMain⟩ :=
    Run.load_program (.nested (depth + 3)) scope s legible
  obtain ⟨s₂, prepared, scopes', -, readied, -⟩ := Run.prepareScope_readied scope s₁
  refine ⟨_, s₁, s₂, loaded, prepared, fun w real h active o => ?_⟩
  have set_up : BoundTemplate.prepare active ⟨p, scope, .script (.ref main) s.nextSerial⟩ [] s₁ =
      .ok () s₂ := (congrFun (BoundTemplate.prepare_nil active _) s₁).trans prepared
  have outside : s₂.scopes[s.scopes.size]? = some [] := by
    rw [scopes', scopes]
    exact Array.getElem?_push_size
  have called := call_program ⟨scope, s.nextSerial⟩ real plain isMain (readied.kindAt found) outside h active
  cases result : Behaviour.interpret _ p.instructions ⟨w, [], 0⟩ with
  | ok _ em =>
    rw [result] at called
    obtain ⟨a, s₃, returned, output⟩ := called
    exact evaluate_of_call o prepared returned output
  | error ending em =>
    rw [result] at called
    cases ending with
    | unknown => trivial
    | failed cause =>
      obtain ⟨l, own, stop, s₃, here, raised, a, report, rfl, -, error, reported⟩ := called
      have ran : BoundTemplate.run (.nested (depth + 3)) active
          ⟨p, scope, .script (.ref main) s.nextSerial⟩ s₂ = .error (.thrown (.ref a)) s₃ := raised
      intro single serial line
      rw [here single] at error
      obtain ⟨trail, s₄, failed, facts⟩ := failed_errorObject (.nested (depth + 3)) active p scope
        (.ref main) reported error serial line
      exact ⟨trail, s₄, (evaluate_of_attempt set_up (attempt_thrown ran)).trans failed, facts⟩

end LineTemplate
