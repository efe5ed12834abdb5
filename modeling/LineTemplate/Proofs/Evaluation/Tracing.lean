import LineTemplate.Proofs.Evaluation.Effects
import LineTemplate.Proofs.Evaluation.Returning

/-!
The log of a session. A load tells that a template was expanded, and then what came of its compilation. An
evaluation tells how it ended after the entries of all evaluations nested in it, but for one that ends with
something other than a list: it fails and writes nothing.
-/

set_option autoImplicit false

namespace LineTemplate

open Script

namespace Program

def expandedEntry (p : Program) : LogRecord :=
  ⟨.debug, "Template expanded", .record [("lines", .ofNat p.sourceLines.length),
    ("instructions", .ofNat p.instructions.length),
    ("inclusions", .array (p.inclusions.map fun i => .text i.name))]⟩

def compiledEntry (p : Program) : LogRecord :=
  ⟨.debug, "Template compiled", .record [("instructions", .ofNat p.instructions.length)]⟩

end Program

def ErrorTrail.compilationEntry (trail : ErrorTrail) : LogRecord :=
  ⟨.debug, "Template compilation failed",
    .record [("message", .text trail.message), ("location", trail.locationDatum)]⟩

namespace Script.BoundTemplate

def evaluatedEntry (t : BoundTemplate) (lines : Nat) : LogRecord :=
  ⟨.debug, "Template evaluated",
    .record [("template", .text t.program.name), ("lines", .ofNat lines)]⟩

def failureEntry (t : BoundTemplate) (trail : ErrorTrail) : LogRecord :=
  ⟨.debug, "Template evaluation failed",
    .record [("template", .text t.program.name), ("kind", .text trail.kind.name),
      ("location", trail.locationDatum)]⟩

/-- The result of an evaluation whose run has ended in a store, and the entries that the evaluation adds on
its own. -/
inductive Concludes (t : BoundTemplate) (o : EvaluationOptions) (s : Store) :
    Except Value Value → EvaluationResult → List LogRecord → Prop
  | produced {v : Value} {slots : Slots Value} (kept : List Text)
      (list : Run.kind? v s = .ok (some (.array slots)) s) :
      Concludes t o s (.ok v) (.produced (.ofLines o kept)) [t.evaluatedEntry kept.length]
  | unlisted {v : Value} (trail : ErrorTrail)
      (other : ∀ slots, Run.kind? v s ≠ .ok (some (.array slots)) s) :
      Concludes t o s (.ok v) (.failed trail) []
  | failed {v : Value} (trail : ErrorTrail) :
      Concludes t o s (.error v) (.failed trail) [t.failureEntry trail]

end Script.BoundTemplate

/-- The log grows by evaluations of loaded templates, one after the other. Each writes the entries of the
evaluations nested in it first, and then its own; one that breaks off with an error writes none of its
own. -/
inductive Evaluations (templates : Members BoundTemplate) : List LogRecord → List LogRecord → Prop
  | none (log : List LogRecord) : Evaluations templates log log
  | result {log nested own : List LogRecord} {depth : Nat} {id : Text} {frames : List Frame}
      {t : BoundTemplate} {o : EvaluationOptions} {overrides : Members Datum} {s s₁ s₂ s' : Store}
      {ending : Except Value Value} {result : EvaluationResult}
      (before : Evaluations templates log s.log) (same : s.templates = templates)
      (loaded : templates.get? id = some t)
      (evaluated : t.evaluate (.nested depth) frames o overrides s = .ok result s')
      (prepared : t.prepare frames overrides s = .ok () s₁)
      (ended : Run.attempt (t.run (.nested depth) frames) s₁ = .ok ending s₂)
      (inside : Evaluations templates s.log nested) (concluded : t.Concludes o s₂ ending result own)
      (written : s'.log = nested ++ own) : Evaluations templates log s'.log
  | broken {log : List LogRecord} {depth : Nat} {id : Text} {frames : List Frame} {t : BoundTemplate}
      {o : EvaluationOptions} {overrides : Members Datum} {s s' : Store} {stop : Stop}
      (before : Evaluations templates log s.log) (same : s.templates = templates)
      (loaded : templates.get? id = some t)
      (evaluated : t.evaluate (.nested depth) frames o overrides s = .error stop s')
      (inside : Evaluations templates s.log s'.log) : Evaluations templates log s'.log

theorem Evaluations.trans {templates : Members BoundTemplate} {log mid last : List LogRecord}
    (first : Evaluations templates log mid) (second : Evaluations templates mid last) :
    Evaluations templates log last := by
  induction second with
  | none => exact first
  | result _ same loaded evaluated prepared ended inside concluded written before _ =>
    exact .result (before first) same loaded evaluated prepared ended inside concluded written
  | broken _ same loaded evaluated inside before _ =>
    exact .broken (before first) same loaded evaluated inside

/-- What every run does to a store: no object is lost, the same templates are loaded, and the log has the
entries of evaluations added. -/
structure Script.Store.Grows (s s' : Store) : Prop where
  size : s.objects.size ≤ s'.objects.size
  templates : s'.templates = s.templates
  log : Evaluations s.templates s.log s'.log

instance : HeapRelation Store.Grows where
  trans first second :=
    ⟨Nat.le_trans first.size second.size, second.templates.trans first.templates,
      first.log.trans (first.templates ▸ second.log)⟩
  heap size templates log := ⟨size, templates, log ▸ .none _⟩

def Script.Store.logged (s : Store) (entry : LogRecord) : Store := { s with log := s.log ++ [entry] }

namespace Script.BoundTemplate

def failureTrail (engine : Engine) (frames : List Frame) (t : BoundTemplate) (v : Value) :
    Run ErrorTrail := do
  let failure ← t.describeFailure engine frames v
  let (kind, expression) ← causeOf v
  return .ofFailure t.program failure kind expression

theorem failed_logged (engine : Engine) (frames : List Frame) (t : BoundTemplate) (v : Value) (s : Store) :
    t.failed engine frames v s =
      match t.failureTrail engine frames v s with
      | .ok trail s' => .ok (.failed trail) (s'.logged (t.failureEntry trail))
      | .error stop s' => .error stop s' := by
  unfold failed failureTrail
  cases described : t.describeFailure engine frames v s with
  | ok failure s₁ =>
    obtain ⟨⟨kind, expression⟩, known⟩ := causeOf_reads v s₁
    rw [bind_ok described, bind_ok described, bind_ok known, bind_ok known]
    rfl
  | error stop s₁ =>
    rw [bind_error described, bind_error described]

/-- What becomes of a value that a run has returned: only the texts of the items of a list can break off,
and only a list is logged. -/
theorem produced_logged (engine : Engine) (frames : List Frame) (t : BoundTemplate)
    (o : EvaluationOptions) (v : Value) (s : Store) :
    (∃ a slots, Run.kind? v s = .ok (some (.array slots)) s ∧
      t.produced engine frames o v s =
        match Run.itemTexts engine frames a s with
        | .ok content s' =>
          let kept := o.keepLines t.program.endsWithNewline content
          .ok (.produced (.ofLines o kept)) (s'.logged (t.evaluatedEntry kept.length))
        | .error stop s' => .error stop s') ∨
    (∀ slots, Run.kind? v s ≠ .ok (some (.array slots)) s) ∧
      ∃ trail, t.produced engine frames o v s = .ok (.failed trail) s := by
  rcases t.produced_eq engine frames o v s with ⟨a, slots, -, list, steps⟩ | other
  · refine .inl ⟨a, slots, list, ?_⟩
    rw [steps]
    cases texts : Run.itemTexts engine frames a s with
    | ok content s' =>
      rw [bind_ok texts]
      rfl
    | error stop s' => rw [bind_error texts]
  · exact .inr other

theorem leads_failureTrail {R : Store → Store → Prop} [EditRelation R] {engine : Engine}
    [engine.Leads R] (frames : List Frame) (t : BoundTemplate) (v : Value) :
    Run.Leads R (t.failureTrail engine frames v) :=
  Run.leads_bind (t.leads_describeFailure frames v) fun _ =>
    Run.leads_bind (leads_causeOf v) fun _ => Run.leads_pure _

theorem leads_prepare {R : Store → Store → Prop} [EditRelation R] (frames : List Frame)
    (t : BoundTemplate) (overrides : Members Datum) : Run.Leads R (t.prepare frames overrides) := by
  unfold prepare prepareWith
  grind

def conclude (engine : Engine) (frames : List Frame) (t : BoundTemplate) (o : EvaluationOptions) :
    Except Value Value → Run EvaluationResult
  | .ok v => t.produced engine frames o v
  | .error v => t.failed engine frames v

theorem evaluate_of_prepare {engine : Engine} {frames : List Frame} {t : BoundTemplate}
    {overrides : Members Datum} {s s' : Store} (prepared : t.prepare frames overrides s = .ok () s')
    (o : EvaluationOptions) :
    t.evaluate engine frames o overrides s =
      (Run.attempt (t.run engine frames) >>= t.conclude engine frames o) s' := by
  unfold BoundTemplate.prepare at prepared
  unfold BoundTemplate.evaluate BoundTemplate.evaluateWith
  rw [bind_ok prepared]
  refine congrFun (congrArg _ (funext fun ending => ?_)) s'
  cases ending <;> rfl

end Script.BoundTemplate

def Script.BoundTemplate.Leaves (t : BoundTemplate) (engine : Engine) (frames : List Frame)
    (o : EvaluationOptions) (overrides : Members Datum) (s : Store) : EvaluationResult → Store → Prop :=
  fun result s' => ∃ s₁ ending s₂ mid own, t.prepare frames overrides s = .ok () s₁ ∧
    Run.attempt (t.run engine frames) s₁ = .ok ending s₂ ∧ s.Grows mid ∧
    t.Concludes o s₂ ending result own ∧ s' = { mid with log := mid.log ++ own }

theorem evaluate_leaves (engine : Engine) [engine.Leads Store.Grows] (frames : List Frame)
    (t : BoundTemplate) (o : EvaluationOptions) (overrides : Members Datum) (s : Store) :
    match t.evaluate engine frames o overrides s with
    | .ok result s' => t.Leaves engine frames o overrides s result s'
    | .error _ s' => s.Grows s' := by
  obtain ⟨⟨⟩, s₁, prepared⟩ := t.total_prepare frames overrides s
  have first : s.Grows s₁ := (t.leads_prepare frames overrides).ok prepared
  have ran : Run.Leads Store.Grows (Run.attempt (t.run engine frames)) :=
    Run.leads_attempt (t.leads_run frames)
  rw [t.evaluate_of_prepare prepared o]
  cases attempted : Run.attempt (t.run engine frames) s₁ with
  | error stop s₂ =>
    rw [bind_error attempted]
    exact HeapRelation.trans first (ran.error attempted)
  | ok ending s₂ =>
    have second : s.Grows s₂ := HeapRelation.trans first (ran.ok attempted)
    rw [bind_ok attempted]
    -- only a thrown value and a list are told of in the log
    cases ending with
    | error v =>
      have last : Run.Leads Store.Grows (t.failureTrail engine frames v) := t.leads_failureTrail frames v
      change match t.failed engine frames v s₂ with | .ok _ _ => _ | .error _ _ => _
      rw [t.failed_logged engine frames v s₂]
      cases made : t.failureTrail engine frames v s₂ with
      | ok trail mid =>
        exact ⟨s₁, _, s₂, mid, _, prepared, attempted, HeapRelation.trans second (last.ok made),
          .failed trail, rfl⟩
      | error stop s₃ => exact HeapRelation.trans second (last.error made)
    | ok v =>
      change match t.produced engine frames o v s₂ with | .ok _ _ => _ | .error _ _ => _
      rcases t.produced_logged engine frames o v s₂ with
        ⟨a, slots, list, outcome⟩ | ⟨other, trail, failed⟩
      · have last : Run.Leads Store.Grows (Run.itemTexts engine frames a) := Run.leads_itemTexts frames a
        rw [outcome]
        cases made : Run.itemTexts engine frames a s₂ with
        | ok content mid =>
          exact ⟨s₁, _, s₂, mid, _, prepared, attempted, HeapRelation.trans second (last.ok made),
            .produced _ list, rfl⟩
        | error stop s₃ => exact HeapRelation.trans second (last.error made)
      · rw [failed]
        exact ⟨s₁, _, s₂, s₂, [], prepared, attempted, second, .unlisted trail other,
          by rw [List.append_nil]⟩

namespace Script.Run

def bindCompiled (program : Program) (scope : Nat) : Except Diagnostic Executable → Run LoadResult
  | .error diagnostic => do
    let trail := ErrorTrail.ofDiagnostic program diagnostic
    logDebug "Template compilation failed"
      [("message", .text trail.message), ("location", trail.locationDatum)]
    return .failed trail
  | .ok executable => do
    logDebug "Template compiled" [("instructions", .ofNat program.instructions.length)]
    return .loaded ⟨program, scope, executable⟩

theorem load_of_prepare {engine : Engine} {program : Program} {scope : Nat} {s s' : Store}
    (prepared : prepareScope scope (s.logged program.expandedEntry) = .ok () s') (evaluator : Evaluator) :
    load engine program scope evaluator s =
      (compile engine evaluator program.code scope >>= bindCompiled program scope) s' := by
  have announced : logDebug "Template expanded" [("lines", .ofNat program.sourceLines.length),
      ("instructions", .ofNat program.instructions.length),
      ("inclusions", .array (program.inclusions.map fun i => .text i.name))] s =
        .ok () (s.logged program.expandedEntry) := rfl
  unfold load
  rw [bind_ok announced, bind_ok prepared]
  refine congrFun (congrArg _ (funext fun compiled => ?_)) s'
  cases compiled <;> rfl

end Script.Run

/-- What a load leaves: the log tells that the template was expanded, and last what came of its compilation,
if anything did. -/
theorem load_leaves (engine : Engine) [engine.Leads Store.Grows] (program : Program) (scope : Nat)
    (evaluator : Evaluator) (s : Store) :
    match Run.load engine program scope evaluator s with
    | .ok (.loaded t) s' => t.program = program ∧ t.scope = scope ∧
        ∃ mid, (s.logged program.expandedEntry).Grows mid ∧ s' = mid.logged program.compiledEntry
    | .ok (.failed trail) s' => trail.kind = .syntaxError ∧
        ∃ mid, (s.logged program.expandedEntry).Grows mid ∧ s' = mid.logged trail.compilationEntry
    | .error _ s' => (s.logged program.expandedEntry).Grows s' := by
  obtain ⟨⟨⟩, s₁, prepared⟩ := Run.total_prepareScope scope (s.logged program.expandedEntry)
  have first : (s.logged program.expandedEntry).Grows s₁ := (Run.leads_prepareScope scope).ok prepared
  have compiles : Run.Leads Store.Grows (Run.compile engine evaluator program.code scope) :=
    Run.leads_compile evaluator program.code scope
  rw [Run.load_of_prepare prepared]
  cases compiled : Run.compile engine evaluator program.code scope s₁ with
  | error stop s₂ =>
    rw [bind_error compiled]
    exact HeapRelation.trans first (compiles.error compiled)
  | ok outcome s₂ =>
    have second := HeapRelation.trans first (compiles.ok compiled)
    rw [bind_ok compiled]
    cases outcome with
    | error diagnostic => exact ⟨rfl, s₂, second, rfl⟩
    | ok executable => exact ⟨rfl, rfl, s₂, second, rfl⟩

theorem leads_evaluateLoaded (depth : Nat) [(Engine.nested depth).Leads Store.Grows] (frames : List Frame)
    (id : Text) (options : Datum) :
    Run.Leads Store.Grows (Run.evaluateLoaded (.nested depth) frames id options) := by
  intro s
  have stored : (get : Run Store) s = .ok s s := rfl
  have refused (report : ErrorReport) :
      Run.Leads Store.Grows (Run.raise frames report : Run Value) := Run.leads_raise frames report
  unfold Run.evaluateLoaded
  rw [Run.after_congr (bind_ok stored)]
  cases loaded : s.templates.get? id with
  | none => exact refused _ s
  | some t =>
    dsimp only
    cases EvaluationOptions.parse (.spread (.record [("returnAsLines", .bool true)]) options) with
    | error report => exact refused report s
    | ok o =>
      dsimp only
      have left := evaluate_leaves (.nested depth) frames t o [] s
      cases evaluated : t.evaluate (.nested depth) frames o [] s with
      | error stop s' =>
        rw [evaluated] at left
        rw [Run.after_error (bind_error evaluated)]
        exact ⟨left.size, left.templates, .broken (.none _) rfl loaded evaluated left.log⟩
      | ok result s' =>
        rw [evaluated] at left
        obtain ⟨s₁, ending, s₂, mid, own, prepared, ended, grows, concluded, rfl⟩ := left
        have written : s.Grows { mid with log := mid.log ++ own } := ⟨grows.size, grows.templates,
          .result (.none _) rfl loaded evaluated prepared ended grows.log concluded rfl⟩
        rw [Run.after_congr (bind_ok evaluated)]
        refine HeapRelation.trans written ?_
        cases result with
        | failed trail => exact refused _ _
        | produced output =>
          cases output with
          | lines content => exact Run.leads_allocateArray _ _
          | text content => exact GrowthRelation.refl _

theorem nested_leads (depth : Nat) : (Engine.nested depth).Leads Store.Grows := by
  have overflows (frames : List Frame) {α : Type} :
      Run.Leads Store.Grows (Engine.overflow frames : Run α) := Run.leads_raiseRange frames _
  -- the calls that a call makes, evaluations among them, are one level less deep
  induction depth with
  | zero =>
    exact ⟨fun frames f _ _ => Run.leads_bind (Run.leads_entryFrames frames f) fun _ => overflows _,
      fun frames _ => overflows frames⟩
  | succ depth ih =>
    exact ⟨fun frames _ => Run.leads_callFunction frames (leads_evaluateLoaded depth frames) fun address _ =>
        Run.leads_setKind address,
      fun frames address => Run.leads_continueGenerator frames (Run.leads_setKind address)⟩

instance : Engine.standard.Leads Store.Grows := nested_leads Engine.depthLimit

end LineTemplate
