import LineTemplate.Proofs.Evaluation.SessionSteps
import LineTemplate.Proofs.Evaluation.Tracing

/-!
What the steps of a session write to its log.
-/

set_option autoImplicit false

namespace LineTemplate

open Script

def Script.Store.SameLog (s s' : Store) : Prop := s'.log = s.log

instance : HeapRelation Store.SameLog where
  trans first second := second.trans first
  heap _ _ log := log

/-- The step neither loads nor evaluates a template. -/
def Step.IsExternal : Step → Prop
  | .load _ | .evaluate _ _ _ => False
  | _ => True

/-- The answer of a step and the log that it leaves. -/
inductive Session.Logs (s : Session) : Step → StepAnswer → List LogRecord → Prop
  | unexpanded {r : LoadRequest} {report : ErrorReport}
      (refused : Program.ofTemplate r.options r.included r.template = .error report) :
      s.Logs (.load r) (.refused report) s.store.log
  | compiled {r : LoadRequest} {program : Program} {log : List LogRecord}
      (expanded : Program.ofTemplate r.options r.included r.template = .ok program)
      (inside : Evaluations s.store.templates (s.store.log ++ [program.expandedEntry]) log) :
      s.Logs (.load r) (.loaded program.instructions.length) (log ++ [program.compiledEntry])
  | uncompiled {r : LoadRequest} {program : Program} {trail : ErrorTrail} {log : List LogRecord}
      (expanded : Program.ofTemplate r.options r.included r.template = .ok program)
      (kind : trail.kind = .syntaxError)
      (inside : Evaluations s.store.templates (s.store.log ++ [program.expandedEntry]) log) :
      s.Logs (.load r) (.failed trail) (log ++ [trail.compilationEntry])
  /-- The compilation runs code of the template, which may throw. -/
  | interrupted {r : LoadRequest} {program : Program} {answer : StepAnswer} {log : List LogRecord}
      (expanded : Program.ofTemplate r.options r.included r.template = .ok program)
      (inside : Evaluations s.store.templates (s.store.log ++ [program.expandedEntry]) log)
      (thrown : answer.IsError) : s.Logs (.load r) answer log
  | notLoaded {id : Text} (options : Datum) (overrides : Members Datum)
      (missing : s.store.templates.get? id = none) :
      s.Logs (.evaluate id options overrides) .notLoaded s.store.log
  | invalid {id : Text} {t : BoundTemplate} {options : Datum} {report : ErrorReport}
      (overrides : Members Datum) (loaded : s.store.templates.get? id = some t)
      (refused : EvaluationOptions.parse options = .error report) :
      s.Logs (.evaluate id options overrides) (.refused report) s.store.log
  | evaluated {id : Text} {t : BoundTemplate} {options : Datum} {o : EvaluationOptions}
      {overrides : Members Datum} {s₁ s₂ : Store} {ending : Except Value Value}
      {result : EvaluationResult} {log own : List LogRecord}
      (loaded : s.store.templates.get? id = some t) (accepted : EvaluationOptions.parse options = .ok o)
      (prepared : t.prepare [] overrides s.store = .ok () s₁)
      (ended : Run.attempt (t.run .standard []) s₁ = .ok ending s₂)
      (inside : Evaluations s.store.templates s.store.log log)
      (concluded : t.Concludes o s₂ ending result own) :
      s.Logs (.evaluate id options overrides) result.answer (log ++ own)
  /-- What is converted after the run may throw. -/
  | broken {id : Text} {t : BoundTemplate} {options : Datum} {o : EvaluationOptions}
      {overrides : Members Datum} {answer : StepAnswer} {log : List LogRecord}
      (loaded : s.store.templates.get? id = some t) (accepted : EvaluationOptions.parse options = .ok o)
      (inside : Evaluations s.store.templates s.store.log log) (thrown : answer.IsError) :
      s.Logs (.evaluate id options overrides) answer log
  | external {step : Step} (answer : StepAnswer) (other : step.IsExternal) : s.Logs step answer s.store.log

namespace Session

theorem targetScope_templates (s : Session) (name : Option Text) :
    (s.targetScope name).1.store.templates = s.store.templates ∧
      (s.targetScope name).1.store.log = s.store.log := by
  have grown : s.store.Grows (s.targetScope name).1.store := s.targetScope_leads name
  have same : s.store.SameLog (s.targetScope name).1.store := s.targetScope_leads name
  exact ⟨grown.templates, same⟩

theorem load_logs (s : Session) (r : LoadRequest) :
    s.Logs (.load r) (s.load r).1 (s.load r).2.store.log := by
  obtain ⟨templates, log⟩ := s.targetScope_templates r.scope
  cases expanded : Program.ofTemplate r.options r.included r.template with
  | error report =>
    rw [load_of_error expanded]
    dsimp only
    rw [log]
    exact .unexpanded expanded
  | ok program =>
    rw [load_of_ok expanded]
    generalize s.targetScope r.scope = target at templates log
    obtain ⟨t, scope⟩ := target
    dsimp only at templates log ⊢
    have left := load_leaves .standard program scope r.evaluator t.store
    have start : (t.store.logged program.expandedEntry).log = s.store.log ++ [program.expandedEntry] :=
      congrArg (· ++ [program.expandedEntry]) log
    have inside {mid : Store} (grows : (t.store.logged program.expandedEntry).Grows mid) :
        Evaluations s.store.templates (s.store.log ++ [program.expandedEntry]) mid.log :=
      templates ▸ start ▸ grows.log
    cases ran : Run.load .standard program scope r.evaluator t.store with
    | ok result s' =>
      rw [ran] at left
      have kept : (Run.load .standard program scope r.evaluator >>= keepLoaded r.id program) t.store = _ :=
        bind_ok ran
      cases result with
      | loaded bound =>
        obtain ⟨-, -, mid, grows, rfl⟩ := left
        rw [ofRun_ok (kept.trans rfl)]
        exact .compiled expanded (inside grows)
      | failed trail =>
        obtain ⟨kind, mid, grows, rfl⟩ := left
        rw [ofRun_ok (kept.trans rfl)]
        exact .uncompiled expanded kind (inside grows)
    | error stop s' =>
      rw [ran] at left
      have broken : (Run.load .standard program scope r.evaluator >>= keepLoaded r.id program) t.store =
          .error stop s' := bind_error ran
      obtain ⟨thrown, told⟩ := ofRun_error (R := Store.Grows) t.scopes broken
      exact .interrupted expanded (inside (HeapRelation.trans left told)) thrown

theorem evaluate_logs (s : Session) (id : Text) (options : Datum) (overrides : Members Datum) :
    s.Logs (.evaluate id options overrides) (s.evaluate id options overrides).1
      (s.evaluate id options overrides).2.store.log := by
  cases loaded : s.store.templates.get? id with
  | none =>
    rw [evaluate_of_none loaded]
    exact .notLoaded options overrides loaded
  | some t =>
    cases accepted : EvaluationOptions.parse options with
    | error report =>
      rw [evaluate_of_error loaded accepted]
      exact .invalid overrides loaded accepted
    | ok o =>
      have left := evaluate_leaves .standard [] t o overrides s.store
      rw [evaluate_of_ok loaded accepted]
      cases ran : t.evaluate .standard [] o overrides s.store with
      | ok result s' =>
        rw [ran] at left
        obtain ⟨s₁, ending, s₂, mid, own, prepared, ended, grows, concluded, rfl⟩ := left
        have answered : (t.evaluate .standard [] o overrides >>= fun result => pure result.answer) s.store =
          _ := bind_ok ran
        rw [ofRun_ok (answered.trans rfl)]
        exact .evaluated loaded accepted prepared ended grows.log concluded
      | error stop s' =>
        rw [ran] at left
        have broken : (t.evaluate .standard [] o overrides >>= fun result => pure result.answer) s.store =
          .error stop s' := bind_error ran
        obtain ⟨thrown, told⟩ := ofRun_error (R := Store.Grows) s.scopes broken
        exact .broken loaded accepted (HeapRelation.trans left told).log thrown

theorem external_logs (s : Session) {step : Step} (other : step.IsExternal) :
    (s.perform step).2.store.log = s.store.log := by
  have ensured (name : Text) : s.store.SameLog (s.ensureScope name).1.store := s.ensureScope_leads name
  cases step with
  | load | evaluate => exact other.elim
  | listScope name => exact HeapRelation.trans (ensured name) (ofRun_leads (leads_listing _) _)
  | listScopeOf id =>
    rw [perform_listScopeOf]
    cases s.store.templates.get? id with
    | none => rfl
    | some t => exact ofRun_leads (R := Store.SameLog) (leads_listing _) s.store
  | set scope name value =>
    exact HeapRelation.trans (ensured scope)
      (ofRun_leads (leads_setEntry (Run.leads_assignEntry [] [] _ name) value) _)
  | push scope name value =>
    exact HeapRelation.trans (ensured scope)
      (ofRun_leads (leads_pushEntry Run.leads_modifySlots _ name value) _)
  | delete scope name =>
    exact HeapRelation.trans (ensured scope)
      (ofRun_leads (leads_deleteEntry (Run.leads_eraseMember _ name)) _)

theorem perform_logs (s : Session) (step : Step) :
    s.Logs step (s.perform step).1 (s.perform step).2.store.log := by
  by_cases external : step.IsExternal
  · rw [s.external_logs external]
    exact .external _ external
  · cases step with
    | load r => exact s.load_logs r
    | evaluate id options overrides => exact s.evaluate_logs id options overrides
    | _ => exact absurd trivial external

/-- Steps that follow each other, each with what it writes to the log. -/
inductive Traced : Session → List Step → List StepAnswer → Session → Prop
  | nil (s : Session) : Traced s [] [] s
  | cons {s after last : Session} {step : Step} {answer : StepAnswer} {rest : List Step}
      {answers : List StepAnswer} (performed : s.perform step = (answer, after))
      (logs : s.Logs step answer after.store.log) (others : Traced after rest answers last) :
      Traced s (step :: rest) (answer :: answers) last

theorem performAll_traced (s : Session) (steps : List Step) :
    s.Traced steps (s.performAll steps).1 (s.performAll steps).2 := by
  induction steps generalizing s with
  | nil => exact .nil s
  | cons step rest ih => exact .cons rfl (s.perform_logs step) (ih _)

end Session

/-- The log is a trace of any session: every load and every evaluation writes the entries that belong to
what becomes of it, in order. So does every evaluation that a run starts, in any store and at any depth. -/
theorem session_traced (s : Session) (steps : List Step) :
    s.Traced steps (s.performAll steps).1 (s.performAll steps).2 ∧
      ∀ depth frames (t : BoundTemplate) o overrides (store : Store),
        match t.evaluate (.nested depth) frames o overrides store with
        | .ok result after => t.Leaves (.nested depth) frames o overrides store result after
        | .error _ after => store.Grows after := by
  refine ⟨s.performAll_traced steps, fun depth frames t o overrides store => ?_⟩
  have leads := nested_leads depth
  exact evaluate_leaves (.nested depth) frames t o overrides store

def StepAnswer.failure? : StepAnswer → Option (FailureKind × Text)
  | .failed trail => some (trail.kind, trail.message)
  | _ => none

/-- A run that returns a text is a failure that the log does not tell of. -/
theorem session_unlogged_failure :
    let (answers, after) := Session.empty.performAll
      [.load ⟨"page", "line", .undefined, none, [],
          .playback ⟨[.finish (.text "five")], ⟨none, none, none⟩⟩⟩,
        .evaluate "page" .undefined []]
    answers.map StepAnswer.failure? =
      [none, some (FailureKind.evaluation, ("program returned string instead of lines" : Text))] ∧
    after.store.log.map LogRecord.message = [("Template expanded" : Text), ("Template compiled" : Text)] := by
  decide +kernel

end LineTemplate
