import LineTemplate.Proofs.Evaluation.Effects
import LineTemplate.Evaluation.Session

/-!
The steps of a session: what each comes down to, and what it leaves beside the run of a program.
-/

set_option autoImplicit false

namespace LineTemplate

open Script

def EvaluationResult.answer : EvaluationResult → StepAnswer
  | .produced output => .produced output
  | .failed trail => .failed trail

def StepAnswer.IsError : StepAnswer → Prop
  | .refused _ | .thrown _ => True
  | _ => False

namespace Session

section

variable {R : Store → Store → Prop} [GrowthRelation R]

theorem leads_ofValue (v : Value) : Run.Leads R (Thrown.ofValue v) := by
  unfold Thrown.ofValue
  refine Run.leads_bind (Run.leads_kind? v) fun kind => ?_
  split
  · exact Run.leads_bind (Run.leads_reportedText _ _) fun _ =>
      Run.leads_bind (Run.leads_reportedText _ _) fun _ => Run.leads_pure _
  · exact Run.leads_bind (Run.leads_describe _) fun _ => Run.leads_pure _

theorem ofRun_ok {scopes : Members Nat} {run : Run StepAnswer} {s s' : Store} {answer : StepAnswer}
    (ran : run s = .ok answer s') : ofRun scopes run s = (answer, ⟨scopes, s'⟩) := by
  unfold ofRun Run.finish
  rw [ran]

theorem ofRun_congr (scopes : Members Nat) {run run' : Run StepAnswer} {s s' : Store}
    (same : run s = run' s') : ofRun scopes run s = ofRun scopes run' s' := by
  unfold ofRun Run.finish
  rw [same]

theorem ofRun_error (scopes : Members Nat) {run : Run StepAnswer} {s s' : Store} {stop : Stop}
    (ran : run s = .error stop s') :
    (ofRun scopes run s).1.IsError ∧ R s' (ofRun scopes run s).2.store := by
  unfold ofRun Run.finish
  rw [ran]
  cases stop with
  | unfollowed => exact ⟨trivial, GrowthRelation.refl s'⟩
  | thrown v =>
    have told : Run.Leads R (Thrown.ofValue v) := leads_ofValue v
    dsimp only
    cases said : Thrown.ofValue v s' with
    | ok thrown last =>
      cases thrown with
      | error report => exact ⟨trivial, told.ok said⟩
      | value d => exact ⟨trivial, told.ok said⟩
    | error _ last => exact ⟨trivial, told.error said⟩

theorem ofRun_leads {scopes : Members Nat} {run : Run StepAnswer} (leads : Run.Leads R run) (s : Store) :
    R s (ofRun scopes run s).2.store := by
  cases ran : run s with
  | ok answer s' =>
    rw [ofRun_ok ran]
    exact leads.ok ran
  | error stop s' =>
    exact GrowthRelation.trans (leads.error ran) (ofRun_error scopes ran).2

theorem ofRun_scopes (scopes : Members Nat) (run : Run StepAnswer) (s : Store) :
    (ofRun scopes run s).2.scopes = scopes := by
  unfold ofRun
  split <;> rfl

theorem leads_listing (address : Nat) : Run.Leads R (listing address) := by
  unfold listing
  refine Run.leads_bind (Run.leads_object? address) fun found => ?_
  split
  · exact Run.leads_pure _
  · refine Run.leads_bind (Run.leads_mapM (fun _ => ?_) _) fun _ => Run.leads_pure _
    exact Run.leads_bind (Run.leads_describe _) fun _ => Run.leads_pure _

def setEntry (address : Nat) (name : Text) (value : Datum) : Run StepAnswer := do
  Run.assignEntry [] [] address name (← Run.make [] value)
  return .done

def pushEntry (address : Nat) (name : Text) (value : Datum) : Run StepAnswer := do
  pushItem (← Run.member (.ref address) name) (← Run.make [] value)
  return .done

def deleteEntry (address : Nat) (name : Text) : Run StepAnswer := do
  Run.modifyObject address fun o => { o with members := o.members.erase name }
  return .done

theorem leads_setEntry {address : Nat} {name : Text}
    (sets : ∀ v, Run.Leads R (Run.assignEntry [] [] address name v)) (value : Datum) :
    Run.Leads R (setEntry address name value) :=
  Run.leads_bind (Run.leads_make [] value) fun v =>
    Run.leads_bind (sets v) fun _ => Run.leads_pure StepAnswer.done

theorem leads_pushEntry (changes : ∀ a f, Run.Leads R (Run.modifySlots a f)) (address : Nat) (name : Text)
    (value : Datum) : Run.Leads R (pushEntry address name value) := by
  have pushes (target item : Value) : Run.Leads R (pushItem target item) := by
    unfold pushItem
    refine Run.leads_bind (Run.leads_kind? target) fun kind => ?_
    split
    · exact changes _ _
    · exact Run.leads_pure ()
  exact Run.leads_bind (Run.leads_member _ name) fun target =>
    Run.leads_bind (Run.leads_make [] value) fun item =>
      Run.leads_bind (pushes target item) fun _ => Run.leads_pure StepAnswer.done

theorem leads_deleteEntry {address : Nat} {name : Text}
    (erases : Run.Leads R (Run.modifyObject address fun o => { o with members := o.members.erase name })) :
    Run.Leads R (deleteEntry address name) :=
  Run.leads_bind erases fun _ => Run.leads_pure StepAnswer.done

end

theorem perform_listScopeOf (s : Session) (id : Text) :
    s.perform (.listScopeOf id) =
      match s.store.templates.get? id with
      | none => (.notLoaded, s)
      | some t => ofRun s.scopes (listing t.scope) s.store := rfl

theorem ensureScope_leads {R : Store → Store → Prop} [GrowthRelation R] (s : Session) (name : Text) :
    R s.store (s.ensureScope name).1.store := by
  unfold ensureScope
  cases s.scopes.get? name with
  | some address => exact GrowthRelation.refl _
  | none => exact (Run.leads_allocate (.ofKind .plain) : Run.Leads R _) s.store

theorem targetScope_leads {R : Store → Store → Prop} [GrowthRelation R] (s : Session)
    (name : Option Text) : R s.store (s.targetScope name).1.store := by
  cases name with
  | some name => exact s.ensureScope_leads name
  | none => exact (Run.leads_allocate (.ofKind .plain) : Run.Leads R _) s.store

theorem load_of_error {s : Session} {r : LoadRequest} {report : ErrorReport}
    (refused : Program.ofTemplate r.options r.included r.template = .error report) :
    s.load r = (.refused report, (s.targetScope r.scope).1) := by
  unfold Session.load
  rw [refused]

theorem load_of_ok {s : Session} {r : LoadRequest} {program : Program}
    (expanded : Program.ofTemplate r.options r.included r.template = .ok program) :
    s.load r = ofRun (s.targetScope r.scope).1.scopes
      (Run.load .standard program (s.targetScope r.scope).2 r.evaluator >>= keepLoaded r.id program)
      (s.targetScope r.scope).1.store := by
  unfold Session.load
  rw [expanded]

theorem evaluate_of_none {s : Session} {id : Text} {options : Datum} {overrides : Members Datum}
    (missing : s.store.templates.get? id = none) :
    s.evaluate id options overrides = (.notLoaded, s) := by
  unfold Session.evaluate
  rw [missing]

theorem evaluate_of_error {s : Session} {id : Text} {t : BoundTemplate} {options : Datum}
    {report : ErrorReport} {overrides : Members Datum} (loaded : s.store.templates.get? id = some t)
    (refused : EvaluationOptions.parse options = .error report) :
    s.evaluate id options overrides = (.refused report, s) := by
  unfold Session.evaluate
  rw [loaded]
  dsimp only
  rw [refused]

theorem evaluate_of_ok {s : Session} {id : Text} {options : Datum} {t : BoundTemplate}
    {o : EvaluationOptions} {overrides : Members Datum} (loaded : s.store.templates.get? id = some t)
    (accepted : EvaluationOptions.parse options = .ok o) :
    s.evaluate id options overrides = ofRun s.scopes
      (t.evaluate .standard [] o overrides >>= fun result => pure result.answer) s.store := by
  unfold Session.evaluate
  rw [loaded]
  dsimp only
  rw [accepted]
  dsimp only
  congr 2
  funext result
  cases result <;> rfl

end Session

end LineTemplate
