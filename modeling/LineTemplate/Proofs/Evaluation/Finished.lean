import LineTemplate.Proofs.Evaluation.Kinds
import LineTemplate.Proofs.Evaluation.Tracing

/-!
A generator that is finished stays finished, whatever calls, conversions and other generators do.
-/

set_option autoImplicit false

namespace LineTemplate

open Script

namespace Script

def Store.KeepsFinished (a : Nat) (s s' : Store) : Prop :=
  s.kindAt a = some (.generator .finished) → s'.kindAt a = some (.generator .finished)

instance (a : Nat) : EditRelation (Store.KeepsFinished a) where
  trans first second finished := second (first finished)
  grow {s s'} _ objects _ _ finished := by
    obtain ⟨o, found, -⟩ := Option.map_eq_some_iff.1 finished
    have inside : a < s.objects.size := (Array.getElem?_eq_some_iff.1 found).1
    unfold Store.kindAt
    rw [objects a inside]
    exact finished
  edit s b f spares finished := by
    rw [Store.kindAt_changeObject]
    split
    · obtain ⟨o, found, kind⟩ := Option.map_eq_some_iff.1 finished
      rw [found, Option.map_some, spares o kind]
    · exact finished

namespace Run

theorem leads_setKind_of_ne {a b : Nat} (other : b ≠ a) (kind : Kind) :
    Leads (Store.KeepsFinished a) (setKind b kind) := by
  intro s finished
  exact (s.kindAt_withKind_of_ne kind other).trans finished

end Run

section

variable {R : Store → Store → Prop} [EditRelation R] {engine : Engine} [engine.Leads R]

theorem BoundTemplate.leads_evaluate (logs : ∀ message context, Run.Leads R (Run.logDebug message context))
    (frames : List Frame) (t : BoundTemplate) (o : EvaluationOptions) (overrides : Members Datum) :
    Run.Leads R (t.evaluate engine frames o overrides) := by
  intro s
  obtain ⟨⟨⟩, s₁, prepared⟩ := t.total_prepare frames overrides s
  have first : R s s₁ := (t.leads_prepare frames overrides).ok prepared
  have concludes (ending : Except Value Value) : Run.Leads R (t.conclude engine frames o ending) := by
    have cause (v : Value) : Run.Leads R (causeOf v) := leads_causeOf v
    have described (v : Value) : Run.Leads R (t.describeFailure engine frames v) :=
      t.leads_describeFailure frames v
    cases ending with
    | ok v =>
      change Run.Leads R (t.produced engine frames o v)
      unfold produced
      grind
    | error v =>
      change Run.Leads R (t.failed engine frames v)
      unfold failed
      grind
  rw [Run.after_congr (t.evaluate_of_prepare prepared o)]
  exact EditRelation.trans first (Run.leads_bind (Run.leads_attempt (t.leads_run frames)) concludes s₁)

theorem Run.leads_evaluateLoaded (logs : ∀ message context, Leads R (logDebug message context))
    (frames : List Frame) (template : Text) (options : Datum) :
    Leads R (evaluateLoaded engine frames template options) := by
  unfold evaluateLoaded
  refine leads_bind leads_get fun s => ?_
  split
  · exact leads_raise frames _
  · split
    · exact leads_raise frames _
    · refine leads_bind (BoundTemplate.leads_evaluate logs frames _ _ []) fun result => ?_
      split
      · exact leads_raise frames _
      · exact leads_allocateArray _
      · exact leads_pure _

end

/-- Neither calls nor generators revive a finished generator: an address is given to one generator only,
and a generator that is continued after its end stays finished. -/
theorem nested_keepsFinished (a depth : Nat) : (Engine.nested depth).Leads (Store.KeepsFinished a) := by
  have overflows (frames : List Frame) {α : Type} :
      Run.Leads (Store.KeepsFinished a) (Engine.overflow frames : Run α) := Run.leads_raiseRange frames _
  have logs (message : String) (context : List (String × Datum)) :
      Run.Leads (Store.KeepsFinished a) (Run.logDebug message context) := fun _ finished => finished
  have finished_ref {s : Store} (finished : s.kindAt a = some (.generator .finished)) :
      Run.kind? (.ref a) s = .ok (some (.generator .finished)) s := by
    rw [Run.kind?_ref, finished]
  induction depth with
  | zero =>
    exact ⟨fun frames f _ _ => Run.leads_bind (Run.leads_entryFrames frames f) fun _ => overflows _,
      fun frames _ => overflows frames⟩
  | succ depth ih =>
    refine ⟨fun frames f this args => ?_, fun frames b => ?_⟩
    · change Run.Leads _ (Run.callFunction (.nested depth) frames f this args)
      by_cases itself : f = .ref a
      · -- what is finished is no function
        subst itself
        intro s finished
        have raised : Run.callFunction (.nested depth) frames (.ref a) this args s =
            Run.raiseType frames (Run.plainText (.ref a) ++ (" is not a function" : Text)) s :=
          bind_ok (finished_ref finished)
        have raises (message : Text) :
            Run.Leads (Store.KeepsFinished a) (Run.raiseType frames message : Run Value) :=
          Run.leads_raiseType frames message
        rw [Run.after_congr raised]
        exact raises _ s finished
      · refine Run.leads_callFunction frames (Run.leads_evaluateLoaded logs frames) ?_ this args
        rintro b rfl kind
        exact Run.leads_setKind_of_ne (fun same => itself (congrArg Value.ref same)) kind
    · change Run.Leads _ (Run.continueGenerator (.nested depth) frames b)
      by_cases itself : b = a
      · subst itself
        intro s finished
        have ended : Run.continueGenerator (.nested depth) frames b s =
            (Run.setKind b (.generator .finished) >>= fun _ => pure none) s :=
          bind_ok (finished_ref finished)
        have leads : Run.Leads (Store.KeepsFinished b)
            (Run.setKind b (.generator .finished) >>= fun _ => pure (none : Option Value)) :=
          Run.leads_bind (Run.leads_finish b) fun _ => Run.leads_pure _
        rw [Run.after_congr ended]
        exact leads s finished
      · exact Run.leads_continueGenerator frames (Run.leads_setKind_of_ne itself)

instance (a depth : Nat) : (Engine.nested depth).Leads (Store.KeepsFinished a) :=
  nested_keepsFinished a depth

end Script

end LineTemplate
