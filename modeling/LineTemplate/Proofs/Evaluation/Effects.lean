import LineTemplate.Proofs.Script.Interpreting
import LineTemplate.Evaluation.Engine

/-!
The helpers of generated code, compilations, runs and functions that are not written in a script lead from
a store to a related one, provided that calls and generators do.
-/

set_option autoImplicit false

namespace LineTemplate

open Script

namespace Script.Run

section

variable {R : Store → Store → Prop} [EditRelation R] {engine : Engine} [engine.Leads R] {α : Type}

@[grind ←]
theorem leads_isReferenceError (v : Value) : Leads R (isReferenceError v) := by
  unfold isReferenceError
  grind

@[grind ←]
theorem leads_readExpression (frames : List Frame) (read : Value) (expression : Text) :
    Leads R (readExpression engine frames read expression) := by
  unfold readExpression
  grind

@[grind ←]
theorem leads_convertValue (frames : List Frame) (scope : Nat) (v : Value) (expression : Text) :
    Leads R (convertValue engine frames scope v expression) := by
  unfold convertValue
  grind

@[grind ←]
theorem leads_pushLine (frames : List Frame) (output : Value) (line : Text) :
    Leads R (pushLine engine frames output line) := by
  unfold pushLine
  grind

@[grind ←]
theorem leads_listSource (frames : List Frame) (v : Value) (expression : Text) :
    Leads R (listSource engine frames v expression) := by
  unfold listSource
  grind

@[grind ←]
theorem leads_emitLines (frames : List Frame) (scope : Nat) (output v : Value) (indent expression : Text) :
    Leads R (emitLines engine frames scope output v indent expression) := by
  unfold emitLines
  have emits (item : Value) : Leads R (do
      let content ← convertValue engine frames scope item expression
      pushLine engine frames output (if content.isEmpty then [] else indent ++ content)
      return true) := by
    grind
  refine leads_bind (leads_listSource frames v expression) fun source => ?_
  refine leads_bind (leads_open? source) fun cursor => ?_
  split
  · exact leads_pure ()
  · refine leads_bind (leads_loopLimit source) fun limit => ?_
    refine leads_bind (leads_fold frames (fun _ => emits) limit false _) fun found => ?_
    grind

@[grind ←]
theorem leads_itemTexts (frames : List Frame) (address : Nat) : Leads R (itemTexts engine frames address) := by
  have adds (texts : List Text) (item : Value) : Leads R (addText engine frames texts item) := by
    unfold addText
    grind
  unfold itemTexts
  exact leads_bind (leads_loopLimit _) fun limit =>
    leads_bind (leads_fold frames adds limit [] _) fun _ => leads_pure _

@[grind ←]
theorem leads_provideMember (scope : Nat) (key : Text) (f : Native) :
    Leads R (provideMember scope key f) := by
  unfold provideMember
  grind

@[grind ←]
theorem leads_assignEntry (frames : List Frame) (fixed : List Text) (scope : Nat) (key : Text) (v : Value) :
    Leads R (assignEntry frames fixed scope key v) := by
  unfold assignEntry
  split
  · exact leads_raiseType frames _
  · exact leads_modifyObject scope fun _ finished => finished

@[grind ←]
theorem leads_prepareScopeWith (frames : List Frame) (fixed : List Text) (scope : Nat) :
    Leads R (prepareScopeWith frames fixed scope) := by
  unfold prepareScopeWith
  grind

@[grind ←]
theorem leads_prepareScope (scope : Nat) : Leads R (prepareScope scope) := leads_prepareScopeWith [] [] scope

@[grind ←]
theorem leads_indexedItems (frames : List Frame) (v : Value) : Leads R (indexedItems frames v) := by
  unfold indexedItems
  grind

@[grind ←]
theorem leads_refuse (frames : List Frame) (v : Value) : Leads R (entryPairs.refuse frames v) := by
  unfold entryPairs.refuse
  grind

@[grind ←]
theorem leads_entryPairs (frames : List Frame) (v : Value) : Leads R (entryPairs frames v) := by
  unfold entryPairs
  grind

@[grind ←]
theorem leads_ownMessage? (v : Value) : Leads R (ownMessage? v) := by
  unfold ownMessage?
  grind

@[grind ←]
theorem leads_failureMessage (frames : List Frame) (v : Value) :
    Leads R (failureMessage engine frames v) := by
  unfold failureMessage
  grind

@[grind ←]
theorem leads_failureStack (v : Value) : Leads R (failureStack v) := by
  unfold failureStack
  grind

@[grind ←]
theorem leads_describeFailure (frames : List Frame) (serial : Nat) (v : Value) :
    Leads R (describeFailure engine frames serial v) := by
  unfold describeFailure
  grind

@[grind ←]
theorem leads_attempt {run : Run Value} (h : Leads R run) : Leads R (attempt run) := by
  unfold attempt
  grind

@[grind ←]
theorem leads_freshSerial : Leads R freshSerial := fun _ =>
  GrowthRelation.grow (Nat.le_refl _) (fun _ _ => rfl) rfl rfl

@[grind ←]
theorem leads_compileScript (code : Text) (scope : Nat) :
    Leads R (compileScript engine code scope) := by
  unfold compileScript
  refine leads_bind leads_freshSerial fun serial => ?_
  split
  · exact leads_pure _
  · refine leads_bind (leads_runScript _ _) fun value => ?_
    grind

@[grind ←]
theorem leads_compile (evaluator : Evaluator) (code : Text) (scope : Nat) :
    Leads R (compile engine evaluator code scope) := by
  unfold compile
  grind

@[grind ←]
theorem leads_callEntry (frames : List Frame) (scope : Nat) (name : Text) (args : List Value) :
    Leads R (callEntry engine frames scope name args) := by
  unfold callEntry
  grind

@[grind ←]
theorem leads_readSource (frames : List Frame) (scope : Nat) (source : ReadSource) :
    Leads R (readSource frames scope source) := by
  unfold readSource
  grind

@[grind ←]
theorem leads_playBack (frames : List Frame) (scope : Nat) (output : Value) (actions : List Action) :
    Leads R (playBack engine frames scope output actions) := by
  induction actions with
  | nil => exact leads_pure output
  | cons action rest ih =>
    cases action with
    | delete name => exact leads_bind (leads_eraseMember scope name) fun _ => ih
    | _ =>
      unfold playBack
      grind

@[grind ←]
theorem leads_makeError (frames : List Frame) (name : Text) (message : Value) :
    Leads R (makeError engine frames name message) := by
  unfold makeError
  grind

/-- What a function does that is not written in a script, provided that an evaluation does the same. A
function may change what it is. -/
theorem leads_callNative (frames : List Frame)
    (evaluates : ∀ template options, Leads R (evaluateLoaded engine frames template options))
    {self : Nat} (changes : ∀ kind, Leads R (setKind self kind)) (this : Value) (args : List Value)
    (f : Native) :
    Leads R (callNative engine frames self this args f) := by
  unfold callNative
  cases f
  all_goals grind

theorem leads_callFunction (frames : List Frame)
    (evaluates : ∀ template options, Leads R (evaluateLoaded engine frames template options)) {f : Value}
    (changes : ∀ address, f = .ref address → ∀ kind, Leads R (setKind address kind)) (this : Value)
    (args : List Value) : Leads R (callFunction engine frames f this args) := by
  unfold callFunction
  refine leads_bind (leads_kind? f) fun kind => ?_
  split
  · exact leads_callClosure frames _ _ args
  · exact leads_callNative frames evaluates (changes _ rfl) this args _
  · exact leads_raiseType frames _

@[grind ←]
theorem leads_entryFrames (frames : List Frame) (f : Value) : Leads R (entryFrames frames f) := by
  unfold entryFrames
  grind

end

end Script.Run

namespace Script.BoundTemplate

variable {R : Store → Store → Prop} [EditRelation R] {engine : Engine} [engine.Leads R]

theorem leads_run (frames : List Frame) (t : BoundTemplate) : Run.Leads R (t.run engine frames) := by
  unfold run
  grind

theorem leads_describeFailure (frames : List Frame) (t : BoundTemplate) (v : Value) :
    Run.Leads R (t.describeFailure engine frames v) := by
  unfold describeFailure
  grind

theorem leads_causeOf (v : Value) : Run.Leads R (causeOf v) := by
  unfold causeOf
  grind

end Script.BoundTemplate

end LineTemplate
