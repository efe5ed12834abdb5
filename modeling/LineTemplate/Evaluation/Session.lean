import LineTemplate.Evaluation.Engine

/-!
Sessions: templates are loaded against named scopes and evaluated any number of times. Each step
gives an answer and leaves a state for the steps after it. Left out is that an engine keeps names which code
declares outside the function of its program for later loads; here they end with their own.
-/

set_option autoImplicit false

namespace LineTemplate

open Script

structure Session where
  /-- The addresses of the named scopes. -/
  scopes : Members Nat
  store : Store

structure LoadRequest where
  /-- The name under which it is kept. -/
  id : Text
  template : Text
  options : Datum
  /-- The scope to bind it to; without one it gets a scope of its own. -/
  scope : Option Text
  included : Members Text
  evaluator : Evaluator

inductive Step where
  | load (request : LoadRequest)
  | evaluate (id : Text) (options : Datum) (overrides : Members Datum)
  | listScope (name : Text)
  /-- Lists the scope of a loaded template. -/
  | listScopeOf (id : Text)
  | set (scope name : Text) (value : Datum)
  /-- Adds an item to the array in a scope entry. -/
  | push (scope name : Text) (value : Datum)
  | delete (scope name : Text)

inductive StepAnswer where
  /-- A template was loaded; it has this many instructions. -/
  | loaded (instructions : Nat)
  | produced (output : Output)
  | failed (trail : ErrorTrail)
  /-- The entries of a scope by their names. -/
  | listed (entries : Members Datum)
  | done
  /-- There is no template under the name. -/
  | notLoaded
  /-- The step ended in an error that belongs to its caller. -/
  | refused (report : ErrorReport)
  | thrown (value : Datum)

namespace Session

def empty : Session := ⟨[], .empty⟩

def ofRun (scopes : Members Nat) (run : Run StepAnswer) (store : Store) : StepAnswer × Session :=
  match run.finish store with
  | (.ok answer, after) => (answer, ⟨scopes, after⟩)
  | (.error (.error report), after) => (.refused report, ⟨scopes, after⟩)
  | (.error (.value v), after) => (.thrown v, ⟨scopes, after⟩)

def addObject (store : Store) : Store × Nat :=
  ({ store with objects := store.objects.push (.ofKind .plain) }, store.objects.size)

def ensureScope (s : Session) (name : Text) : Session × Nat :=
  match s.scopes.get? name with
  | some address => (s, address)
  | none =>
    let (store, address) := addObject s.store
    (⟨s.scopes.set name address, store⟩, address)

def addScope (s : Session) (name : Text) (content : Datum) : Session :=
  match Run.make [] content s.store with
  | .ok (.ref address) after => ⟨s.scopes.set name address, after⟩
  | .ok _ after | .error _ after => ⟨s.scopes, after⟩

def targetScope (s : Session) : Option Text → Session × Nat
  | some name => s.ensureScope name
  | none =>
    let (store, address) := addObject s.store
    (⟨s.scopes, store⟩, address)

def keepLoaded (id : Text) (program : Program) : LoadResult → Run StepAnswer
  | .loaded template => do
    modify fun store => { store with templates := store.templates.set id template }
    return .loaded program.instructions.length
  | .failed trail => return .failed trail

def load (s : Session) (r : LoadRequest) : StepAnswer × Session :=
  let (s, scope) := s.targetScope r.scope
  match Program.ofTemplate r.options r.included r.template with
  | .error report => (.refused report, s)
  | .ok program =>
    let run : Run StepAnswer := do
      keepLoaded r.id program (← Run.load .standard program scope r.evaluator)
    ofRun s.scopes run s.store

def evaluate (s : Session) (id : Text) (options : Datum) (overrides : Members Datum) :
    StepAnswer × Session :=
  match s.store.templates.get? id with
  | none => (.notLoaded, s)
  | some template =>
    match EvaluationOptions.parse options with
    | .error report => (.refused report, s)
    | .ok o =>
      let run : Run StepAnswer := do
        match ← template.evaluate .standard [] o overrides with
        | .produced output => return .produced output
        | .failed trail => return .failed trail
      ofRun s.scopes run s.store

def listing (address : Nat) : Run StepAnswer := do
  match ← Run.object? address with
  | none => return .listed []
  | some o =>
    return .listed (← (Members.sorted o.members).mapM fun (key, v) =>
      return (key, ← Run.describe v))

def pushItem (target item : Value) : Run Unit := do
  match target, ← Run.kind? target with
  | .ref address, some (.array _) => Run.modifySlots address fun slots => slots.push item
  | _, _ => return ()

def perform (s : Session) : Step → StepAnswer × Session
  | .load request => s.load request
  | .evaluate id options overrides => s.evaluate id options overrides
  | .listScope name =>
    let (s, scope) := s.ensureScope name
    ofRun s.scopes (listing scope) s.store
  | .listScopeOf id =>
    match s.store.templates.get? id with
    | none => (.notLoaded, s)
    | some template => ofRun s.scopes (listing template.scope) s.store
  | .set scope name value =>
    let (s, address) := s.ensureScope scope
    let run : Run StepAnswer := do
      Run.assignEntry [] [] address name (← Run.make [] value)
      return .done
    ofRun s.scopes run s.store
  | .push scope name value =>
    let (s, address) := s.ensureScope scope
    let run : Run StepAnswer := do
      pushItem (← Run.member (.ref address) name) (← Run.make [] value)
      return .done
    ofRun s.scopes run s.store
  | .delete scope name =>
    let (s, address) := s.ensureScope scope
    let run : Run StepAnswer := do
      Run.modifyObject address fun o => { o with members := o.members.erase name }
      return .done
    ofRun s.scopes run s.store

def performAll (s : Session) : List Step → List StepAnswer × Session
  | [] => ([], s)
  | step :: rest =>
    let (answer, after) := s.perform step
    let (answers, last) := performAll after rest
    (answer :: answers, last)

end Session

end LineTemplate
