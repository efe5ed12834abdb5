import LineTemplate.Proofs.Script.Effects

/-!
The evaluation of trees leads from a store to a related one, whatever the tree: by induction on it, with
one case for each of its constructors.
-/

set_option autoImplicit false

namespace LineTemplate.Script.Run

section

variable {R : Store → Store → Prop} [EditRelation R] {engine : Engine} [engine.Leads R] {α : Type}

@[grind ←]
theorem leads_globalName? (p : Place) (id : Text) : Leads R (globalName? p id) := by
  unfold globalName?
  grind

@[grind ←]
theorem leads_raiseUnreached (p : Place) (id : Text) (spot : Spot) :
    Leads R (raiseUnreached p id spot : Run α) := by
  unfold raiseUnreached
  grind

@[grind ←]
theorem leads_lookup? (p : Place) (id : Text) (spot : Spot) : Leads R (lookup? p id spot) := by
  unfold lookup?
  grind

@[grind ←]
theorem leads_readName (p : Place) (id : Text) (spot : Spot) : Leads R (readName p id spot) := by
  unfold readName
  grind

@[grind ←]
theorem leads_assignName (p : Place) (id : Text) (v : Value) (spot : Spot) :
    Leads R (assignName p id v spot) := by
  unfold assignName
  grind

@[grind ←]
theorem leads_bindName (p : Place) (id : Text) (mutable : Bool) (v : Value) :
    Leads R (bindName p id mutable v) := by
  unfold bindName
  grind

@[grind ←]
theorem leads_raiseNotSequence (p : Place) (spot : Spot) (v : Value) :
    Leads R (raiseNotSequence p spot v : Run α) := by
  unfold raiseNotSequence
  grind

@[grind ←]
theorem leads_bindItems (p : Place) (mutable : Bool) (targets : List (Option (Text × Spot))) :
    ∀ spot cursor, Leads R (bindItems engine p mutable spot targets cursor) := by
  induction targets with
  | nil =>
    intro spot cursor
    unfold bindItems
    exact leads_close cursor
  | cons target rest ih =>
    intro spot cursor
    unfold bindItems
    refine leads_bind (leads_next _ cursor) fun found => ?_
    grind

@[grind ←]
theorem leads_bindPattern (p : Place) (spot : Spot) (mutable : Bool) (pattern : Pattern) (v : Value) :
    Leads R (bindPattern engine p spot mutable pattern v) := by
  unfold bindPattern
  grind

@[grind ←]
theorem leads_closureOf (p : Place) (head : FunctionHead) (body : List Stmt) :
    Leads R (closureOf p head body) := by
  unfold closureOf
  grind

@[grind ←]
theorem leads_bindFunctions (p : Place) (functions : List (Text × FunctionHead × List Stmt)) :
    Leads R (bindFunctions p functions) := by
  induction functions with
  | nil => exact leads_pure ()
  | cons f rest ih =>
    unfold bindFunctions
    grind

@[grind ←]
theorem leads_enterBlock (p : Place) (body : List Stmt) : Leads R (enterBlock p body) := by
  unfold enterBlock
  grind

@[grind ←]
theorem leads_enterLoop (p : Place) (pattern : Pattern) : Leads R (enterLoop p pattern) := by
  unfold enterLoop
  grind

@[grind ←]
theorem leads_outerScopes (c : Closure) (self : Value) : Leads R (outerScopes c self) := by
  unfold outerScopes
  grind

@[grind ←]
theorem leads_enterFunction (c : Closure) (self : Value) (frames : List Frame) (args : List Value) :
    Leads R (enterFunction c self frames args) := by
  unfold enterFunction
  grind

@[grind ←]
theorem leads_exposeFunction (p : Place) (id : Text) : Leads R (exposeFunction p id) := by
  unfold exposeFunction
  grind

@[grind ←]
theorem leads_raiseMissing (frames : List Frame) (action doing : String) (base : Value)
    (key : Option Text) : Leads R (raiseMissing frames action doing base key : Run α) := by
  unfold raiseMissing
  grind

@[grind ←]
theorem leads_readMember (frames : List Frame) (base : Value) (key : Text) :
    Leads R (readMember frames base key) := by
  unfold readMember
  grind

@[grind ←]
theorem leads_readIndex (frames : List Frame) (base key : Value) :
    Leads R (readIndex engine frames base key) := by
  unfold readIndex
  grind

@[grind ←]
theorem leads_readSlot (p : Place) (spot : Spot) (slot : Slot) :
    Leads R (readSlot engine p spot slot) := by
  unfold readSlot
  grind

@[grind ←]
theorem leads_writeSlot (p : Place) (spot : Spot) (v : Value) (slot : Slot) :
    Leads R (writeSlot engine p spot v slot) := by
  unfold writeSlot
  grind

@[grind ←]
theorem leads_callValue (p : Place) (spot : Spot) (f this : Value) (args : List Value) :
    Leads R (callValue engine p spot f this args) := by
  unfold callValue
  grind

@[grind ←]
theorem leads_construct (p : Place) (spot : Spot) (f : Value) (args : List Value) :
    Leads R (construct engine p spot f args) := by
  unfold construct
  grind

@[grind ←]
theorem leads_takeTurns {σ : Type} {turn : σ → Run (Except Completion σ)}
    (step : ∀ s, Leads R (turn s)) (limit : Nat) : ∀ s, Leads R (takeTurns turn limit s) := by
  induction limit with
  | zero => exact fun _ => leads_throw _
  | succ limit ih =>
    intro s
    unfold takeTurns
    grind

@[grind ←]
theorem leads_copyScope (scope : Nat) : Leads R (copyScope scope) := by
  unfold copyScope
  grind

end

section

variable {R : Store → Store → Prop} [EditRelation R] {engine : Engine}

mutual

theorem leads_evaluate [engine.Leads R] (p : Place) : ∀ e, Leads R (evaluate engine p e)
  | .literal _ _ | .hole _ => leads_pure _
  | .spliced texts values shown _ => by
    have texts := leads_evaluateSplices p (texts.drop 1) shown values
    unfold evaluate
    grind
  | .name id _ shown => leads_readName p id shown
  | .array items _ => by
    have items := leads_evaluateItems p items
    unfold evaluate
    grind
  | .object keys values _ => by
    have values := leads_evaluateAll p values
    unfold evaluate
    grind
  | .comma items => by
    have values := leads_evaluateAll p items
    unfold evaluate
    grind
  | .function head body => leads_closureOf p head body
  | .member base key spot => by
    have base := leads_evaluate p base
    unfold evaluate
    grind
  | .index base key spot => by
    have base := leads_evaluate p base
    have key := leads_evaluate p key
    unfold evaluate
    grind
  | .call callee args spot => by
    have values := leads_evaluateAll p args
    have f := leads_evaluate p callee
    cases callee with
    | member base key shown =>
      have base := leads_evaluate p base
      unfold evaluate
      grind
    | index base key shown =>
      have base := leads_evaluate p base
      have key := leads_evaluate p key
      unfold evaluate
      grind
    | _ =>
      unfold evaluate
      grind
  | .create callee args spot => by
    have f := leads_evaluate p callee
    have args := leads_evaluateAll p args
    unfold evaluate
    grind
  | .unary op operand spot => by
    have inner := leads_evaluate p operand
    cases op with
    | typeName =>
      cases operand with
      | name id place shown =>
        unfold evaluate
        grind
      | _ =>
        unfold evaluate
        grind
    | _ =>
      unfold evaluate
      grind
  | .binary op left right spot => by
    have left := leads_evaluate p left
    have right := leads_evaluate p right
    unfold evaluate
    grind
  | .logical op left right spot => by
    have left := leads_evaluate p left
    have right := leads_evaluate p right
    unfold evaluate
    grind
  | .choose condition yes no _ => by
    have condition := leads_evaluate p condition
    have yes := leads_evaluate p yes
    have no := leads_evaluate p no
    unfold evaluate
    grind
  | .assign target value spot => by
    have target := leads_resolve p target
    have value := leads_evaluate p value
    unfold evaluate
    grind
  | .update target op value read combined spot => by
    have target := leads_resolve p target
    have value := leads_evaluate p value
    unfold evaluate
    grind
  | .step target op old read combined spot => by
    have target := leads_resolve p target
    unfold evaluate
    grind

theorem leads_evaluateAll [engine.Leads R] (p : Place) : ∀ es, Leads R (evaluateAll engine p es)
  | [] => leads_pure _
  | e :: rest => by
    have first := leads_evaluate p e
    have others := leads_evaluateAll p rest
    unfold evaluateAll
    grind

theorem leads_evaluateItems [engine.Leads R] (p : Place) : ∀ es, Leads R (evaluateItems engine p es)
  | [] => leads_pure _
  | e :: rest => by
    have first := leads_evaluate p e
    have others := leads_evaluateItems p rest
    cases e with
    | hole =>
      unfold evaluateItems
      grind
    | _ =>
      unfold evaluateItems
      grind

theorem leads_evaluateSplices [engine.Leads R] (p : Place) (texts : List Text) (shown : List Spot) :
    ∀ es, Leads R (evaluateSplices engine p texts shown es)
  | [] => leads_pure _
  | e :: rest => by
    have first := leads_evaluate p e
    have others := leads_evaluateSplices p (texts.drop 1) (shown.drop 1) rest
    unfold evaluateSplices
    grind

theorem leads_resolve [engine.Leads R] (p : Place) : ∀ target, Leads R (resolve engine p target)
  | .name _ _ => leads_pure _
  | .member base key _ => by
    have base := leads_evaluate p base
    unfold resolve
    grind
  | .index base key _ => by
    have base := leads_evaluate p base
    have key := leads_evaluate p key
    unfold resolve
    grind
  | .call value message shown => by
    have value := leads_evaluate p value
    unfold resolve
    grind

end

mutual

theorem leads_perform [engine.Leads R] (p : Place) : ∀ st, Leads R (perform engine p st)
  | .expr value _ => by
    have value : Leads R (evaluate engine p value) := leads_evaluate p value
    unfold perform
    grind
  | .declare mutable pattern value spot => by
    have value : Leads R (evaluate engine p value) := leads_evaluate p value
    unfold perform
    grind
  | .function id head body exposed => by
    unfold perform
    grind
  | .choose condition yes no _ => by
    have condition : Leads R (evaluate engine p condition) := leads_evaluate p condition
    have first := fun inner last => leads_performAll inner last yes
    have second := fun inner last => leads_performAll inner last no
    unfold perform
    grind
  | .forOf mutable pattern source body opened last => by
    have inner := fun here last => leads_performAll here last body
    have source (here : Place) : Leads R (evaluate engine here source) := leads_evaluate here source
    unfold perform
    refine leads_bind (leads_enterLoop p pattern) fun place => leads_bind (source place) fun v => ?_
    refine leads_bind (leads_open? v) fun cursor => ?_
    split
    · exact leads_raiseNotSequence p opened v
    · -- what the loop does with one item is kept apart from the loop over all of them
      extract_lets turn
      have step (item : Value) : Leads R (turn item) := by grind
      clear_value turn
      grind
  | .forLoop start test step body => by
    have start := fun here last => leads_performAll here last start
    have inner := fun here last => leads_performAll here last body
    have test (here : Place) : Leads R (evaluate engine here test) := leads_evaluate here test
    have step (here : Place) : Leads R (evaluate engine here step) := leads_evaluate here step
    unfold perform
    refine leads_bind (leads_newScope _) fun first => leads_bind (leads_discard (start _ _)) fun _ => ?_
    extract_lets turn
    have turns (scope : Nat) : Leads R (turn scope) := by grind
    clear_value turn
    grind
  | .repeatWhile test body => by
    have inner := fun here last => leads_performAll here last body
    have test : Leads R (evaluate engine p test) := leads_evaluate p test
    unfold perform
    extract_lets turn
    have turns (u : Unit) : Leads R (turn u) := by grind
    exact leads_takeTurns turns loopAllowance ()
  | .block body => by
    have inner := fun here last => leads_performAll here last body
    unfold perform
    grind
  | .return value _ => by
    have value : Leads R (evaluate engine p value) := leads_evaluate p value
    unfold perform
    grind
  | .throw value _ => by
    have value : Leads R (evaluate engine p value) := leads_evaluate p value
    unfold perform
    grind

theorem leads_performAll [engine.Leads R] (p : Place) (last : Option Value) :
    ∀ body, Leads R (performAll engine p last body)
  | [] => leads_pure _
  | st :: rest => by
    have first := leads_perform p st
    have others := fun last => leads_performAll p last rest
    unfold performAll
    grind

end

end

section

variable {R : Store → Store → Prop} [EditRelation R] {engine : Engine} [engine.Leads R]

theorem leads_callClosure (frames : List Frame) (self : Value) (c : Closure) (args : List Value) :
    Leads R (callClosure engine frames self c args) := by
  have body (p : Place) : Leads R (performAll engine p none c.body) := leads_performAll p none c.body
  unfold callClosure
  grind

@[grind ←]
theorem leads_provideExposed (globals : Nat) (names : List Text) :
    Leads R (provideExposed globals names) := by
  induction names with
  | nil => exact leads_pure ()
  | cons id rest ih =>
    unfold provideExposed
    grind

theorem leads_runScript (home : Home) (body : List Stmt) : Leads R (runScript engine home body) := by
  have performed (p : Place) : Leads R (performAll engine p none body) := leads_performAll p none body
  unfold runScript
  grind

end

end LineTemplate.Script.Run
