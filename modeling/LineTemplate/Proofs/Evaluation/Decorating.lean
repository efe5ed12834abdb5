import LineTemplate.Proofs.Evaluation.Finished

/-!
Generators that put text around the items of a sequence. Decorating a sequence twice is decorating it once:
both generators read the same items at the same moments, and fail where reading or converting an item does.
-/

set_option autoImplicit false

namespace LineTemplate

open Script

/-- An item with text around it. An item without text stays without. -/
def decorated (lead trail t : Text) : Text := if t.isEmpty then [] else lead ++ t ++ trail

theorem decorated_decorated (lead₁ trail₁ lead₂ trail₂ t : Text) :
    decorated lead₂ trail₂ (decorated lead₁ trail₁ t) =
      decorated (lead₂ ++ lead₁) (trail₁ ++ trail₂) t := by
  unfold decorated
  cases t with
  | nil => rfl
  | cons c rest => simp

namespace Script

def Store.withFinished (s : Store) : Store := s.addObject (.ofKind (.generator .finished))

namespace Run

/-- The text of the next item, and what is left to read. A sequence with an item that has no text is
closed. -/
def pull (engine : Engine) (frames : List Frame) (cursor : Cursor) : Run (Option (Text × Cursor)) := do
  match ← next engine frames cursor with
  | none => return none
  | some (v, rest) =>
    let content ← tryCatch (textOf engine frames v) fun stop => do
      close rest
      throw stop
    return some (content, rest)

def opened (engine : Engine) (frames : List Frame) (factory : Value) : Run Cursor := do
  match ← open? (← engine.call frames factory .undefined []) with
  | some cursor => return cursor
  | none => raiseType frames "factory is not a function or its return value is not iterable"

def fetch (engine : Engine) (frames : List Frame) : Producer → Run (Option (Text × Cursor))
  | .decorated factory _ _ => do pull engine frames (← opened engine frames factory)
  | .decorating cursor _ _ => pull engine frames cursor
  | _ => return none

def deliver (address : Nat) (lead trail : Text) : Option (Text × Cursor) → Run (Option Value)
  | none => return none
  | some (content, rest) => do
    setKind address (.generator (.decorating rest lead trail))
    return some (.text (decorated lead trail content))

/-- A generator that decorates with these texts, started or not. -/
inductive Decorates (lead trail : Text) : Producer → Prop
  | start (factory : Value) : Decorates lead trail (.decorated factory lead trail)
  | going (cursor : Cursor) : Decorates lead trail (.decorating cursor lead trail)

variable {engine : Engine} {frames : List Frame}

theorem decorateNext_eq (engine : Engine) (frames : List Frame) (address : Nat) (cursor : Cursor)
    (lead trail : Text) :
    decorateNext engine frames address cursor lead trail =
      pull engine frames cursor >>= deliver address lead trail := by
  unfold decorateNext pull
  rw [bind_assoc]
  refine congrArg (next engine frames cursor >>= ·) (funext fun found => ?_)
  cases found with
  | none => rfl
  | some item =>
    dsimp only
    rw [bind_assoc]
    rfl

theorem continueGenerator_decorates {lead trail : Text} {producer : Producer}
    (decorates : Decorates lead trail producer) {s : Store} {a : Nat}
    (known : s.kindAt a = some (.generator producer)) :
    continueGenerator engine frames a s =
      (fetch engine frames producer >>= deliver a lead trail) (s.withKind a (.generator .finished)) := by
  have kind : kind? (.ref a) s = .ok (some (.generator producer)) s := by rw [kind?_ref, known]
  change (kind? (.ref a) >>= _) s = _
  rw [bind_ok kind]
  have set : setKind a (.generator .finished) s = .ok () (s.withKind a (.generator .finished)) := rfl
  cases decorates with
  | going cursor =>
    refine (bind_ok set).trans ?_
    exact congrFun (decorateNext_eq engine frames a cursor lead trail) _
  | start factory =>
    have opens : (opened engine frames factory >>= fun cursor =>
        decorateNext engine frames a cursor lead trail) =
          fetch engine frames (.decorated factory lead trail) >>= deliver a lead trail := by
      change _ = (opened engine frames factory >>= pull engine frames) >>= deliver a lead trail
      rw [bind_assoc]
      exact congrArg _ (funext fun cursor => decorateNext_eq engine frames a cursor lead trail)
    rw [← opens]
    refine (bind_ok set).trans ?_
    refine congrFun ?_ (s.withKind a (.generator .finished))
    unfold opened
    rw [bind_assoc]
    refine congrArg (engine.call frames factory .undefined [] >>= ·) (funext fun source => ?_)
    rw [bind_assoc]
    refine congrArg (open? source >>= ·) (funext fun found => ?_)
    cases found with
    | some cursor => rfl
    | none => rfl

theorem leads_opened {R : Store → Store → Prop} [EditRelation R] [engine.Leads R] (frames : List Frame)
    (factory : Value) : Leads R (opened engine frames factory) := by
  unfold opened
  grind

theorem leads_pull {R : Store → Store → Prop} [EditRelation R] [engine.Leads R] (frames : List Frame)
    (cursor : Cursor) : Leads R (pull engine frames cursor) := by
  unfold pull
  grind

theorem leads_fetch {R : Store → Store → Prop} [EditRelation R] [engine.Leads R] (frames : List Frame)
    (producer : Producer) : Leads R (fetch engine frames producer) := by
  unfold fetch
  split
  · exact leads_bind (leads_opened frames _) fun cursor => leads_pull frames cursor
  · exact leads_pull frames _
  · exact leads_pure _

/-- Two readers that are continued get the same: an item, after which the stores are in relation, or the
same end in the same store. -/
inductive Alike (related : Store → Store → Prop) :
    EStateM.Result Stop Store (Option Value) → EStateM.Result Stop Store (Option Value) → Prop
  | failed (stop : Stop) (s : Store) : Alike related (.error stop s) (.error stop s)
  | ended (s : Store) : Alike related (.ok none s) (.ok none s)
  | item (v : Value) {s s' : Store} (between : related s s') :
      Alike related (.ok (some v) s) (.ok (some v) s')

/-- The stores between two items. In the first one `outer` decorates what `inner` gives; in the second one
`inner` decorates with the joined texts, and `outer` is finished. -/
inductive Paired (outer inner : Nat) (lead₁ trail₁ lead₂ trail₂ : Text) : Store → Store → Prop
  | intro {s : Store} (rest : Cursor) (outerDone : s.kindAt outer = some (.generator .finished))
      (innerDone : s.kindAt inner = some (.generator .finished)) :
      Paired outer inner lead₁ trail₁ lead₂ trail₂
        ((s.withKind inner (.generator (.decorating rest lead₁ trail₁))).withKind outer
          (.generator (.decorating (.generator inner) lead₂ trail₂)))
        (s.withKind inner (.generator (.decorating rest (lead₂ ++ lead₁) (trail₁ ++ trail₂))))

variable {lead₁ trail₁ lead₂ trail₂ : Text}

theorem next_generator {a : Nat} {s s₁ : Store} {read : Run (Option (Text × Cursor))} {lead trail : Text}
    (resumed : engine.resume frames a s = (read >>= deliver a lead trail) s₁) :
    next engine frames (.generator a) s =
      match read s₁ with
      | .error stop s' => .error stop s'
      | .ok none s' => .ok none s'
      | .ok (some (content, rest)) s' =>
        .ok (some (.text (decorated lead trail content), .generator a))
          (s'.withKind a (.generator (.decorating rest lead trail))) := by
  cases ran : read s₁ with
  | error stop s' => exact bind_error (resumed.trans (bind_error ran))
  | ok found s' =>
    cases found with
    | none => exact bind_ok (resumed.trans (bind_ok ran))
    | some item => exact bind_ok (resumed.trans (bind_ok ran))

theorem pull_generator {a : Nat} {s s₁ : Store} {read : Run (Option (Text × Cursor))} {lead trail : Text}
    (resumed : engine.resume frames a s = (read >>= deliver a lead trail) s₁) :
    pull engine frames (.generator a) s =
      match read s₁ with
      | .error stop s' => .error stop s'
      | .ok none s' => .ok none s'
      | .ok (some (content, rest)) s' => .ok (some (decorated lead trail content, .generator a))
          (s'.withKind a (.generator (.decorating rest lead trail))) := by
  have given := next_generator resumed
  cases ran : read s₁ with
  | error stop s' =>
    rw [ran] at given
    exact bind_error given
  | ok found s' =>
    rw [ran] at given
    cases found with
    | none => exact bind_ok given
    | some item => exact bind_ok given

/-- The outer generator gives what the inner one gives, and that is what one generator gives that reads the
same. What is read meanwhile finds both finished, and leaves them so. -/
theorem decorations_alike {engine' : Engine} {outer inner : Nat} {s s₁ s₂ t : Store}
    {read : Run (Option (Text × Cursor))}
    (outerRun : engine'.resume frames outer s =
      (pull engine frames (.generator inner) >>= deliver outer lead₂ trail₂) s₁)
    (innerRun : engine.resume frames inner s₁ = (read >>= deliver inner lead₁ trail₁) s₂)
    (fusedRun : engine.resume frames inner t =
      (read >>= deliver inner (lead₂ ++ lead₁) (trail₁ ++ trail₂)) s₂)
    (leads : ∀ a, Leads (Store.KeepsFinished a) read)
    (outerDone : s₂.kindAt outer = some (.generator .finished))
    (innerDone : s₂.kindAt inner = some (.generator .finished)) :
    Alike (Paired outer inner lead₁ trail₁ lead₂ trail₂) (engine'.resume frames outer s)
      (engine.resume frames inner t) := by
  have pulled := pull_generator innerRun
  rw [outerRun, fusedRun]
  cases ran : read s₂ with
  | error stop s' =>
    rw [ran] at pulled
    rw [bind_error pulled, bind_error ran]
    exact .failed stop s'
  | ok found s' =>
    rw [ran] at pulled
    cases found with
    | none =>
      rw [bind_ok pulled, bind_ok ran]
      exact .ended s'
    | some item =>
      rw [bind_ok pulled, bind_ok ran]
      have same := decorated_decorated lead₁ trail₁ lead₂ trail₂ item.1
      change Alike _ (.ok (some (.text (decorated lead₂ trail₂ (decorated lead₁ trail₁ item.1)))) _)
        (.ok (some (.text (decorated (lead₂ ++ lead₁) (trail₁ ++ trail₂) item.1))) _)
      rw [same]
      exact .item _ (.intro item.2 ((leads outer).ok ran outerDone) ((leads inner).ok ran innerDone))

theorem resume_nested (frames : List Frame) (depth : Nat) {lead trail : Text} {producer : Producer}
    (decorates : Decorates lead trail producer) {s : Store} {a : Nat}
    (known : s.kindAt a = some (.generator producer)) :
    (Engine.nested (depth + 1)).resume frames a s =
      (fetch (.nested depth) frames producer >>= deliver a lead trail)
        (s.withKind a (.generator .finished)) :=
  continueGenerator_decorates decorates known

/-- Between two items the two readers are in step. -/
theorem paired_alike (depth : Nat) {outer inner : Nat} (apart : inner ≠ outer) {s t : Store}
    (paired : Paired outer inner lead₁ trail₁ lead₂ trail₂ s t) :
    Alike (Paired outer inner lead₁ trail₁ lead₂ trail₂)
      ((Engine.nested (depth + 2)).resume frames outer s)
      ((Engine.nested (depth + 1)).resume frames inner t) := by
  cases paired with
  | @intro s rest outerDone innerDone =>
    have outerKept (kind : Kind) : (s.withKind inner kind).kindAt outer = some (.generator .finished) :=
      (s.kindAt_withKind_of_ne kind apart).trans outerDone
    have outerRun := resume_nested frames (depth + 1) (.going (.generator inner))
      (Store.kindAt_withKind (outerKept (.generator (.decorating rest lead₁ trail₁)))
        (.generator (.decorating (.generator inner) lead₂ trail₂)))
    rw [Store.withKind_back (outerKept _)] at outerRun
    have innerRun := resume_nested frames depth (.going rest)
      (Store.kindAt_withKind innerDone (.generator (.decorating rest lead₁ trail₁)))
    have fusedRun := resume_nested frames depth (.going rest)
      (Store.kindAt_withKind innerDone
        (.generator (.decorating rest (lead₂ ++ lead₁) (trail₁ ++ trail₂))))
    rw [Store.withKind_back innerDone] at innerRun fusedRun
    exact decorations_alike outerRun innerRun fusedRun (fun a => leads_fetch frames _) outerDone innerDone

theorem call_decorate (depth : Nat) {s : Store} {g : Nat} {f : Value} {lead trail : Text}
    (known : s.kindAt g = some (.function (.native (.decorate f lead trail)))) (this : Value)
    (args : List Value) :
    (Engine.nested (depth + 1)).call frames (.ref g) this args s =
      .ok (.ref s.objects.size) (s.addObject (.ofKind (.generator (.decorated f lead trail)))) := by
  have kind : kind? (.ref g) s = .ok (some (.function (.native (.decorate f lead trail)))) s := by
    rw [kind?_ref, known]
  change (kind? (.ref g) >>= _) s = _
  rw [bind_ok kind]
  rfl

theorem opened_decorate (depth : Nat) {s : Store} {g : Nat} {f : Value} {lead trail : Text}
    (known : s.kindAt g = some (.function (.native (.decorate f lead trail)))) :
    opened (.nested (depth + 1)) frames (.ref g) s =
      .ok (.generator s.objects.size) (s.addObject (.ofKind (.generator (.decorated f lead trail)))) := by
  have fresh := s.kindAt_addObject_size (.ofKind (.generator (.decorated f lead trail)))
  have kind := kind?_ref (s.addObject (.ofKind (.generator (.decorated f lead trail)))) s.objects.size
  rw [fresh] at kind
  unfold opened
  rw [bind_ok (call_decorate depth known .undefined [])]
  change ((kind? (.ref s.objects.size) >>= _) >>= _) _ = _
  rw [bind_assoc, bind_ok kind]
  rfl

/-- From the first item on the two readers are in step. The generator that the outer one reads is made when
it is asked for the first item. -/
theorem started_alike (depth : Nat) {s : Store} {g : Nat} {f : Value}
    (known : s.kindAt g = some (.function (.native (.decorate f lead₁ trail₁)))) :
    Alike (Paired s.objects.size s.withFinished.objects.size lead₁ trail₁ lead₂ trail₂)
      ((Engine.nested (depth + 2)).resume frames s.objects.size
        (s.addObject (.ofKind (.generator (.decorated (.ref g) lead₂ trail₂)))))
      ((Engine.nested (depth + 1)).resume frames s.withFinished.objects.size
        (s.withFinished.addObject
          (.ofKind (.generator (.decorated f (lead₂ ++ lead₁) (trail₁ ++ trail₂)))))) := by
  have outerRun := resume_nested frames (depth + 1) (.start (.ref g))
    (s.kindAt_addObject_size (.ofKind (.generator (.decorated (.ref g) lead₂ trail₂))))
  have innerRun := resume_nested frames depth (.start f)
    (s.withFinished.kindAt_addObject_size (.ofKind (.generator (.decorated f lead₁ trail₁))))
  have fusedRun := resume_nested frames depth (.start f)
    (s.withFinished.kindAt_addObject_size
      (.ofKind (.generator (.decorated f (lead₂ ++ lead₁) (trail₁ ++ trail₂)))))
  rw [Store.withKind_addObject] at outerRun innerRun fusedRun
  have kept : s.withFinished.kindAt g = some (.function (.native (.decorate f lead₁ trail₁))) :=
    Store.kindAt_addObject known _
  change _ = ((opened (.nested (depth + 1)) frames (.ref g) >>= pull (.nested (depth + 1)) frames) >>=
    deliver s.objects.size lead₂ trail₂) s.withFinished at outerRun
  rw [bind_assoc, bind_ok (opened_decorate depth kept)] at outerRun
  refine decorations_alike outerRun innerRun fusedRun (fun a => leads_fetch frames _) ?_ ?_
  · exact Store.kindAt_addObject (s.kindAt_addObject_size _) _
  · exact s.withFinished.kindAt_addObject_size _

end Run

/-- How the reading of a sequence ends. -/
inductive Ending where
  /-- As many items were read as were asked for. -/
  | unfinished
  | finished
  | failed (stop : Stop)

/-- What is read from a generator, and the store afterwards. -/
structure Reading where
  items : List Value
  ending : Ending
  store : Store

/-- Two readings of the same items with the same end. Once the sequences have ended, the stores are the
same too. -/
structure Reading.Same (r r' : Reading) : Prop where
  items : r.items = r'.items
  ending : r.ending = r'.ending
  store : r.ending ≠ .unfinished → r.store = r'.store

/-- Reads the generator at an address up to a number of items. -/
def Engine.readItems (engine : Engine) (frames : List Frame) (a : Nat) : Nat → Store → Reading
  | 0, s => ⟨[], .unfinished, s⟩
  | limit + 1, s =>
    match engine.resume frames a s with
    | .error stop s' => ⟨[], .failed stop, s'⟩
    | .ok none s' => ⟨[], .finished, s'⟩
    | .ok (some v) s' =>
      let later := engine.readItems frames a limit s'
      ⟨v :: later.items, later.ending, later.store⟩

theorem same_readItems_succ {engine engine' : Engine} {frames : List Frame} {a a' limit : Nat}
    {related : Store → Store → Prop} {s s' : Store}
    (first : Run.Alike related (engine.resume frames a s) (engine'.resume frames a' s'))
    (later : ∀ t t', related t t' →
      (engine.readItems frames a limit t).Same (engine'.readItems frames a' limit t')) :
    (engine.readItems frames a (limit + 1) s).Same (engine'.readItems frames a' (limit + 1) s') := by
  unfold Engine.readItems
  revert first
  generalize engine.resume frames a s = ran
  generalize engine'.resume frames a' s' = ran'
  intro first
  cases first with
  | failed stop t => exact ⟨rfl, rfl, fun _ => rfl⟩
  | ended t => exact ⟨rfl, rfl, fun _ => rfl⟩
  | @item v t t' between =>
    have rest := later t t' between
    exact ⟨congrArg (v :: ·) rest.items, rest.ending, rest.store⟩

theorem same_readItems {engine engine' : Engine} {frames : List Frame} {a a' : Nat}
    {related : Store → Store → Prop}
    (step : ∀ s s', related s s' →
      Run.Alike related (engine.resume frames a s) (engine'.resume frames a' s')) (limit : Nat) :
    ∀ s s', related s s' →
      (engine.readItems frames a limit s).Same (engine'.readItems frames a' limit s') := by
  induction limit with
  | zero => exact fun _ _ _ => ⟨rfl, rfl, fun still => absurd rfl still⟩
  | succ limit ih => exact fun s s' between => same_readItems_succ (step s s' between) ih

/-- What a sequence gives that is decorated twice is what it gives when it is decorated once with the joined
texts. The calls nest one level less then, and there is one generator less. -/
theorem same_decorations (depth : Nat) (frames : List Frame) {s : Store} {g : Nat} {f : Value}
    {lead₁ trail₁ : Text} (known : s.kindAt g = some (.function (.native (.decorate f lead₁ trail₁))))
    (lead₂ trail₂ : Text) (limit : Nat) :
    ((Engine.nested (depth + 2)).readItems frames s.objects.size limit
      (s.addObject (.ofKind (.generator (.decorated (.ref g) lead₂ trail₂))))).Same
    ((Engine.nested (depth + 1)).readItems frames s.withFinished.objects.size limit
      (s.withFinished.addObject
        (.ofKind (.generator (.decorated f (lead₂ ++ lead₁) (trail₁ ++ trail₂)))))) := by
  have apart : s.withFinished.objects.size ≠ s.objects.size := by
    have size : s.withFinished.objects.size = s.objects.size + 1 := Array.size_push _
    omega
  cases limit with
  | zero => exact ⟨rfl, rfl, fun still => absurd rfl still⟩
  | succ limit =>
    exact same_readItems_succ (Run.started_alike depth known)
      (same_readItems (fun _ _ paired => Run.paired_alike depth apart paired) limit)

end Script

end LineTemplate
