import LineTemplate.Proofs.Evaluation.Steps
import LineTemplate.Script.Operation

/-!
What a run can do to a store, whatever it computes. A relation between stores that is transitive and that
every change of objects and names respects holds between the store before a run and the store after it, as
soon as it does for the calls that the run makes. The lemmas are tagged so that `grind` follows the way in
which a run is put together.
-/

set_option autoImplicit false

namespace LineTemplate.Script

/-- A relation between the stores before and after a run that holds if the run only adds to the store. -/
class GrowthRelation (R : Store → Store → Prop) : Prop where
  trans : ∀ {s s' s''}, R s s' → R s' s'' → R s s''
  grow : ∀ {s s' : Store}, s.objects.size ≤ s'.objects.size →
    (∀ a < s.objects.size, s'.objects[a]? = s.objects[a]?) → s'.templates = s.templates →
    s'.log = s.log → R s s'

def SparesFinished (f : Obj → Obj) : Prop :=
  ∀ o, o.kind = .generator .finished → (f o).kind = .generator .finished

/-- A relation between the stores before and after a run for which it does not matter what else becomes of
an object, as long as a finished generator stays one. -/
class EditRelation (R : Store → Store → Prop) : Prop where
  trans : ∀ {s s' s''}, R s s' → R s' s'' → R s s''
  grow : ∀ {s s' : Store}, s.objects.size ≤ s'.objects.size →
    (∀ a < s.objects.size, s'.objects[a]? = s.objects[a]?) → s'.templates = s.templates →
    s'.log = s.log → R s s'
  edit : ∀ (s : Store) (a : Nat) {f : Obj → Obj}, SparesFinished f → R s (s.changeObject a f)

/-- A relation between the stores before and after a run for which it does not matter what the objects are,
as long as none is lost. -/
class HeapRelation (R : Store → Store → Prop) : Prop where
  trans : ∀ {s s' s''}, R s s' → R s' s'' → R s s''
  heap : ∀ {s s' : Store}, s.objects.size ≤ s'.objects.size → s'.templates = s.templates →
    s'.log = s.log → R s s'

instance {R : Store → Store → Prop} [EditRelation R] : GrowthRelation R where
  trans := EditRelation.trans
  grow := EditRelation.grow

instance {R : Store → Store → Prop} [HeapRelation R] : EditRelation R where
  trans := HeapRelation.trans
  grow size _ templates log := HeapRelation.heap size templates log
  edit s a f _ := by
    have size : (s.objects.modify a f).size = s.objects.size := Array.size_modify
    exact HeapRelation.heap (Nat.le_of_eq size.symm) rfl rfl

theorem GrowthRelation.refl {R : Store → Store → Prop} [GrowthRelation R] (s : Store) : R s s :=
  grow (Nat.le_refl _) (fun _ _ => rfl) rfl rfl

namespace Run

def after {α : Type} (run : Run α) (s : Store) : Store :=
  match run s with
  | .ok _ s' | .error _ s' => s'

/-- From every store the run leads to one that is in relation to it. -/
def Leads (R : Store → Store → Prop) {α : Type} (run : Run α) : Prop := ∀ s, R s (run.after s)

theorem after_ok {α : Type} {run : Run α} {s s' : Store} {a : α} (h : run s = .ok a s') :
    run.after s = s' := by
  unfold after
  rw [h]

theorem after_error {α : Type} {run : Run α} {s s' : Store} {e : Stop} (h : run s = .error e s') :
    run.after s = s' := by
  unfold after
  rw [h]

theorem after_congr {α : Type} {run run' : Run α} {s s' : Store} (same : run s = run' s') :
    run.after s = run'.after s' := by
  unfold after
  rw [same]

theorem bind_congr_at {α β : Type} {x y : Run α} {s s' : Store} (same : x s = y s') (f : α → Run β) :
    (x >>= f) s = (y >>= f) s' := by
  change EStateM.bind x f s = EStateM.bind y f s'
  unfold EStateM.bind
  rw [same]

theorem Leads.ok {R : Store → Store → Prop} {α : Type} {run : Run α} {s s' : Store} {a : α}
    (h : Leads R run) (ran : run s = .ok a s') : R s s' := after_ok ran ▸ h s

theorem Leads.error {R : Store → Store → Prop} {α : Type} {run : Run α} {s s' : Store} {stop : Stop}
    (h : Leads R run) (ran : run s = .error stop s') : R s s' := after_error ran ▸ h s

end Run

class Engine.Leads (R : Store → Store → Prop) (engine : Engine) : Prop where
  call : ∀ frames f this args, Run.Leads R (engine.call frames f this args)
  resume : ∀ frames address, Run.Leads R (engine.resume frames address)

namespace Run

section

variable {R : Store → Store → Prop} {engine : Engine} [engine.Leads R]

@[grind ←]
theorem leads_call (frames : List Frame) (f this : Value) (args : List Value) :
    Leads R (engine.call frames f this args) :=
  Engine.Leads.call frames f this args

@[grind ←]
theorem leads_resume (frames : List Frame) (address : Nat) : Leads R (engine.resume frames address) :=
  Engine.Leads.resume frames address

end

section

variable {R : Store → Store → Prop} [GrowthRelation R] {α β : Type}

@[grind ←]
theorem leads_pure (a : α) : Leads R (pure a : Run α) := fun s => GrowthRelation.refl s

@[grind ←]
theorem leads_throw (stop : Stop) : Leads R (throw stop : Run α) := fun s => GrowthRelation.refl s

@[grind ←]
theorem leads_get : Leads R (get : Run Store) := fun s => GrowthRelation.refl s

@[grind ←]
theorem leads_bind {x : Run α} {f : α → Run β} (first : Leads R x) (next : ∀ a, Leads R (f a)) :
    Leads R (x >>= f) := by
  intro s
  have reached := first s
  cases ran : x s with
  | ok a s' =>
    rw [after_ok ran] at reached
    rw [after_congr (bind_ok ran)]
    exact GrowthRelation.trans reached (next a s')
  | error e s' =>
    rw [after_error ran] at reached
    rw [after_error (bind_error ran)]
    exact reached

@[grind ←]
theorem leads_tryCatch {x : Run α} {handle : Stop → Run α} (first : Leads R x)
    (next : ∀ stop, Leads R (handle stop)) : Leads R (tryCatch x handle) := by
  intro s
  have reached := first s
  cases ran : x s with
  | ok a s' =>
    rw [after_ok ran] at reached
    rw [after_ok (tryCatch_ok ran)]
    exact reached
  | error e s' =>
    rw [after_error ran] at reached
    rw [after_congr (tryCatch_error ran)]
    exact GrowthRelation.trans reached (next e s')

@[grind ←]
theorem leads_mapM {f : α → Run β} (step : ∀ a, Leads R (f a)) (xs : List α) :
    Leads R (xs.mapM f) := by
  induction xs with
  | nil => exact leads_pure []
  | cons x rest ih =>
    rw [List.mapM_cons]
    exact leads_bind (step x) fun y => leads_bind ih fun ys => leads_pure (y :: ys)

@[grind ←]
theorem leads_forM {f : α → Run Unit} (step : ∀ a, Leads R (f a)) (xs : List α) :
    Leads R (xs.forM f) := by
  induction xs with
  | nil => exact leads_pure ()
  | cons x rest ih => exact leads_bind (step x) fun _ => ih

@[grind ←]
theorem leads_discard {x : Run α} (h : Leads R x) : Leads R (discard x) :=
  leads_bind h fun _ => leads_pure ()

@[grind ←]
theorem leads_allocate (o : Obj) : Leads R (allocate o) := by
  intro s
  have size : (s.objects.push o).size = s.objects.size + 1 := Array.size_push o
  refine GrowthRelation.grow (size ▸ Nat.le_succ _) (fun a inside => ?_) rfl rfl
  exact (Array.getElem?_push_lt inside).trans (Array.getElem?_eq_getElem inside).symm

@[grind ←]
theorem leads_newScope (names : Members Binding) : Leads R (newScope names) :=
  fun _ => GrowthRelation.grow (Nat.le_refl _) (fun _ _ => rfl) rfl rfl

@[grind ←]
theorem leads_setBinding (scope : Nat) (id : Text) (binding : Binding) :
    Leads R (setBinding scope id binding) :=
  fun _ => GrowthRelation.grow (Nat.le_refl _) (fun _ _ => rfl) rfl rfl

@[grind ←]
theorem leads_freshSymbol (description : Text) : Leads R (freshSymbol description) :=
  fun _ => GrowthRelation.grow (Nat.le_refl _) (fun _ _ => rfl) rfl rfl

@[grind ←]
theorem leads_object? (address : Nat) : Leads R (object? address) := fun s => GrowthRelation.refl s

@[grind ←]
theorem leads_allocateKind (kind : Kind) : Leads R (allocateKind kind) := leads_allocate _

@[grind ←]
theorem leads_allocateGiven (kind : Kind) : Leads R (allocateGiven kind) := leads_allocate _

@[grind ←]
theorem leads_allocateArray (items : List Value) : Leads R (allocateArray items) := leads_allocate _

@[grind ←]
theorem leads_allocateFunction (f : Native) : Leads R (allocateFunction f) := leads_allocate _

@[grind ←]
theorem leads_newError (frames : List Frame) (report : ErrorReport) : Leads R (newError frames report) :=
  leads_allocate _

@[grind ←]
theorem leads_throwValue (v : Value) : Leads R (throwValue v : Run α) := leads_throw (.thrown v)

@[grind ←]
theorem leads_raise (frames : List Frame) (report : ErrorReport) :
    Leads R (raise frames report : Run α) :=
  leads_bind (leads_newError frames report) leads_throwValue

@[grind ←]
theorem leads_raiseType (frames : List Frame) (message : Text) :
    Leads R (raiseType frames message : Run α) :=
  leads_raise frames _

@[grind ←]
theorem leads_raiseRange (frames : List Frame) (message : Text) :
    Leads R (raiseRange frames message : Run α) :=
  leads_raise frames _

@[grind ←]
theorem leads_raiseReference (frames : List Frame) (message : Text) :
    Leads R (raiseReference frames message : Run α) :=
  leads_raise frames _

@[grind ←]
theorem leads_kind? (v : Value) : Leads R (kind? v) := by
  unfold kind?
  grind

@[grind ←]
theorem leads_isFunction (v : Value) : Leads R (isFunction v) := by
  unfold isFunction
  grind

@[grind ←]
theorem leads_typeName (v : Value) : Leads R (typeName v) := by
  unfold typeName
  grind

@[grind ←]
theorem leads_describeType (v : Value) : Leads R (describeType v) := by
  unfold describeType
  grind

@[grind ←]
theorem leads_member (v : Value) (key : Text) : Leads R (member v key) := by
  unfold member
  grind

@[grind ←]
theorem leads_memberBy (v : Value) (key : Key) : Leads R (memberBy v key) := by
  unfold memberBy
  grind

@[grind ←]
theorem leads_listedMembers (address : Nat) : Leads R (listedMembers address) := by
  unfold listedMembers
  grind

end

section

variable {R : Store → Store → Prop} [EditRelation R]

theorem leads_modifyObject (address : Nat) {f : Obj → Obj} (spares : SparesFinished f) :
    Leads R (modifyObject address f) :=
  fun s => EditRelation.edit s address spares

@[grind ←]
theorem leads_finish (address : Nat) : Leads R (setKind address (.generator .finished)) :=
  leads_modifyObject address fun _ _ => rfl

@[grind ←]
theorem leads_setMember (address : Nat) (key : Text) (v : Value) : Leads R (setMember address key v) :=
  leads_modifyObject address fun _ finished => finished

theorem leads_eraseMember (address : Nat) (key : Text) :
    Leads R (modifyObject address fun o => { o with members := o.members.erase key }) :=
  leads_modifyObject address fun _ finished => finished

@[grind ←]
theorem leads_modifySlots (address : Nat) (f : Slots Value → Slots Value) :
    Leads R (modifySlots address f) := by
  refine leads_modifyObject address fun o finished => ?_
  split
  · cases finished
  · exact finished

end

@[grind ←]
theorem leads_setKind {R : Store → Store → Prop} [HeapRelation R] (address : Nat) (kind : Kind) :
    Leads R (setKind address kind) := by
  intro s
  have size : (s.objects.modify address fun o => { o with kind := kind }).size = s.objects.size :=
    Array.size_modify
  exact HeapRelation.heap (Nat.le_of_eq size.symm) rfl rfl

end Run

end LineTemplate.Script
