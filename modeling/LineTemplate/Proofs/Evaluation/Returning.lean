import LineTemplate.Evaluation.Session
import LineTemplate.Proofs.Evaluation.Evaluating

/-!
How evaluations end. What an evaluation does before it runs a program fails only at a read-only entry of the
scope, and what the run throws is caught. After the run the items of the list that it returns are converted to
text, and so is what it throws unless this has a message; a conversion calls functions of the program, which
may throw in turn, and nothing catches that.
-/

set_option autoImplicit false

namespace LineTemplate

open Script

namespace Script.Run

/-- The run has a result from every state. -/
def Total {α : Type} (run : Run α) : Prop := ∀ s, ∃ a s', run s = .ok a s'

section

variable {α β : Type}

theorem Total.pure (a : α) : Total (pure a : Run α) := fun s => ⟨a, s, rfl⟩

theorem Total.bind {x : Run α} {f : α → Run β} (first : Total x) (next : ∀ a, Total (f a)) :
    Total (x >>= f) := by
  intro s
  obtain ⟨a, s', ran⟩ := first s
  rw [bind_ok ran]
  exact next a s'

theorem Total.forM {f : α → Run Unit} (step : ∀ a, Total (f a)) (xs : List α) : Total (xs.forM f) := by
  induction xs with
  | nil => exact .pure ()
  | cons x rest ih => exact (step x).bind fun _ => ih

end

theorem total_allocate (o : Obj) : Total (allocate o) := fun _ => ⟨_, _, rfl⟩

theorem total_freshSymbol (description : Text) : Total (freshSymbol description) := fun _ => ⟨_, _, rfl⟩

mutual

theorem total_make (frames : List Frame) : ∀ d, Total (make frames d)
  | .undefined | .null | .bool _ | .number _ | .bigint _ | .text _ => .pure _
  | .symbol description => total_freshSymbol description
  | .array items => (total_makeAll frames items).bind fun _ => total_allocate _
  | .object members => (total_makeMembers frames members).bind fun _ => total_allocate _
  | .map pairs => (total_makePairs frames pairs).bind fun _ => total_allocate _
  | .set items => (total_makeAll frames items).bind fun _ => total_allocate _
  | .boxedText _ | .error _ _ _ | .generator _ | .iterable _ | .someFunction | .someIterable =>
    total_allocate _
  | .function behaviour => total_makeFunction frames behaviour

theorem total_makeAll (frames : List Frame) : ∀ items, Total (makeAll frames items)
  | [] => .pure _
  | d :: rest => (total_make frames d).bind fun _ => (total_makeAll frames rest).bind fun _ => .pure _

theorem total_makeMembers (frames : List Frame) : ∀ members, Total (makeMembers frames members)
  | [] => .pure _
  | (_, d) :: rest =>
    (total_make frames d).bind fun _ => (total_makeMembers frames rest).bind fun _ => .pure _

theorem total_makePairs (frames : List Frame) : ∀ pairs, Total (makePairs frames pairs)
  | [] => .pure _
  | (key, d) :: rest =>
    (total_make frames key).bind fun _ => (total_make frames d).bind fun _ =>
      (total_makePairs frames rest).bind fun _ => .pure _

theorem total_makeFunction (frames : List Frame) : ∀ behaviour, Total (makeFunction frames behaviour)
  | .const value => (total_make frames value).bind fun _ => total_allocate _
  | .decorate _ _ _ => (total_allocate _).bind fun _ => total_allocate _
  | .throw _ | .wrap _ _ | .identity | .typeName | .counter _ | .lookup _ _ | .sequence _ | .indexed
  | .entries | .evaluate _ _ => total_allocate _

end

theorem makeMembers_names {frames : List Frame} {members : Members Datum} {s s' : Store}
    {made : Members Value} (ran : makeMembers frames members s = .ok made s') :
    made.map Prod.fst = members.map Prod.fst := by
  induction members generalizing made s with
  | nil =>
    cases ran
    rfl
  | cons m rest ih =>
    unfold makeMembers at ran
    obtain ⟨v, s₁, -, ran⟩ := exists_of_bind_ok ran
    obtain ⟨others, s₂, second, ran⟩ := exists_of_bind_ok ran
    cases ran
    exact congrArg (m.1 :: ·) (ih second)

theorem total_prepareScope (scope : Nat) : Total (prepareScope scope) := fun s =>
  have ⟨s', prepared, _⟩ := prepareScope_readied scope s
  ⟨(), s', prepared⟩

theorem total_forM_assignEntry (frames : List Frame) (scope : Nat) (values : Members Value) :
    Total (values.forM fun (key, value) => assignEntry frames [] scope key value : Run Unit) := by
  refine Total.forM (fun m => ?_) values
  change Total (assignEntry frames [] scope m.1 m.2)
  rw [assignEntry_of_notMem frames scope List.not_mem_nil]
  exact fun _ => ⟨_, _, rfl⟩

/-- The texts that are made after a run exist: those of the items of the array that it returns, as far as
this reaches while its items are converted, or the message of what it throws. -/
def Converts (engine : Engine) (frames : List Frame) : Except Value Value → Store → Prop
  | .ok v, s => ∀ a slots, v = .ref a → kind? v s = .ok (some (.array slots)) s → ∃ texts s',
      ItemTexts engine frames a 0 s texts s' ∧ texts.length < s.itemCount + loopAllowance
  | .error v, s => ∃ message s', failureMessage engine frames v s = .ok message s'

/-- There is nothing to call for these texts: no item is an object, and what is thrown has a message or
is no object. -/
def Unconverted : Except Value Value → Store → Prop
  | .ok v, s => ∀ slots, kind? v s = .ok (some (.array slots)) s →
      ∀ item ∈ slots.toList, ∀ a, item ≠ some (.ref a)
  | .error v, s => (∀ a, v ≠ .ref a) ∨ ∃ message, ownMessage? v s = .ok (some message) s

theorem textOf_of_ne_ref (engine : Engine) (frames : List Frame) {v : Value} (plain : ∀ a, v ≠ .ref a)
    (s : Store) : ∃ t, textOf engine frames v s = .ok t s := by
  cases v with
  | ref a => exact absurd rfl (plain a)
  | undefined | null | bool | number | bigint | text | symbol => exact ⟨_, rfl⟩

theorem ownMessage?_reads (v : Value) (s : Store) : ∃ r, ownMessage? v s = .ok r s := by
  unfold ownMessage?
  cases v with
  | ref a =>
    obtain ⟨callable, known⟩ := isFunction_reads (.ref a) s
    obtain ⟨message, found⟩ := member_reads (.ref a) "message" s
    change ∃ r, (isFunction (.ref a) >>= _) s = _
    rw [bind_ok known]
    cases callable with
    | true => exact ⟨_, rfl⟩
    | false =>
      change ∃ r, (member (.ref a) "message" >>= _) s = _
      rw [bind_ok found]
      cases message <;> exact ⟨_, rfl⟩
  | undefined | null | bool | number | bigint | text | symbol => exact ⟨_, rfl⟩

theorem failureMessage_of_ownMessage? (engine : Engine) (frames : List Frame) {v : Value} {s : Store}
    {message : Text} (said : ownMessage? v s = .ok (some message) s) :
    ∃ t, failureMessage engine frames v s = .ok t s := by
  obtain ⟨name, found⟩ := member_reads v "name" s
  unfold failureMessage
  rw [bind_ok said]
  change ∃ t, (member v "name" >>= _) s = _
  rw [bind_ok found]
  cases name <;> exact ⟨_, rfl⟩

theorem exists_texts {engine : Engine} {frames : List Frame} {s : Store} {vs : List Value}
    (each : ∀ v ∈ vs, ∃ t, textOf engine frames v s = .ok t s) :
    ∃ texts, List.Forall₂ (fun v t => textOf engine frames v s = .ok t s) vs texts := by
  induction vs with
  | nil => exact ⟨[], .nil⟩
  | cons v rest ih =>
    obtain ⟨t, text⟩ := each v List.mem_cons_self
    obtain ⟨texts, others⟩ := ih fun other member => each other (List.mem_cons_of_mem v member)
    exact ⟨t :: texts, .cons text others⟩

theorem kindAt_of_kind? {a : Nat} {s : Store} {kind : Kind}
    (found : kind? (.ref a) s = .ok (some kind) s) : s.kindAt a = some kind := by
  rw [kind?_ref] at found
  injection found

theorem Unconverted.converts {ending : Except Value Value} {s : Store} (h : Unconverted ending s)
    (engine : Engine) (frames : List Frame) : Converts engine frames ending s := by
  cases ending with
  | ok v =>
    rintro a slots rfl found
    have each : ∀ v ∈ slots.values, ∃ t, textOf engine frames v s = .ok t s := by
      intro v member
      obtain ⟨item, inside, rfl⟩ := List.mem_map.1 member
      refine textOf_of_ne_ref engine frames (fun b same => ?_) s
      cases item with
      | none => cases same
      | some v => exact h slots found (some v) inside b (congrArg some same)
    obtain ⟨texts, converted⟩ := exists_texts each
    exact ⟨texts, s, itemTexts_eq_ok_iff.1 (itemTexts_of_reads (kindAt_of_kind? found) converted)⟩
  | error v =>
    rcases h with plain | ⟨message, said⟩
    · obtain ⟨own, read⟩ := ownMessage?_reads v s
      cases own with
      | none =>
        obtain ⟨t, text⟩ := textOf_of_ne_ref engine frames plain s
        refine ⟨t, s, ?_⟩
        unfold failureMessage
        rw [bind_ok read]
        exact text
      | some message =>
        obtain ⟨t, text⟩ := failureMessage_of_ownMessage? engine frames read
        exact ⟨t, s, text⟩
    · obtain ⟨t, text⟩ := failureMessage_of_ownMessage? engine frames said
      exact ⟨t, s, text⟩

end Script.Run

namespace Script.BoundTemplate

theorem total_prepare (frames : List Frame) (t : BoundTemplate) (overrides : Members Datum) :
    Run.Total (t.prepare frames overrides) := by
  refine (Run.total_makeMembers frames overrides).bind fun _ =>
    (Run.total_forM_assignEntry frames t.scope _).bind fun _ => ?_
  rw [Run.prepareScopeWith_nil]
  exact Run.total_prepareScope t.scope

theorem causeOf_reads (v : Value) (s : Store) : ∃ r, causeOf v s = .ok r s := by
  obtain ⟨kind, found⟩ := Run.kind?_reads v s
  unfold causeOf
  rw [bind_ok found]
  split <;> exact ⟨_, rfl⟩

theorem produced_eq (engine : Engine) (frames : List Frame) (t : BoundTemplate) (o : EvaluationOptions)
    (v : Value) (s : Store) :
    (∃ a slots, v = .ref a ∧ Run.kind? v s = .ok (some (.array slots)) s ∧
      t.produced engine frames o v s = (do
        let content ← Run.itemTexts engine frames a
        let kept := o.keepLines t.program.endsWithNewline content
        Run.logDebug "Template evaluated"
          [("template", .text t.program.name), ("lines", .ofNat kept.length)]
        return .produced (.ofLines o kept) : Run EvaluationResult) s) ∨
    (∀ slots, Run.kind? v s ≠ .ok (some (.array slots)) s) ∧
      ∃ trail, t.produced engine frames o v s = .ok (.failed trail) s := by
  obtain ⟨kind, found⟩ := Run.kind?_reads v s
  obtain ⟨named, type, -⟩ := Run.describeType_reads v s
  by_cases array : ∃ a slots, v = .ref a ∧ kind = some (.array slots)
  · obtain ⟨a, slots, rfl, rfl⟩ := array
    refine .inl ⟨a, slots, rfl, found, ?_⟩
    unfold produced
    rw [bind_ok found]
  · refine .inr ⟨fun slots same => ?_, ?_⟩
    · rw [found] at same
      cases same
      cases v with
      | ref a => exact array ⟨a, slots, rfl, rfl⟩
      | _ => cases found
    · unfold produced
      rw [bind_ok found]
      split
      · rename_i a slots
        exact absurd ⟨a, slots, rfl, rfl⟩ array
      · rw [bind_ok type]
        exact ⟨_, rfl⟩

end Script.BoundTemplate

namespace Script.Run

/-- The run raises the error of an assignment to one of these names, which is read-only. -/
def RaisesReadOnly {α : Type} (frames : List Frame) (fixed names : List Text) (run : Run α) (s : Store) :
    Prop :=
  ∃ key ∈ names, key ∈ fixed ∧ ∃ s', run s = raiseType frames (readOnlyMessage key) s'

section

variable {α β : Type} {frames : List Frame} {fixed names : List Text} {x : Run α} {f : α → Run β}
  {s s' : Store} {a : α}

theorem RaisesReadOnly.bind (h : RaisesReadOnly frames fixed names x s) :
    RaisesReadOnly frames fixed names (x >>= f) s := by
  obtain ⟨key, inside, member, s₁, raised⟩ := h
  exact ⟨key, inside, member, s₁, bind_error (raised.trans rfl)⟩

theorem RaisesReadOnly.after (ran : x s = .ok a s') (h : RaisesReadOnly frames fixed names (f a) s') :
    RaisesReadOnly frames fixed names (x >>= f) s := by
  obtain ⟨key, inside, member, s₁, raised⟩ := h
  exact ⟨key, inside, member, s₁, (bind_ok ran).trans raised⟩

theorem RaisesReadOnly.mono {more : List Text} (wider : ∀ key ∈ names, key ∈ more)
    (h : RaisesReadOnly frames fixed names x s) : RaisesReadOnly frames fixed more x s := by
  obtain ⟨key, inside, raised⟩ := h
  exact ⟨key, wider key inside, raised⟩

end

variable {frames : List Frame} {fixed : List Text}

end Script.Run

namespace Script.BoundTemplate

variable {frames : List Frame} {fixed : List Text} {overrides : Members Datum}

end Script.BoundTemplate

def StepAnswer.refusal? : StepAnswer → Option ErrorReport
  | .refused report => some report
  | _ => none

end LineTemplate
