import LineTemplate.Proofs.Evaluation.Realization
import LineTemplate.Script.Interpreter

/-!
Single steps of a run: names, members, errors and lines added to the output, each as a step from one
store to the next.
-/

set_option autoImplicit false

namespace LineTemplate

open Script

theorem bind_ok {ε σ α β : Type} {x : EStateM ε σ α} {f : α → EStateM ε σ β} {s s' : σ} {a : α}
    (h : x s = .ok a s') : (x >>= f) s = f a s' := by
  change EStateM.bind x f s = _
  rw [EStateM.bind, h]

theorem bind_error {ε σ α β : Type} {x : EStateM ε σ α} {f : α → EStateM ε σ β} {s s' : σ} {e : ε}
    (h : x s = .error e s') : (x >>= f) s = .error e s' := by
  change EStateM.bind x f s = _
  rw [EStateM.bind, h]

theorem exists_of_bind_ok {ε σ α β : Type} {x : EStateM ε σ α} {f : α → EStateM ε σ β} {s s' : σ} {b : β}
    (h : (x >>= f) s = .ok b s') : ∃ a t, x s = .ok a t ∧ f a t = .ok b s' := by
  cases ran : x s with
  | ok a t => exact ⟨a, t, rfl, (bind_ok ran).symm.trans h⟩
  | error e t => cases (bind_error ran).symm.trans h

namespace Script.Run

variable {α : Type}

theorem tryCatch_ok {x : Run α} {handle : Stop → Run α} {s s' : Store} {a : α} (h : x s = .ok a s') :
    (tryCatch x handle) s = .ok a s' := by
  change EStateM.tryCatch x handle s = _
  delta EStateM.tryCatch
  simp only [h]

theorem tryCatch_error {x : Run α} {handle : Stop → Run α} {s s' : Store} {e : Stop}
    (h : x s = .error e s') : (tryCatch x handle) s = handle e s' := by
  change EStateM.tryCatch x handle s = _
  delta EStateM.tryCatch
  simp only [h]
  rfl

theorem kind?_ref (s : Store) (a : Nat) : kind? (.ref a) s = .ok (s.kindAt a) s := rfl

theorem isFunction_ref {s : Store} {a : Nat} {kind : Kind} (h : s.kindAt a = some kind) :
    isFunction (.ref a) s = .ok kind.isFunction s := by
  have found : kind? (.ref a) s = .ok (some kind) s := by rw [kind?_ref, h]
  exact bind_ok found

theorem member_ref {s : Store} {a : Nat} {o : Obj} (h : s.objects[a]? = some o) (key : Text) :
    member (.ref a) key s = .ok (objectMember o key) s := by
  have found : object? a s = .ok (some o) s := by
    change EStateM.Result.ok s.objects[a]? s = _
    rw [h]
  exact bind_ok found

def errorObject (frames : List Frame) (report : ErrorReport) : Obj :=
  { Obj.ofKind (.error report.detail report.name) with
    hidden := [("message", .text report.message),
      ("stack", .text (stackText report.name report.message frames))] }

theorem raise_eq (frames : List Frame) (report : ErrorReport) (s : Store) :
    raise (α := α) frames report s =
      .error (.thrown (.ref s.objects.size)) (s.addObject (errorObject frames report)) := rfl

theorem objectMember_errorObject (frames : List Frame) (report : ErrorReport) :
    objectMember (errorObject frames report) "name" = .text report.name ∧
      objectMember (errorObject frames report) "message" = .text report.message ∧
      objectMember (errorObject frames report) "stack" =
        .text (stackText report.name report.message frames) := ⟨rfl, rfl, rfl⟩

theorem kindAt_errorObject {s : Store} {a : Nat} {frames : List Frame} {report : ErrorReport}
    (found : s.objects[a]? = some (errorObject frames report)) :
    s.kindAt a = some (.error report.detail report.name) := congrArg (Option.map Obj.kind) found

theorem isReferenceError_errorObject {s : Store} {a : Nat} {frames : List Frame}
    {report : ErrorReport} (found : s.objects[a]? = some (errorObject frames report))
    (named : report.name = ("ReferenceError" : Text)) :
    isReferenceError (.ref a) s = .ok true s := by
  have member := member_ref found "name"
  rw [(objectMember_errorObject frames report).1, named] at member
  unfold isReferenceError
  change (isFunction (.ref a) >>= _) s = _
  rw [bind_ok (isFunction_ref (kindAt_errorObject found))]
  exact bind_ok member

end Script.Run

end LineTemplate
