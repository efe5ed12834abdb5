import LineTemplate.Proofs.Evaluation.Steps
import LineTemplate.Proofs.Script.CodeChunks

/-!
Lines with fields as sums. The code of such a line leaves out empty texts; the sum that is left gives
the line that the direct interpretation puts together.
-/

set_option autoImplicit false

namespace LineTemplate

open Script

/-- An interpretation that says as much as another one, or nothing. -/
def Narrows {σ α : Type} (d d' : Direct σ α) : Prop :=
  ∀ em, (∃ em', d em = .error .unknown em') ∨ d em = d' em

namespace Narrows

variable {σ α β : Type}

theorem refl (d : Direct σ α) : Narrows d d := fun _ => .inr rfl

theorem trans {d d' d'' : Direct σ α} (h : Narrows d d') (h' : Narrows d' d'') : Narrows d d'' := by
  intro em
  rcases h em with unknown | same
  · exact .inl unknown
  · rw [same]
    exact h' em

theorem bind {d d' : Direct σ α} {k k' : α → Direct σ β} (h : Narrows d d')
    (others : ∀ a, Narrows (k a) (k' a)) : Narrows (d >>= k) (d' >>= k') := by
  intro em
  have ends (x : Direct σ α) (k : α → Direct σ β) : (x >>= k) em =
      match x em with
      | .ok a em' => k a em'
      | .error e em' => .error e em' := by
    cases result : x em with
    | ok a em' => exact bind_ok result
    | error e em' => exact bind_error result
  rw [ends d, ends d']
  rcases h em with ⟨em', unknown⟩ | same
  · rw [unknown]
    exact .inl ⟨em', rfl⟩
  · rw [same]
    cases d' em with
    | ok a em' => exact others a em'
    | error e em' => exact .inr rfl

end Narrows

namespace Behaviour

open Direct

variable {σ : Type} (b : Behaviour σ)

def addend : Addend → Direct σ Text
  | .text t => return t
  | .value e => b.field e

def extend (line : Text) (a : Addend) : Direct σ Text := do append line (← b.addend a)

def total (first : Addend) (more : List Addend) : Direct σ Text := do
  more.foldlM b.extend (← b.addend first)

theorem extend_empty (line : Text) : Narrows (b.extend line (.text [])) (pure line) := by
  intro em
  change (∃ em', (if Text.maxLength < line.length + 0 then _ else _ : Direct σ Text) em = _) ∨ _
  by_cases long : Text.maxLength < line.length + 0
  · exact .inl ⟨em, by rw [if_pos long]; rfl⟩
  · refine .inr ?_
    change (if Text.maxLength < line.length + 0 then _ else _ : Direct σ Text) em = _
    rw [if_neg long, List.append_nil]

theorem append_nil (t : Text) : Narrows (append (σ := σ) [] t) (pure t) := by
  intro em
  by_cases long : Text.maxLength < 0 + t.length
  · exact .inl ⟨em, by rw [append, List.length_nil, if_pos long]; rfl⟩
  · refine .inr ?_
    rw [append, List.length_nil, if_neg long, List.nil_append]

theorem extend_nil (a : Addend) : Narrows (b.extend [] a) (b.addend a) := by
  have parts := (Narrows.refl (b.addend a)).bind append_nil
  rwa [bind_pure] at parts

theorem foldlM_ofText (line t : Text) :
    Narrows (b.extend line (.text t)) ((Addend.ofText t).foldlM b.extend line) := by
  unfold Addend.ofText
  cases t with
  | nil => exact b.extend_empty line
  | cons c rest =>
    rw [if_neg (by simp), List.foldlM_cons]
    simp only [List.foldlM_nil, bind_pure]
    exact Narrows.refl _

theorem segment_narrows (line : Text) (s : Segment) :
    Narrows (b.segment line s) (s.addends.foldlM b.extend line) := by
  unfold Segment.addends
  rw [List.foldlM_append]
  refine Narrows.bind (b.foldlM_ofText line s.lead) fun line' => ?_
  cases s.expression with
  | none => exact Narrows.refl _
  | some e =>
    change Narrows _ ([Addend.value e].foldlM b.extend line')
    rw [List.foldlM_cons]
    simp only [List.foldlM_nil, bind_pure]
    exact Narrows.refl _

theorem segments_narrows (line : Text) (segments : List Segment) :
    Narrows (segments.foldlM b.segment line)
      ((segments.flatMap Segment.addends).foldlM b.extend line) := by
  induction segments generalizing line with
  | nil => exact Narrows.refl _
  | cons s rest ih =>
    rw [List.foldlM_cons, List.flatMap_cons, List.foldlM_append]
    exact (b.segment_narrows line s).bind ih

theorem rest_narrows (indent : Text) (segments : List Segment) (trailing : Text) :
    Narrows (do append (← segments.foldlM b.segment indent) trailing)
      ((segments.flatMap Segment.addends ++ Addend.ofText trailing).foldlM b.extend indent) := by
  rw [List.foldlM_append]
  exact (b.segments_narrows indent segments).bind fun line => b.foldlM_ofText line trailing

theorem emit_narrows {i : Instruction} {first : Addend} {more : List Addend}
    (found : lineAddends i = some (first, more)) :
    Narrows (b.emit i) (do emitLine (← b.total first more)) := by
  cases i with
  | literal t =>
    obtain ⟨rfl, rfl⟩ := Prod.mk.inj (Option.some.inj found)
    exact Narrows.refl _
  | fields indent segments trailing =>
    have parts : b.emit (.fields indent segments trailing) =
        (do append (← segments.foldlM b.segment indent) trailing) >>= emitLine := by
      rw [bind_assoc]
      rfl
    rw [parts]
    refine Narrows.bind ?_ fun line => Narrows.refl _
    refine (b.rest_narrows indent segments trailing).trans ?_
    rw [lineAddends_fields, fieldAddends, List.append_assoc] at found
    generalize segments.flatMap Segment.addends ++ Addend.ofText trailing = rest at found ⊢
    cases indent with
    | nil =>
      cases rest with
      | nil =>
        obtain ⟨rfl, rfl⟩ := Prod.mk.inj (Option.some.inj found)
        exact Narrows.refl _
      | cons a others =>
        obtain ⟨rfl, rfl⟩ := Prod.mk.inj (Option.some.inj found)
        rw [List.foldlM_cons]
        exact (b.extend_nil a).bind fun line => Narrows.refl _
    | cons c others =>
      obtain ⟨rfl, rfl⟩ := Prod.mk.inj (Option.some.inj found)
      exact Narrows.refl _
  | list | statement | marker => simp [lineAddends] at found

end Behaviour

end LineTemplate
