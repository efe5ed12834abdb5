import LineTemplate.Proofs.Script.Parsing
import LineTemplate.Script.Placement

/-!
Settling the places where failures show changes none of the trees of generated code but in those places.
-/

set_option autoImplicit false

namespace LineTemplate.Script

variable {lined : Prop}

theorem IsThunk.place {e : Text} {x : Expr} (h : IsThunk e x) (s : Surroundings) (p : Progress) :
    IsThunk e (Expr.place s x p).1 := by
  obtain ⟨head, spot, shown, place, params, named, rfl⟩ := h
  exact ⟨head, spot, _, place, params, named, rfl⟩

theorem place_call (s : Surroundings) (id : Text) (own shown : Spot) (args : List Expr) (spot : Spot)
    (p : Progress) :
    ∃ shown' q, (Expr.place s (.call (.name id own shown) args spot) p).1 =
      .call (.name id own shown') (placeAll s args q).1 spot := by
  unfold Expr.place
  cases known : s.names.contains id
  · simp only [known]
    exact ⟨_, _, rfl⟩
  · simp only [known]
    exact ⟨_, _, rfl⟩

theorem IsAddend.place {line : Nat} {a : Addend} {x : Expr} (h : IsAddend lined line a x) (s : Surroundings)
    (p : Progress) : IsAddend lined line a (Expr.place s x p).1 := by
  cases a with
  | text t =>
    obtain ⟨spot, rfl⟩ := h
    exact ⟨spot, rfl⟩
  | value e =>
    obtain ⟨f, spot, shown, place, call, isThunk, at_, rfl⟩ := h
    obtain ⟨shown', q, placed⟩ := place_call s textHelperName spot shown [f, .literal (.text e) place] call p
    rw [placed]
    exact ⟨_, spot, shown', place, call, isThunk.place s q, at_, rfl⟩

theorem IsSum.place {line : Nat} {sum : List Addend} {x : Expr} (h : IsSum lined line sum x)
    (s : Surroundings) (p : Progress) : IsSum lined line sum (Expr.place s x p).1 := by
  induction h generalizing p with
  | one h => exact .one (h.place s p)
  | more left right ih =>
    exact .more (ih p) (right.place s _)

theorem IsPush.place {line : Nat} {sum : List Addend} {st : Stmt} (h : IsPush lined line sum st)
    (s : Surroundings) (p : Progress) : IsPush lined line sum (Stmt.place s st p).1 := by
  obtain ⟨x, name, shown, key, call, place, isSum, rfl⟩ := h
  exact ⟨_, name, _, key, call, place, isSum.place s _, rfl⟩

theorem IsListing.place {line : Nat} {e indent : Text} {st : Stmt} (h : IsListing lined line e indent st)
    (s : Surroundings) (p : Progress) : IsListing lined line e indent (Stmt.place s st p).1 := by
  obtain ⟨f, helper, shown, out, shown', spot, spot', call, place, isThunk, at_, rfl⟩ := h
  obtain ⟨shown₂, q, placed⟩ := place_call s listHelperName helper shown
    [.name outputName out shown', f, .literal (.text indent) spot, .literal (.text e) spot'] call
    ⟨p.reached, some place⟩
  obtain ⟨shown₃, q', args⟩ : ∃ shown₃ q', (placeAll s [.name outputName out shown', f,
      .literal (.text indent) spot, .literal (.text e) spot'] q).1 =
        [.name outputName out shown₃, (Expr.place s f q').1, .literal (.text indent) spot,
          .literal (.text e) spot'] := ⟨_, _, rfl⟩
  refine ⟨_, helper, shown₂, out, shown₃, spot, spot', call, place, isThunk.place s q', at_, ?_⟩
  rw [args] at placed
  exact congrArg (fun value => Stmt.expr value place) placed

theorem IsStatement.place {line : Nat} {i : Instruction} {st : Stmt} (h : IsStatement lined line i st)
    (s : Surroundings) (p : Progress) : IsStatement lined line i (Stmt.place s st p).1 := by
  cases found : lineAddends i with
  | some sum =>
    obtain ⟨first, more⟩ := sum
    rw [isStatement_iff found] at h ⊢
    exact h.place s p
  | none =>
    cases i with
    | list e indent => exact IsListing.place h s p
    | literal | fields | statement | marker => simp [IsStatement, found] at h

theorem placeBlock_append (s : Surroundings) (a b : List Stmt) (p : Progress) :
    ∃ q, (placeBlock s (a ++ b) p).1 = (placeBlock s a p).1 ++ (placeBlock s b q).1 := by
  induction a generalizing p with
  | nil => exact ⟨p, rfl⟩
  | cons st a ih =>
    obtain ⟨q, placed⟩ := ih (Stmt.place s st p).2
    refine ⟨q, ?_⟩
    change (Stmt.place s st p).1 :: (placeBlock s (a ++ b) _).1 = _
    rw [placed]
    rfl

theorem IsBody.place {line : Nat} {instructions : List Instruction} {body : List Stmt}
    (h : IsBody lined line instructions body) (s : Surroundings) (p : Progress) :
    IsBody lined line instructions (placeBlock s body p).1 := by
  induction instructions generalizing line body p with
  | nil =>
    cases h
    rfl
  | cons i rest ih =>
    cases i with
    | marker boundary name => exact ih h p
    | literal | fields | list | statement =>
      obtain ⟨st, others, rfl, isStatement, isBody⟩ := h
      exact ⟨_, _, rfl, isStatement.place s p, ih isBody _⟩

theorem IsOutputFunction.place {isBody : List Stmt → Prop}
    (kept : ∀ {body}, isBody body → ∀ s p, isBody (placeBlock s body p).1) {x : Expr}
    (h : IsOutputFunction isBody x) (s : Surroundings) (p : Progress) :
    IsOutputFunction isBody (Expr.place s x p).1 := by
  obtain ⟨head, out, array, place, body, spot, shown, place', params, named, inside, rfl⟩ := h
  obtain ⟨inner, q, settled⟩ : ∃ inner q, (Expr.place s (.function head
      (.declare false (.name outputName out) (.array [] array) place ::
        (body ++ [.return (.name outputName spot shown) place']))) p).1 =
      .function head (.declare false (.name outputName out) (.array [] array) place ::
        (placeBlock inner (body ++ [.return (.name outputName spot shown) place']) q).1) :=
    ⟨_, _, rfl⟩
  obtain ⟨q', parts⟩ := placeBlock_append inner body [.return (.name outputName spot shown) place'] q
  rw [settled, parts]
  exact ⟨head, out, array, place, _, spot, _, place', params, named, kept inside inner q, rfl⟩

theorem IsOutputFunction.placed {isBody : List Stmt → Prop}
    (kept : ∀ {body}, isBody body → ∀ s p, isBody (placeBlock s body p).1) {x : Expr}
    (h : IsOutputFunction isBody x) (spot : Spot) :
    ∃ x', placed [.expr x spot] = [.expr x' spot] ∧ IsOutputFunction isBody x' :=
  ⟨_, rfl, h.place kept _ _⟩

end LineTemplate.Script
