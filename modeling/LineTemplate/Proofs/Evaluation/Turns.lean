import LineTemplate.Proofs.Evaluation.Contents
import LineTemplate.Proofs.Script.LoopCode

/-!
A running loop over an array. Each turn binds the name of the loop to an item in a scope of its own and
adds one line to the output; the array and what the scope holds otherwise are seen from inside the turn as
from outside.
-/

set_option autoImplicit false

namespace LineTemplate

open Script

def Station.enter (at_ : Station) (l : Local) : Station := { at_ with locals := l :: at_.locals }

/-- The store in which a turn has bound its name. -/
def Script.Store.withLocal (s : Store) (name : Text) (v : Value) : Store :=
  (s.addScope [(name, ⟨none, .constant⟩)]).changeScope s.scopes.size fun names =>
    names.set name ⟨some v, .constant⟩

namespace Running

variable {σ : Type} {b : Behaviour σ} {engine : Engine} {scope : Nat}
  {holds : σ → Own → Option Cursor → Store → Prop} {at_ : Station} {em : Emission σ}
  {own : Own} {c : Option Cursor} {s : Store}

theorem withLocal (real : Realizes b engine scope holds) (h : Running holds at_ em own c s) {name : Text}
    (v : Value) (free : name ∉ [outputName, textHelperName, listHelperName]) :
    Running holds (at_.enter ⟨s.scopes.size, name, v, free⟩) em (own.withScope s.scopes.size) c
      (s.withLocal name v) := by
  have others {i : Nat} {names : Members Binding} (found : s.scopes[i]? = some names) :
      (s.withLocal name v).scopes[i]? = some names := getElem?_modify_push_of_some found _ _
  refine ⟨?_, h.ownOut, List.mem_cons_of_mem _ h.ownInner, List.mem_cons_of_mem _ h.ownOuter, h.output,
    others h.inner, others h.outer, ?_⟩
  · exact real.changeScope _ (real.addScope _ h.holds) List.mem_cons_self
  · rintro l (_ | ⟨_, inside⟩)
    · refine ⟨List.mem_cons_self, (getElem?_modify_push_self s.scopes _ _).trans ?_⟩
      simp [Members.set, Local.binding]
    · obtain ⟨mine, found⟩ := h.locals l inside
      exact ⟨List.mem_cons_of_mem _ mine, others found⟩

theorem leave {l : Local} (h : Running holds (at_.enter l) em own c s) : Running holds at_ em own c s :=
  ⟨h.holds, h.ownOut, h.ownInner, h.ownOuter, h.output, h.inner, h.outer,
    fun l inside => h.locals l (List.mem_cons_of_mem _ inside)⟩

end Running

theorem Follows.leave {σ α β : Type} {holds : σ → Own → Option Cursor → Store → Prop} {at_ : Station}
    {l : Local} {frames : List Frame} {done : Nat} {c : Option Cursor} {f : α → β}
    {direct : EStateM.Result Ending (Emission σ) α} {run : EStateM.Result Stop Store β}
    (h : Follows holds (at_.enter l) frames done c f direct run) :
    Follows holds at_ frames done c f direct run := by
  cases direct with
  | ok a em =>
    obtain ⟨same, own, s, ran, running⟩ := h
    exact ⟨same, own, s, ran, running.leave⟩
  | error ending em =>
    cases ending with
    | failed cause => exact h
    | unknown => trivial

namespace Script.Run

theorem enterBlock_exprs {body : List Stmt} (names : lexicalNames body = [])
    (functions : declaredFunctions body = []) (p : Place) : enterBlock p body = pure p := by
  unfold enterBlock unreachedNames
  rw [names, functions]
  rfl

def turn (engine : Engine) (p : Place) (mutable : Bool) (pattern : Pattern) (body : List Stmt) (last : Spot)
    (item : Value) : Run (Option Value) := do
  let inner ← enterLoop p pattern
  bindPattern engine inner last mutable pattern item
  match ← performAll engine (← enterBlock inner body) none body with
  | .returned result => return some result
  | .normal _ => return none

theorem perform_forOf (engine : Engine) (p : Place) (mutable : Bool) (pattern : Pattern) (source : Expr)
    (body : List Stmt) (opened last : Spot) :
    perform engine p (.forOf mutable pattern source body opened last) = (do
      let v ← evaluate engine (← enterLoop p pattern) source
      match ← open? v with
      | none => raiseNotSequence p opened v
      | some cursor =>
        match ← forEach engine (p.trace last) (turn engine p mutable pattern body last) (← loopLimit v)
            cursor with
        | some result => return .returned result
        | none => return .normal none) := rfl

theorem next_array {engine : Engine} {frames : List Frame} {a i : Nat} {s s' : Store}
    {result : Option (Value × Cursor)} (h : next engine frames (.array a i) s = .ok result s')
    (engine' : Engine) : next engine' frames (.array a i) s = .ok result s' ∧
      ∀ v rest, result = some (v, rest) → rest = .array a (i + 1) := by
  refine ⟨h, ?_⟩
  rintro v rest rfl
  change (kind? (.ref a) >>= _) s = _ at h
  rw [bind_ok (kind?_ref s a)] at h
  cases known : s.kindAt a with
  | none =>
    rw [known] at h
    cases h
  | some kind =>
    rw [known] at h
    cases kind with
    | array slots =>
      change (if i < slots.length then _ else _ : Run (Option (Value × Cursor))) s = _ at h
      split at h <;> cases h
      rfl
    | _ => cases h

theorem performAll_block (engine : Engine) (p : Place) (x : Expr) (spot : Spot) :
    performAll engine p none [.block [.expr x spot]] =
      do return .normal (some (← evaluate engine p x)) := by
  have inside : enterBlock p [.expr x spot] = pure p := enterBlock_exprs rfl rfl p
  simp only [performAll, perform, inside, bind_assoc, pure_bind]

end Script.Run

section

variable {σ : Type} {b : Behaviour σ} {depth line : Nat} {lined : Prop} {at_ : Station}
  {holds : σ → Own → Option Cursor → Store → Prop} {own : Own} {c : Option Cursor} {s : Store}
  {em : Emission σ} {w w' : σ} {out : List Text} {n : Nat}

theorem turn_follows (code : List Stmt) (real : Realizes b (.nested (depth + 1)) at_.home.globals holds)
    (h : Running holds at_ em own c s) {i : Instruction} (plain : i.Plain) {first : Addend}
    {more : List Addend} (found : lineAddends i = some (first, more)) {push : Stmt}
    (isPush : IsPush lined line (first :: more) push) {name : Text}
    (free : name ∉ [outputName, textHelperName, listHelperName]) (spot last : Spot) (v : Value) :
    ∃ l, Follows holds at_ (at_.frames l) em.done c (fun _ => none)
      ((b.seen (at_.enter ⟨s.scopes.size, name, v, free⟩)).emit i em)
      (Run.turn (.nested (depth + 2)) (at_.place code) false (.name name spot) [.block [push]] last v s) := by
  have inside : Realizes b (.nested (depth + 1))
      (at_.enter ⟨s.scopes.size, name, v, free⟩).home.globals holds := real
  obtain ⟨result, l, -, follows⟩ := push_follows inside (h.withLocal real v free) isPush
    (plain_of_lineAddends plain found)
  have emits := Follows.of_narrows (Behaviour.emit_narrows _ found) follows
  obtain ⟨x, spot', rfl⟩ : ∃ x spot', push = .expr x spot' := by
    obtain ⟨x, shown, key, call, place, spot', -, rfl⟩ := isPush
    exact ⟨_, _, rfl⟩
  have block : Run.turn (.nested (depth + 2)) (at_.place code) false (.name name spot)
      [.block [.expr x spot']] last v s =
      (do return (fun _ => none) (← Run.perform (.nested (depth + 2))
        ((at_.enter ⟨s.scopes.size, name, v, free⟩).place code) (.expr x spot')) :
        Run (Option Value)) (s.withLocal name v) := by
    have entered : Run.enterLoop (at_.place code) (.name name spot) s =
        .ok ((at_.enter ⟨s.scopes.size, name, v, free⟩).place code) (s.addScope [(name, ⟨none, .constant⟩)]) :=
      rfl
    have bound : Run.bindPattern (.nested (depth + 2)) ((at_.enter ⟨s.scopes.size, name, v, free⟩).place code)
        last false (.name name spot) v (s.addScope [(name, ⟨none, .constant⟩)]) =
        .ok () (s.withLocal name v) := rfl
    unfold Run.turn
    rw [bind_ok entered, bind_ok bound, Run.enterBlock_exprs rfl rfl]
    simp only [pure_bind, Run.performAll_block, Run.perform, bind_assoc]
  rw [block]
  exact ⟨l, (Follows.map (fun _ => none) emits).leave⟩

theorem Behaviour.emit_item {e p t : Text} {l : Local} (bound : at_.local? e = some l)
    (present : l.value.isMissing = false) (converted : b.convert w l.value = some (.text t, w'))
    (fits : p.length + t.length ≤ Text.maxLength) (room : out.length < Items.arrayLimit) :
    (b.seen at_).emit (.fields [] [⟨p, some e⟩] []) ⟨w, out, n⟩ = .ok () ⟨w', out ++ [p ++ t], n⟩ := by
  have entry : (b.seen at_).entry w e = some l.value := by
    change ((at_.local? e).map Local.value).or _ = _
    rw [bound]
    rfl
  have field : (b.seen at_).field e ⟨w, out, n⟩ = .ok t ⟨w', out, n⟩ :=
    Behaviour.field_eq entry present converted
  have segment : (b.seen at_).segment [] ⟨p, some e⟩ ⟨w, out, n⟩ = .ok (p ++ t) ⟨w', out, n⟩ := by
    have lead : Direct.append [] p (⟨w, out, n⟩ : Emission σ) = .ok ([] ++ p) ⟨w, out, n⟩ :=
      Direct.append_eq (by simp; omega) _
    unfold Behaviour.segment
    rw [bind_ok lead]
    change ((b.seen at_).field e >>= _) _ = _
    rw [bind_ok field]
    exact Direct.append_eq fits _
  have segments : [Segment.mk p (some e)].foldlM (b.seen at_).segment [] ⟨w, out, n⟩ =
      .ok (p ++ t) ⟨w', out, n⟩ := by
    rw [List.foldlM_cons, bind_ok segment]
    rfl
  change ([Segment.mk p (some e)].foldlM (b.seen at_).segment [] >>= _) _ = _
  rw [bind_ok segments, bind_ok (Direct.append_eq (by rw [List.length_append, List.length_nil]; omega) _),
    List.append_nil]
  exact Direct.emitLine_eq room

theorem forEach_items (code : List Stmt) (real : Realizes b (.nested (depth + 1)) at_.home.globals holds)
    {name p : Text} (plain : PlainName name) (free : name ∉ [outputName, textHelperName, listHelperName])
    {first : Addend} {more : List Addend}
    (sum : lineAddends (.fields [] [⟨p, some name⟩] []) = some (first, more)) {push : Stmt}
    (isPush : IsPush lined line (first :: more) push) (spot last : Spot) (frames : List Frame) {ts : List Text}
    (converts : b.Converts w ts w') (fits : ∀ t ∈ ts, p.length + t.length ≤ Text.maxLength)
    (room : out.length + ts.length ≤ Items.arrayLimit) {limit : Nat} (enough : ts.length < limit)
    {a k : Nat} (h : Running holds at_ ⟨w, out, n⟩ own (some (.array a k)) s) :
    ∃ own' s', Run.forEach (.nested (depth + 2)) frames
        (Run.turn (.nested (depth + 2)) (at_.place code) false (.name name spot) [.block [push]] last)
        limit (.array a k) s = .ok none s' ∧
      Running holds at_ ⟨w', out ++ ts.map (p ++ ·), n⟩ own' none s' := by
  -- The cursor moves on with each item, so the place in the array is general.
  induction converts generalizing out own s k limit with
  | nil ended =>
    obtain ⟨limit, rfl⟩ : ∃ m, limit = m + 1 := ⟨limit - 1, by omega⟩
    obtain ⟨s', finished, kept, holds'⟩ := real.finish frames h.holds ended
    refine ⟨own, s', ?_, ?_⟩
    · unfold Run.forEach
      rw [bind_ok (Run.next_array finished _).1]
      rfl
    · rw [List.map_nil, List.append_nil]
      exact h.kept kept holds'
  | @cons w w₁ w₂ w' v t others taken present converted later ih =>
    rw [List.length_cons] at enough room
    obtain ⟨limit, rfl⟩ : ∃ m, limit = m + 1 := ⟨limit - 1, by omega⟩
    obtain ⟨rest, s₁, read, kept, holds₁⟩ := real.next frames h.holds taken
    obtain ⟨again, behind⟩ := Run.next_array read (.nested (depth + 2))
    cases behind v rest rfl
    obtain ⟨l, follows⟩ := turn_follows code real (h.kept kept holds₁) (i := .fields [] [⟨p, some name⟩] [])
      (by simpa [Instruction.Plain] using plain) sum isPush free spot last v
    have bound : (at_.enter ⟨s₁.scopes.size, name, v, free⟩).local? name =
        some ⟨s₁.scopes.size, name, v, free⟩ := List.find?_cons_of_pos (by simp)
    have one_more : out.length < Items.arrayLimit := by omega
    rw [Behaviour.emit_item bound present converted (fits t List.mem_cons_self) one_more] at follows
    obtain ⟨-, own', s', turned, running⟩ := follows
    have space : (out ++ [p ++ t]).length + others.length ≤ Items.arrayLimit := by
      rw [List.length_append, List.length_singleton]
      omega
    obtain ⟨own'', s'', ran, running'⟩ := ih (fun t inside => fits t (List.mem_cons_of_mem _ inside)) space
      (by omega : others.length < limit) running
    refine ⟨own'', s'', ?_, ?_⟩
    · unfold Run.forEach
      rw [bind_ok again]
      change (tryCatch (Run.turn _ _ _ _ _ _ v) _ >>= _) s₁ = _
      rw [bind_ok (Run.tryCatch_ok turned)]
      exact ran
    · rwa [List.append_assoc] at running'

theorem perform_loop (code : List Stmt) (real : Realizes b (.nested (depth + 1)) at_.home.globals holds)
    {e : Text} (source : PlainName e) (unbound : at_.local? e = none) {a : Nat} {slots : Slots Value}
    {ts : List Text} (lists : b.Lists w e a ts) (array : s.kindAt a = some (.array slots)) {name p : Text}
    (plain : PlainName name) (other : e ≠ name)
    (free : name ∉ [outputName, textHelperName, listHelperName]) {first : Addend} {more : List Addend}
    (sum : lineAddends (.fields [] [⟨p, some name⟩] []) = some (first, more)) {push : Stmt}
    (isPush : IsPush lined line (first :: more) push) (spot spot' shown opened last : Spot)
    (fits : ∀ t ∈ ts, p.length + t.length ≤ Text.maxLength)
    (room : out.length + ts.length ≤ Items.arrayLimit) (h : Running holds at_ ⟨w, out, n⟩ own none s) :
    ∃ own' s' w', Run.perform (.nested (depth + 2)) (at_.place code) (.forOf false (.name name spot)
        (.name e spot' shown) [.block [push]] opened last) s = .ok (.normal none) s' ∧
      Running holds at_ ⟨w', out ++ ts.map (p ++ ·), n⟩ own' none s' := by
  obtain ⟨entry, limit, w₁, w', started, converts, enough⟩ := lists
  have running := h.addScope real [(name, ⟨none, .constant⟩)]
  have entered : Run.enterLoop (at_.place code) (.name name spot) s =
      .ok ((at_.place code).within s.scopes.size) (s.addScope [(name, ⟨none, .constant⟩)]) := rfl
  have outside : Run.findBinding? (s.addScope [(name, ⟨none, .constant⟩)]) e
      ((at_.place code).within s.scopes.size).env = (at_.local? e).map fun l => (l.scope, l.binding) := by
    have fresh : (s.addScope [(name, ⟨none, .constant⟩)]).scopes[s.scopes.size]? =
        some [(name, ⟨none, .constant⟩)] := Array.getElem?_push_size
    have unnamed : Members.get? [(name, Binding.mk none .constant)] e = none := by
      rw [Members.get?_singleton, if_neg other]
    exact (Run.findBinding?_cons fresh unnamed).trans (Run.findBinding?_outside running source.notOutput)
  have known : Run.lookup? ((at_.place code).within s.scopes.size) e shown
      (s.addScope [(name, ⟨none, .constant⟩)]) =
      .ok (some (.ref a)) (s.addScope [(name, ⟨none, .constant⟩)]) := by
    rw [Run.lookup?_seen (p := (at_.place code).within s.scopes.size)
      (real.prepared running.holds) outside source.notGlobal]
    change EStateM.Result.ok (((at_.local? e).map Local.value).or (b.entry w e)) _ = _
    rw [unbound, entry]
    rfl
  have value : Run.evaluate (.nested (depth + 2)) ((at_.place code).within s.scopes.size)
      (.name e spot' shown) (s.addScope [(name, ⟨none, .constant⟩)]) =
      .ok (.ref a) (s.addScope [(name, ⟨none, .constant⟩)]) := bind_ok known
  -- The list helper reads the array itself too, so what is known of it holds for the loop.
  have there : (s.addScope [(name, ⟨none, .constant⟩)]).kindAt a = some (.array slots) := array
  obtain ⟨itself, -, opened, -⟩ := opens_array (.nested (depth + 1)) [] there
  obtain ⟨r, s₁, cursor, s₂, found, -, opens, ⟨bound, limited, most⟩, kept, holds₁⟩ :=
    real.start [] running.holds started
  rw [itself] at found
  cases found
  cases opens.symm.trans opened
  obtain ⟨own', s', ran, running'⟩ := forEach_items code real plain free sum isPush spot last
    ((at_.place code).trace last) converts fits room (Nat.lt_of_lt_of_le enough most)
    (running.kept kept holds₁)
  refine ⟨own', s', w', ?_, running'⟩
  rw [Run.perform_forOf, bind_ok entered, bind_ok value, bind_ok opened]
  change (Run.loopLimit (.ref a) >>= _) _ = _
  rw [bind_ok limited, bind_ok ran]
  rfl

end

end LineTemplate
