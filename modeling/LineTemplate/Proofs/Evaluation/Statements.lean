import LineTemplate.Proofs.Evaluation.HelperCalls
import LineTemplate.Proofs.Evaluation.Sums

/-!
The statements of generated code, run one after the other. Each follows the instruction that it was made
for, and an error that it raises stands on the line of this instruction, if the lines of the code are known.
-/

set_option autoImplicit false

namespace LineTemplate

open Script

/-- An instruction whose expressions are plain names. -/
def Instruction.Plain : Instruction → Prop
  | .literal _ | .marker _ _ => True
  | .fields _ segments _ => ∀ s ∈ segments, ∀ e, s.expression = some e → PlainName e
  | .list e _ => PlainName e
  | .statement _ => False

instance Instruction.decidablePlain (i : Instruction) : Decidable i.Plain :=
  match i with
  | .literal _ | .marker _ _ => .isTrue trivial
  | .fields _ segments _ => inferInstanceAs (Decidable (∀ s ∈ segments, ∀ e ∈ s.expression, PlainName e))
  | .list e _ => inferInstanceAs (Decidable (PlainName e))
  | .statement _ => .isFalse id

def Addend.Plain : Addend → Prop
  | .text _ => True
  | .value e => PlainName e

theorem plain_text (t : Text) : ∀ a ∈ [Addend.text t], a.Plain := by
  intro a inside
  rw [List.mem_singleton.1 inside]
  trivial

theorem plain_ofText (t : Text) : ∀ a ∈ Addend.ofText t, a.Plain := by
  unfold Addend.ofText
  split
  · exact fun a inside => absurd inside List.not_mem_nil
  · exact plain_text t

theorem plain_of_lineAddends {i : Instruction} {first : Addend} {more : List Addend} (plain : i.Plain)
    (found : lineAddends i = some (first, more)) : ∀ a ∈ first :: more, a.Plain := by
  cases i with
  | literal t =>
    obtain ⟨rfl, rfl⟩ := Prod.mk.inj (Option.some.inj found)
    exact plain_text t
  | fields indent segments trailing =>
    have all : ∀ a ∈ fieldAddends indent segments trailing, a.Plain := by
      intro a inside
      unfold fieldAddends at inside
      rw [List.mem_append, List.mem_append, List.mem_flatMap] at inside
      rcases inside with (inside | ⟨s, member, inside⟩) | inside
      · exact plain_ofText indent a inside
      · rcases List.mem_append.1 inside with inside | inside
        · exact plain_ofText s.lead a inside
        · obtain ⟨e, expression, rfl⟩ := List.mem_map.1 inside
          exact plain s member e (Option.mem_toList.1 expression)
      · exact plain_ofText trailing a inside
    rw [lineAddends_fields] at found
    cases addends : fieldAddends indent segments trailing with
    | nil =>
      rw [addends] at found
      obtain ⟨rfl, rfl⟩ := Prod.mk.inj (Option.some.inj found)
      exact plain_text []
    | cons a others =>
      rw [addends] at found all
      obtain ⟨rfl, rfl⟩ := Prod.mk.inj (Option.some.inj found)
      exact all
  | list | statement | marker => simp [lineAddends] at found

section

variable {σ : Type} {b : Behaviour σ} {at_ : Station} {frames : List Frame} {depth line : Nat}
  {holds : σ → Own → Option Cursor → Store → Prop} {own : Own} {c : Option Cursor} {s : Store}
  {em : Emission σ} {code : List Stmt} {lined : Prop}

/-- Each of two steps may raise its error on a line of its own. -/
theorem Follows.bind_line {α α' β β' : Type} {on : Nat → Prop} {done : Nat} {f : α → β} {g : α' → β'}
    {d : Direct σ α} {r : Run β} {k : α → Direct σ α'} {k' : β → Run β'}
    (first : ∃ l, on l ∧ Follows holds at_ (at_.frames l) done c f (d em) (r s))
    (others : ∀ a em' own' s', em'.done = done → Running holds at_ em' own' c s' →
      ∃ l, on l ∧ Follows holds at_ (at_.frames l) done c g (k a em') (k' (f a) s')) :
    ∃ l, on l ∧ Follows holds at_ (at_.frames l) done c g ((d >>= k) em) ((r >>= k') s) := by
  obtain ⟨l, here, first⟩ := first
  cases result : d em with
  | ok a em' =>
    rw [result] at first
    obtain ⟨same, own', s', found, running⟩ := first
    rw [bind_ok found, bind_ok result]
    exact others a em' own' s' same running
  | error ending em' =>
    rw [result] at first
    rw [bind_error result]
    refine ⟨l, here, ?_⟩
    cases ending with
    | unknown => trivial
    | failed cause =>
      obtain ⟨same, own', stop, s', w, found, raised⟩ := first
      exact ⟨same, own', stop, s', w, bind_error found, raised⟩

theorem Follows.of_narrows {α β : Type} {f : α → β} {done : Nat} {d d' : Direct σ α}
    {run : EStateM.Result Stop Store β} (narrows : Narrows d d')
    (h : Follows holds at_ frames done c f (d' em) run) :
    Follows holds at_ frames done c f (d em) run := by
  rcases narrows em with ⟨em', unknown⟩ | same
  · rw [unknown]
    trivial
  · rwa [same]

theorem readName_helper {id : Text} {a : Nat}
    (real : Realizes b (.nested (depth + 1)) at_.home.globals holds)
    (h : Running holds at_ em own c s) (spot : Spot)
    (used : id ∈ [outputName, textHelperName, listHelperName]) (notOutput : id ≠ outputName)
    (notGlobal : id ∉ Run.globalNames)
    (entry : b.entry em.world id = some (.ref a)) :
    Run.readName (at_.place code) id spot s = .ok (.ref a) s := by
  have outside : Run.findBinding? s id at_.env = none := by
    rw [Run.findBinding?_outside h notOutput, Station.local?_of_mem used]
    rfl
  have known : Run.lookup? (at_.place code) id spot s = .ok (b.entry em.world id) s :=
    Run.lookup?_entry (real.prepared h.holds) outside notGlobal
  rw [entry] at known
  exact bind_ok known

theorem kindAt_of_entry {found : Option Value} {a : Nat} {kind : Kind}
    (helper : ∃ a', found = some (.ref a') ∧ s.kindAt a' = some kind) (entry : found = some (.ref a)) :
    s.kindAt a = some kind := by
  obtain ⟨a', rfl, kind⟩ := helper
  injection entry with same
  injection same with same
  rw [← same]
  exact kind

theorem callValue_ref {p : Place} {spot : Spot} {a : Nat} {this : Value} {args : List Value}
    {f : Function} {engine : Engine} (kind : s.kindAt a = some (.function f)) :
    Run.callValue engine p spot (.ref a) this args s = engine.call (p.trace spot) (.ref a) this args s := by
  unfold Run.callValue
  rw [bind_ok (Run.isFunction_ref kind)]
  rfl

theorem addend_follows (code : List Stmt) (real : Realizes b (.nested (depth + 1)) at_.home.globals holds)
    (h : Running holds at_ em own c s) {a : Addend} (plain : a.Plain) {x : Expr}
    (isAddend : IsAddend lined line a x) :
    ∃ l, (lined → l = line) ∧ Follows holds at_ (at_.frames l) em.done c Value.text
      ((b.seen at_).addend a em) (Run.evaluate (.nested (depth + 2)) (at_.place code) x s) := by
  cases a with
  | text t =>
    obtain ⟨spot, rfl⟩ := isAddend
    exact ⟨line, fun _ => rfl, rfl, own, s, rfl, h⟩
  | value e =>
    obtain ⟨f, spot, shown, place, call, thunk, here, rfl⟩ := isAddend
    obtain ⟨a, entry, -⟩ := (real.prepared h.holds).textHelper
    have name : Run.readName (at_.place code) textHelperName shown s = .ok (.ref a) s :=
      readName_helper real h shown (by decide) (by decide) (by decide) entry
    obtain ⟨own', s', made, running, reader⟩ :=
      evaluate_thunk real h thunk code (.nested (depth + 2))
    have args : Run.evaluateAll (.nested (depth + 2)) (at_.place code) [f, .literal (.text e) place] s =
        .ok [.ref s.objects.size, .text e] s' := bind_ok made
    have kind := kindAt_of_entry (real.prepared running.holds).textHelper entry
    refine ⟨call.line, here, ?_⟩
    change Follows _ _ _ _ _ _ _
      ((Run.readName (at_.place code) textHelperName shown >>= _) s)
    rw [bind_ok name, bind_ok args, callValue_ref kind]
    exact call_textHelper real running plain reader kind

theorem append_follows (h : Running holds at_ em own c s) (engine : Engine) (spot : Spot) (left t : Text) :
    Follows holds at_ frames em.done c Value.text (Direct.append left t em)
      (Run.binary engine ((at_.place code).trace spot) .add (.text left) (.text t) s) := by
  unfold Direct.append
  split
  · trivial
  · rename_i room
    refine ⟨rfl, own, s, ?_, h⟩
    change (if Text.maxLength < left.length + t.length then _ else _ : Run Value) s = _
    rw [if_neg room]
    rfl

theorem Script.IsSum.nonempty {sum : List Addend} {x : Expr} (h : IsSum lined line sum x) : sum ≠ [] := by
  cases h with
  | one => exact List.cons_ne_nil _ _
  | more => exact List.append_ne_nil_of_right_ne_nil _ (List.cons_ne_nil _ _)

theorem sum_follows (code : List Stmt) (real : Realizes b (.nested (depth + 1)) at_.home.globals holds)
    (h : Running holds at_ em own c s) {sum : List Addend} {x : Expr}
    (isSum : IsSum lined line sum x) {first : Addend} {more : List Addend} (parts : sum = first :: more)
    (plain : ∀ a ∈ sum, a.Plain) :
    ∃ l, (lined → l = line) ∧ Follows holds at_ (at_.frames l) em.done c Value.text
      ((b.seen at_).total first more em) (Run.evaluate (.nested (depth + 2)) (at_.place code) x s) := by
  induction isSum generalizing first more with
  | @one a x isAddend =>
    obtain ⟨rfl, rfl⟩ := List.cons.inj parts
    have whole : (b.seen at_).total a [] = (b.seen at_).addend a := by
      unfold Behaviour.total
      simp only [List.foldlM_nil, bind_pure]
    rw [whole]
    exact addend_follows code real h (plain a List.mem_cons_self) isAddend
  | @more sum a l r spot left right ih =>
    obtain ⟨more', rfl, rfl⟩ : ∃ more', sum = first :: more' ∧ more = more' ++ [a] := by
      cases sum with
      | nil => exact absurd rfl left.nonempty
      | cons first' more' =>
        obtain ⟨rfl, rfl⟩ := List.cons.inj parts
        exact ⟨more', rfl, rfl⟩
    have whole : (b.seen at_).total first (more' ++ [a]) =
        (b.seen at_).total first more' >>= fun t => (b.seen at_).extend t a := by
      unfold Behaviour.total
      simp only [List.foldlM_append, List.foldlM_cons, List.foldlM_nil, bind_pure, bind_assoc]
    rw [whole]
    change ∃ n, _ ∧ Follows _ _ _ _ _ _ _ ((Run.evaluate (.nested (depth + 2)) (at_.place code) l >>= _) s)
    refine Follows.bind_line (ih rfl fun a inside => plain a (List.mem_append_left _ inside)) ?_
    intro t em' own' s' same running
    rw [← same]
    obtain ⟨n, here, follows⟩ := addend_follows code real running (plain a (by simp)) right
    refine ⟨n, here, ?_⟩
    change Follows _ _ _ _ _ _ (((b.seen at_).addend a >>= fun other => Direct.append t other) em')
      ((Run.evaluate (.nested (depth + 2)) (at_.place code) r >>= _) s')
    refine Follows.bind follows ?_
    intro other em'' own'' s'' same' running'
    rw [← same']
    exact append_follows running' _ spot t other

theorem push_follows (real : Realizes b (.nested (depth + 1)) at_.home.globals holds)
    (h : Running holds at_ em own c s) {first : Addend} {more : List Addend} {st : Stmt}
    (isPush : IsPush lined line (first :: more) st) (plain : ∀ a ∈ first :: more, a.Plain) :
    ∃ v l, (lined → l = line) ∧
      Follows holds at_ (at_.frames l) em.done c (fun _ => Completion.normal (some v))
      ((do Direct.emitLine (← (b.seen at_).total first more) : Direct σ Unit) em)
      (Run.perform (.nested (depth + 2)) (at_.place code) st s) := by
  obtain ⟨x, name, shown, key, call, place, isSum, rfl⟩ := isPush
  obtain ⟨l, here, follows⟩ := sum_follows code real h isSum rfl plain
  have args : Follows holds at_ (at_.frames l) em.done c (fun t => [Value.text t])
      ((b.seen at_).total first more em) (Run.evaluateAll (.nested (depth + 2)) (at_.place code) [x] s) :=
    Follows.map (fun v => [v]) follows
  have value : Run.evaluate (.nested (depth + 2)) (at_.place code)
      (.call (.member (.name outputName name shown) "push" key) [x] call) s =
      (Run.evaluateAll (.nested (depth + 2)) (at_.place code) [x] >>= fun args =>
        Run.callValue (.nested (depth + 2)) (at_.place code) call (.ref Method.push.address)
          (.ref at_.out) args) s := by
    change (Run.readName (at_.place code) outputName shown >>= _) s = _
    rw [bind_ok (Run.readName_output h code shown)]
    change (Run.member (.ref at_.out) "push" >>= _) s = _
    rw [bind_ok (member_push h)]
  obtain ⟨v, follows⟩ : ∃ v, Follows holds at_ (at_.frames l) em.done c (fun _ => v)
      ((do Direct.emitLine (← (b.seen at_).total first more) : Direct σ Unit) em)
      (Run.evaluate (.nested (depth + 2)) (at_.place code)
        (.call (.member (.name outputName name shown) "push" key) [x] call) s) := by
    rw [value]
    refine Follows.bind_exists args fun t em' own' s' same running => ?_
    rw [callValue_ref (real.prepared running.holds).push, ← same]
    exact emitLine_follows _ _ real running t _
  exact ⟨v, l, here, Follows.map (fun v => Completion.normal (some v)) follows⟩

theorem listing_follows (real : Realizes b (.nested (depth + 1)) at_.home.globals holds)
    (h : Running holds at_ em own none s) {e indent : Text} {st : Stmt}
    (isListing : IsListing lined line e indent st) (plain : PlainName e) :
    ∃ l, (lined → l = line) ∧
      Follows holds at_ (at_.frames l) em.done none (fun _ => Completion.normal (some .undefined))
        ((b.seen at_).list e indent em) (Run.perform (.nested (depth + 2)) (at_.place code) st s) := by
  obtain ⟨f, helper, shown, out, shown', spot, spot', call, place, thunk, here, rfl⟩ := isListing
  obtain ⟨a, entry, -⟩ := (real.prepared h.holds).listHelper
  have name : Run.readName (at_.place code) listHelperName shown s = .ok (.ref a) s :=
    readName_helper real h shown (by decide) (by decide) (by decide) entry
  have output := Run.readName_output h code shown'
  obtain ⟨own', s', made, running, reader⟩ := evaluate_thunk real h thunk code (.nested (depth + 2))
  have rest : Run.evaluateAll (.nested (depth + 2)) (at_.place code)
      [f, .literal (.text indent) spot, .literal (.text e) spot'] s =
      .ok [.ref s.objects.size, .text indent, .text e] s' := bind_ok made
  have args : Run.evaluateAll (.nested (depth + 2)) (at_.place code)
      [.name outputName out shown', f, .literal (.text indent) spot, .literal (.text e) spot'] s =
      .ok [.ref at_.out, .ref s.objects.size, .text indent, .text e] s' :=
    (bind_ok output).trans (bind_ok rest)
  have kind := kindAt_of_entry (real.prepared running.holds).listHelper entry
  have value : Run.evaluate (.nested (depth + 2)) (at_.place code)
      (.call (.name listHelperName helper shown) [.name outputName out shown', f,
        .literal (.text indent) spot, .literal (.text e) spot'] call) s =
      (Engine.nested (depth + 2)).call (at_.frames call.line) (.ref a) .undefined
        [.ref at_.out, .ref s.objects.size, .text indent, .text e] s' := by
    change (Run.readName (at_.place code) listHelperName shown >>= _) s = _
    rw [bind_ok name, bind_ok args]
    exact callValue_ref kind
  have follows := call_listHelper (at_.frames call.line) .undefined indent real running plain reader kind
  rw [← value] at follows
  exact ⟨call.line, here, Follows.map (fun v => Completion.normal (some v)) follows⟩

theorem statement_follows (code : List Stmt)
    (real : Realizes b (.nested (depth + 1)) at_.home.globals holds)
    (h : Running holds at_ em own none s) {i : Instruction} {st : Stmt} (plain : i.Plain)
    (isStatement : IsStatement lined line i st) :
    ∃ v l, (lined → l = line) ∧
      Follows holds at_ (at_.frames l) em.done none (fun _ => Completion.normal (some v))
        ((b.seen at_).emit i em) (Run.perform (.nested (depth + 2)) (at_.place code) st s) := by
  cases found : lineAddends i with
  | some sum =>
    obtain ⟨first, more⟩ := sum
    rw [isStatement_iff found] at isStatement
    obtain ⟨v, l, here, follows⟩ := push_follows (b := b) real h isStatement (plain_of_lineAddends plain found)
    exact ⟨v, l, here, Follows.of_narrows ((b.seen at_).emit_narrows found) follows⟩
  | none =>
    cases i with
    | list e indent => exact ⟨.undefined, listing_follows real h isStatement plain⟩
    | literal | fields | statement | marker => simp [IsStatement, found] at isStatement

/-- The statements of some instructions, run after those before them. An error that stops them stands on
the line of the instruction that the interpretation stops at, if the lines of the code are known. -/
theorem performAll_body (code : List Stmt)
    (real : Realizes b (.nested (depth + 1)) at_.home.globals holds)
    {instructions : List Instruction} {body : List Stmt} (plain : ∀ i ∈ instructions, i.Plain)
    (isBody : IsBody lined (em.done + 2) instructions body) (h : Running holds at_ em own none s)
    (last : Option Value) (rest : List Stmt) :
    match (b.seen at_).interpret instructions em with
    | .ok _ em' => ∃ own' s' last',
        Run.performAll (.nested (depth + 2)) (at_.place code) last (body ++ rest) s =
          Run.performAll (.nested (depth + 2)) (at_.place code) last' rest s' ∧
        Running holds at_ em' own' none s'
    | .error (.failed cause) em' => ∃ l own' stop s', (lined → l = em'.done + 2) ∧
        Run.performAll (.nested (depth + 2)) (at_.place code) last (body ++ rest) s = .error stop s' ∧
        Raised cause (at_.frames l) own' stop s'
    | .error .unknown _ => True := by
  -- The line of the next statement is two more than the number of instructions that are done.
  induction instructions generalizing em body own s last with
  | nil =>
    cases isBody
    exact ⟨own, s, last, rfl, h⟩
  | cons i others ih =>
    have later : ∀ i ∈ others, i.Plain := fun i inside => plain i (List.mem_cons_of_mem _ inside)
    rcases i.marker_or with emits | ⟨boundary, name, rfl⟩
    · obtain ⟨st, statements, rfl, isStatement, isBody⟩ := (isBody_cons emits).1 isBody
      obtain ⟨v, l, here, follows⟩ := statement_follows code real h (plain i List.mem_cons_self)
        isStatement
      cases result : (b.seen at_).emit i em with
      | ok _ em' =>
        rw [result] at follows
        obtain ⟨same, own', s', found, running⟩ := follows
        have next : (b.seen at_).interpret (i :: others) em =
            (b.seen at_).interpret others { em' with done := em'.done + 1 } := bind_ok result
        have line : em.done + 2 + 1 = em'.done + 1 + 2 := by rw [same]
        rw [line] at isBody
        rw [next]
        change match (b.seen at_).interpret others _ with
          | .ok _ _ => ∃ own' s' last', (Run.perform (.nested (depth + 2)) (at_.place code) st >>= _) s = _ ∧ _
          | .error (.failed _) _ => ∃ l own' stop s', _ ∧
            (Run.perform (.nested (depth + 2)) (at_.place code) st >>= _) s = _ ∧ _
          | .error .unknown _ => True
        rw [bind_ok found]
        exact ih later isBody (running.advance _) (some v)
      | error ending em' =>
        rw [result] at follows
        have ends : (b.seen at_).interpret (i :: others) em = .error ending em' := bind_error result
        rw [ends]
        cases ending with
        | unknown => trivial
        | failed cause =>
          obtain ⟨same, own', stop, s', w, found, raised, -⟩ := follows
          rw [← same] at here
          exact ⟨l, own', stop, s', here, bind_error found, raised⟩
    -- A marker has no statement, but it is an instruction and takes a line.
    · have next : (b.seen at_).interpret (.marker boundary name :: others) em =
          (b.seen at_).interpret others { em with done := em.done + 1 } := rfl
      have line : em.done + 2 + 1 = em.done + 1 + 2 := by omega
      change IsBody lined (em.done + 2 + 1) others body at isBody
      rw [line] at isBody
      rw [next]
      exact ih later isBody (h.advance _) last

end

end LineTemplate
