import LineTemplate.Proofs.Evaluation.Readers

/-!
What the two helpers of generated code do. Each follows the direct interpretation: it gives the same
text or the same lines, or raises an error that tells why there are none.
-/

set_option autoImplicit false

namespace LineTemplate

open Script

/-- The error that reports a cause. -/
structure Cause.Reported (cause : Cause) (report : ErrorReport) : Prop where
  detail : match cause with
    | .missing e => report.detail = .undefinedReference e
    | .notText => ∃ t, report.detail = .badConversion t
    | .notSequence => report.detail = .none
  /-- The name and the message stay on one line, which starts with the name. -/
  name : 0x0A ∉ report.name
  visible : ∃ c rest, report.name = c :: rest ∧ c.isBlank = false
  message : 0x0A ∉ report.message

/-- A run that has ended with the error that reports a cause. -/
def Raised (cause : Cause) (frames : List Frame) (own : Own) (stop : Stop) (s : Store) : Prop :=
  ∃ a report, stop = .thrown (.ref a) ∧ a ∈ own.objects ∧
    s.objects[a]? = some (Run.errorObject frames report) ∧ cause.Reported report

namespace Script.Run

theorem member_reads (v : Value) (key : Text) (s : Store) : ∃ r, member v key s = .ok r s := by
  cases v <;> exact ⟨_, rfl⟩

theorem kind?_reads (v : Value) (s : Store) : ∃ r, kind? v s = .ok r s := by
  cases v <;> exact ⟨_, rfl⟩

theorem isFunction_reads (v : Value) (s : Store) : ∃ r, isFunction v s = .ok r s := by
  obtain ⟨kind, found⟩ := kind?_reads v s
  exact ⟨_, bind_ok found⟩

theorem convertValue_of_conversion {engine : Engine} {frames : List Frame} {scope : Nat}
    {v r : Value} {e : Text} {s s' : Store} (present : v.isMissing = false)
    (h : conversion engine frames scope v s = .ok r s') :
    convertValue engine frames scope v e s =
      match r with
      | .text t => .ok t s'
      | other => (do raise frames (.badConversion (← describeType other) none) : Run Text) s' := by
  obtain ⟨convert, found⟩ := member_reads (.ref scope) conversionName s
  obtain ⟨callable, known⟩ := isFunction_reads convert s
  unfold conversion at h
  rw [bind_ok found, bind_ok known] at h
  unfold convertValue
  rw [if_neg (by simp [present])]
  change (member (.ref scope) conversionName >>= _) s = _
  rw [bind_ok found, bind_ok known]
  cases callable with
  | true =>
    rw [if_pos rfl] at h ⊢
    rw [bind_ok h]
    cases r <;> rfl
  | false =>
    rw [if_neg (by decide)] at h ⊢
    cases text : textOf engine frames v s with
    | ok t s₁ =>
      rw [bind_ok text] at h
      cases h
      rfl
    | error stop s₁ =>
      rw [bind_error text] at h
      cases h

theorem describeType_reads (v : Value) (s : Store) :
    ∃ t, describeType v s = .ok t s ∧ 0x0A ∉ t := by
  have named (v : Value) : ∃ t, typeName v s = .ok t s ∧ 0x0A ∉ t := by
    cases v with
    | ref a =>
      obtain ⟨callable, known⟩ := isFunction_reads (.ref a) s
      refine ⟨_, bind_ok known, ?_⟩
      cases callable <;> decide
    | undefined | null | bool | number | bigint | text | symbol => exact ⟨_, rfl, by decide⟩
  obtain ⟨kind, found⟩ := kind?_reads v s
  unfold describeType
  rw [bind_ok found]
  split
  · exact ⟨_, rfl, by decide⟩
  · exact ⟨_, rfl, by decide⟩
  · exact named v

theorem listSource_of_source {engine : Engine} {frames : List Frame} {v r : Value} {e : Text}
    {s s' : Store} {sequence : Bool} (present : v.isMissing = false)
    (h : source engine frames v s = .ok r s') (known : isSequenceObject r s' = .ok sequence s') :
    ∃ t, 0x0A ∉ t ∧ listSource engine frames v e s =
      if sequence then .ok r s' else
        raiseType frames (("'" : Text) ++ e ++
          ("' is not a sequence or a function returning one (got " : Text) ++ t ++ (")" : Text)) s' := by
  obtain ⟨callable, called⟩ := isFunction_reads v s
  obtain ⟨t, described, line⟩ := describeType_reads r s'
  refine ⟨t, line, ?_⟩
  unfold source at h
  rw [bind_ok called] at h
  unfold listSource
  rw [if_neg (by simp [present])]
  change (isFunction v >>= _) s = _
  rw [bind_ok called]
  cases callable with
  | true =>
    change engine.call frames v .undefined [] s = _ at h
    change (engine.call frames v .undefined [] >>= _) s = _
    rw [bind_ok h]
    change (isSequenceObject r >>= _) s' = _
    rw [bind_ok known]
    cases sequence with
    | true => rfl
    | false => exact bind_ok described
  | false =>
    cases h
    change (isSequenceObject v >>= _) s = _
    rw [bind_ok known]
    cases sequence with
    | true => rfl
    | false => exact bind_ok described

end Script.Run

/-- A run follows an interpretation: it gives the same result, or raises the error that reports the
cause of its end. The store goes on to stand for the state of the interpretation. -/
def Follows {σ α β : Type} (holds : σ → Own → Option Cursor → Store → Prop) (at_ : Station)
    (frames : List Frame) (done : Nat) (c : Option Cursor) (f : α → β)
    (direct : EStateM.Result Ending (Emission σ) α) (run : EStateM.Result Stop Store β) : Prop :=
  match direct with
  | .ok a em => em.done = done ∧ ∃ own s, run = .ok (f a) s ∧ Running holds at_ em own c s
  | .error (.failed cause) em => em.done = done ∧ ∃ own stop s w, run = .error stop s ∧
      Raised cause frames own stop s ∧ holds w own c s
  | .error .unknown _ => True

section

variable {σ : Type} {b : Behaviour σ} {engine : Engine} {scope : Nat}
  {holds : σ → Own → Option Cursor → Store → Prop} {at_ : Station} {frames : List Frame}
  {own : Own} {c : Option Cursor} {s : Store} {em : Emission σ} {done : Nat}

theorem Follows.bind_exists {α α' β β' γ : Type} [Inhabited γ] {f : α → β} {g : γ → α' → β'}
    {d : Direct σ α} {r : Run β} {k : α → Direct σ α'} {k' : β → Run β'}
    (first : Follows holds at_ frames done c f (d em) (r s))
    (others : ∀ a em' own' s', em'.done = done → Running holds at_ em' own' c s' →
      ∃ x, Follows holds at_ frames done c (g x) (k a em') (k' (f a) s')) :
    ∃ x, Follows holds at_ frames done c (g x) ((d >>= k) em) ((r >>= k') s) := by
  cases result : d em with
  | ok a em' =>
    rw [result] at first
    obtain ⟨same, own', s', found, running⟩ := first
    rw [bind_ok found, bind_ok result]
    exact others a em' own' s' same running
  | error ending em' =>
    rw [result] at first
    rw [bind_error result]
    refine ⟨default, ?_⟩
    cases ending with
    | unknown => trivial
    | failed cause =>
      obtain ⟨same, own', stop, s', w, found, raised⟩ := first
      exact ⟨same, own', stop, s', w, bind_error found, raised⟩

theorem Follows.bind {α α' β β' : Type} {f : α → β} {g : α' → β'} {d : Direct σ α} {r : Run β}
    {k : α → Direct σ α'} {k' : β → Run β'} (first : Follows holds at_ frames done c f (d em) (r s))
    (others : ∀ a em' own' s', em'.done = done → Running holds at_ em' own' c s' →
      Follows holds at_ frames done c g (k a em') (k' (f a) s')) :
    Follows holds at_ frames done c g ((d >>= k) em) ((r >>= k') s) := by
  obtain ⟨_, follows⟩ := Follows.bind_exists (γ := Unit) (g := fun _ => g) first
    fun a em' own' s' same running => ⟨(), others a em' own' s' same running⟩
  exact follows

theorem Follows.map {α β γ : Type} {f : α → β} (g : β → γ) {d : Direct σ α} {r : Run β}
    (h : Follows holds at_ frames done c f (d em) (r s)) :
    Follows holds at_ frames done c (fun a => g (f a)) (d em) ((do return g (← r) : Run γ) s) := by
  cases result : d em with
  | ok a em' =>
    rw [result] at h
    obtain ⟨same, own', s', found, running⟩ := h
    exact ⟨same, own', s', bind_ok found, running⟩
  | error ending em' =>
    rw [result] at h
    cases ending with
    | unknown => trivial
    | failed cause =>
      obtain ⟨same, own', stop, s', w, found, raised⟩ := h
      exact ⟨same, own', stop, s', w, bind_error found, raised⟩

theorem Follows.item {α α' β β' : Type} {f : α → β} {g : α' → β'} {cursor : Cursor} {d : Direct σ α}
    {r : Run β} {k : α → Direct σ α'} {k' : β → Run β'} (real : Realizes b engine scope holds)
    (first : Follows holds at_ frames done (some cursor) f (d em) (r s))
    (others : ∀ a em' own' s', em'.done = done → Running holds at_ em' own' (some cursor) s' →
      Follows holds at_ frames done none g (k a em') (k' (f a) s')) :
    Follows holds at_ frames done none g ((d >>= k) em)
      (((tryCatch r fun stop => do Run.close cursor; throw stop) >>= k') s) := by
  cases result : d em with
  | ok a em' =>
    rw [result] at first
    obtain ⟨same, own', s', found, running⟩ := first
    rw [bind_ok (Run.tryCatch_ok found), bind_ok result]
    exact others a em' own' s' same running
  | error ending em' =>
    rw [result] at first
    rw [bind_error result]
    cases ending with
    | unknown => trivial
    | failed cause =>
      obtain ⟨same, own', stop, s', w, found, ⟨a, report, rfl, inside, error, reported⟩, stays⟩ := first
      obtain ⟨s'', w', closed, kept, after⟩ := real.close stays
      refine ⟨same, own', _, s'', w', bind_error (Run.tryCatch_error found |>.trans (bind_ok closed)),
        ⟨a, report, rfl, inside, ?_, reported⟩, after⟩
      rw [kept.objects a inside, error]

theorem Follows.raise {α β : Type} {f : α → β} (real : Realizes b engine scope holds)
    (h : Running holds at_ em own c s) {cause : Cause} {report : ErrorReport}
    (reported : cause.Reported report) :
    Follows holds at_ frames em.done c f (.error (.failed cause) em) (Run.raise (α := β) frames report s) := by
  refine ⟨rfl, own.withObject s.objects.size, _, _, em.world, Run.raise_eq frames report s, ?_, ?_⟩
  · refine ⟨s.objects.size, report, rfl, List.mem_cons_self, ?_, reported⟩
    exact Array.getElem?_push_size
  · exact real.addObject _ h.holds

theorem reported_missing {e : Text} (plain : 0x0A ∉ e) :
    (Cause.missing e).Reported (.undefinedReference e none) where
  detail := rfl
  name := by
    change 0x0A ∉ ("UndefinedReferenceError" : Text)
    decide
  visible := ⟨_, _, rfl, by decide⟩
  message := by
    change 0x0A ∉ ("Expression '" : Text) ++ e ++ ("' is undefined in the current scope" : Text)
    have lead : 0x0A ∉ ("Expression '" : Text) := by decide
    have trail : 0x0A ∉ ("' is undefined in the current scope" : Text) := by decide
    simp only [List.mem_append, not_or]
    exact ⟨⟨lead, plain⟩, trail⟩

theorem reported_notText {t : Text} (plain : 0x0A ∉ t) :
    Cause.notText.Reported (.badConversion t none) where
  detail := ⟨t, rfl⟩
  name := by
    change 0x0A ∉ ("BadConversionError" : Text)
    decide
  visible := ⟨_, _, rfl, by decide⟩
  message := by
    change 0x0A ∉ ("The 'toText' function did not return a string (got " : Text) ++ t ++ (")" : Text)
    have lead : 0x0A ∉ ("The 'toText' function did not return a string (got " : Text) := by decide
    have trail : 0x0A ∉ (")" : Text) := by decide
    simp only [List.mem_append, not_or]
    exact ⟨⟨lead, plain⟩, trail⟩

theorem reported_notSequence {e t : Text} (plain : 0x0A ∉ e) (line : 0x0A ∉ t) :
    Cause.notSequence.Reported (.plain "TypeError" (("'" : Text) ++ e ++
      ("' is not a sequence or a function returning one (got " : Text) ++ t ++ (")" : Text))) where
  detail := rfl
  name := by
    change 0x0A ∉ ("TypeError" : Text)
    decide
  visible := ⟨_, _, rfl, by decide⟩
  message := by
    change 0x0A ∉ ("'" : Text) ++ e ++ ("' is not a sequence or a function returning one (got " : Text) ++
      t ++ (")" : Text)
    have lead : 0x0A ∉ ("'" : Text) := by decide
    have middle : 0x0A ∉ ("' is not a sequence or a function returning one (got " : Text) := by decide
    have trail : 0x0A ∉ (")" : Text) := by decide
    simp only [List.mem_append, not_or]
    exact ⟨⟨⟨⟨lead, plain⟩, middle⟩, line⟩, trail⟩

theorem convertValue_follows (real : Realizes b engine scope holds) {e : Text} (plain : 0x0A ∉ e)
    (h : Running holds at_ em own c s) (v : Value) :
    Follows holds at_ frames em.done c id (b.text e v em) (Run.convertValue engine frames scope v e s) := by
  unfold Behaviour.text
  cases missing : v.isMissing with
  | true =>
    unfold Run.convertValue
    rw [missing]
    exact Follows.raise real h (reported_missing plain)
  | false =>
    rw [if_neg (by decide)]
    change Follows holds at_ frames em.done c id ((Direct.step (fun w => b.convert w v) >>= _) em) _
    cases answers : b.convert em.world v with
    | none =>
      rw [bind_error (Direct.step_none answers)]
      trivial
    | some answer =>
      obtain ⟨r, w⟩ := answer
      obtain ⟨s', found, kept, holds'⟩ := real.convert frames h.holds answers
      rw [Run.convertValue_of_conversion missing found, bind_ok (Direct.step_some answers)]
      have running := h.kept kept holds'
      have refused (r : Value) : Follows (β := Text) holds at_ frames em.done c id
          (.error (.failed .notText) { em with world := w })
          ((do Run.raise frames (.badConversion (← Run.describeType r) none) : Run Text) s') := by
        obtain ⟨t, described, line⟩ := Run.describeType_reads r s'
        rw [bind_ok described]
        exact Follows.raise real running (reported_notText line)
      cases r with
      | text t => exact ⟨rfl, own, s', rfl, running⟩
      | undefined | null | bool | number | bigint | symbol | ref => exact refused _

theorem readExpression_follows {depth t : Nat} {e : Text}
    (real : Realizes b engine at_.home.globals holds) (h : Running holds at_ em own c s)
    (plain : PlainName e) (reader : IsReader at_ e s t) :
    Follows holds at_ frames em.done c id ((b.seen at_).value e em)
      (Run.readExpression (.nested (depth + 1)) frames (.ref t) e s) := by
  have called := call_isReader depth frames .undefined real h plain reader
  unfold Run.readExpression
  rw [bind_ok reader.isFunction, if_neg (by decide)]
  change Follows _ _ _ _ _ _ _
    (tryCatch ((Engine.nested (depth + 1)).call frames (.ref t) .undefined []) _ s)
  cases entry : (b.seen at_).entry em.world e with
  | some v =>
    rw [entry] at called
    rw [Behaviour.value_some entry, Run.tryCatch_ok called]
    exact ⟨rfl, _, _, rfl, h.addScope real []⟩
  | none =>
    rw [entry] at called
    obtain ⟨report, frames', named, raised⟩ := called
    rw [Behaviour.value_none entry, Run.tryCatch_error raised]
    have running := (h.addScope real []).addObject real (Run.errorObject frames' report)
    have found : ((s.addScope []).addObject (Run.errorObject frames' report)).objects[s.objects.size]? =
        some (Run.errorObject frames' report) := Array.getElem?_push_size
    change Follows _ _ _ _ _ _ _ ((Run.isReferenceError (.ref s.objects.size) >>= _) _)
    rw [bind_ok (Run.isReferenceError_errorObject found named)]
    exact Follows.raise real running (reported_missing plain.word.noLineFeed)

theorem call_native {depth a : Nat} {this : Value} {args : List Value} {f : Native}
    (found : s.kindAt a = some (.function (.native f))) :
    (Engine.nested (depth + 1)).call frames (.ref a) this args s =
      Run.callNative (.nested depth) frames a this args f s := by
  have kind : Run.kind? (.ref a) s = .ok (some (.function (.native f))) s := by
    rw [Run.kind?_ref, found]
  change (Run.kind? (.ref a) >>= _) s = _
  rw [bind_ok kind]

theorem call_textHelper {depth t a : Nat} {e : Text} {this : Value}
    (real : Realizes b (.nested (depth + 1)) at_.home.globals holds)
    (h : Running holds at_ em own c s) (plain : PlainName e) (reader : IsReader at_ e s t)
    (helper : s.kindAt a = some (.function (.native (.textHelper at_.home.globals)))) :
    Follows holds at_ frames em.done c Value.text ((b.seen at_).field e em)
      ((Engine.nested (depth + 2)).call frames (.ref a) this [.ref t, .text e] s) := by
  rw [call_native helper]
  change Follows _ _ _ _ _ _ (((b.seen at_).value e >>= fun v => b.text e v) em)
    ((Run.readExpression (.nested (depth + 1)) frames (.ref t) e >>= _) s)
  refine Follows.bind (readExpression_follows real h plain reader) fun v em' own' s' same running => ?_
  rw [← same]
  exact Follows.map Value.text (convertValue_follows real plain.word.noLineFeed running v)

theorem call_push_lines (depth : Nat) (frames : List Frame) {s : Store} {out : Nat} {lines : List Text}
    (builtin : s.kindAt Method.push.address = some (.function (.native (.method .push))))
    (output : s.objects[out]? = some (linesObject lines)) (line : Text)
    (room : lines.length < Items.arrayLimit) :
    ∃ v, (Engine.nested (depth + 1)).call frames (.ref Method.push.address) (.ref out) [.text line] s =
      .ok v (s.changeObject out (Running.addLine line)) := by
  have array : Run.kind? (.ref out) s = .ok (some (.array (.ofList (lines.map .text)))) s := by
    rw [Run.kind?_ref, Store.kindAt, output]
    rfl
  rw [call_native builtin]
  have items : Items.ofValue (.nested depth) frames .push (.ref out) s = .ok ⟨out, lines.length⟩ s := by
    change ((pure (.ref out) : Run Value) >>= _) s = _
    rw [bind_ok (show (pure (Value.ref out) : Run Value) s = .ok (.ref out) s from rfl)]
    change (Run.kind? (.ref out) >>= _) s = _
    rw [bind_ok array]
    change EStateM.Result.ok (Items.mk out (lines.map Value.text).length) s = _
    rw [List.length_map]
  change ∃ v, (Items.ofValue (.nested depth) frames .push (.ref out) >>= _) s = _
  rw [bind_ok items]
  change ∃ v, (Run.kind? (.ref out) >>= _) s = _
  rw [bind_ok array]
  refine ⟨.ofNat (lines.length + 1), ?_⟩
  have fits : lines.length + 1 ≤ Items.arrayLimit := room
  change (if lines.length + 1 ≤ Items.arrayLimit then _ else _ : Run Value) s = _
  rw [if_pos fits]
  rfl

theorem pushLine_eq (engine : Engine) (frames : List Frame) {s : Store} {out : Nat} {lines : List Text}
    (builtin : s.kindAt Method.push.address = some (.function (.native (.method .push))))
    (output : s.objects[out]? = some (linesObject lines)) (line : Text) :
    Run.pushLine engine frames (.ref out) line s =
      (do return (fun _ => ()) (← engine.call frames (.ref Method.push.address) (.ref out)
        [.text line]) : Run Unit) s := by
  change (Run.member (.ref out) "push" >>= _) s = _
  have member : Run.member (.ref out) "push" s = .ok (.ref Method.push.address) s :=
    Run.member_ref output "push"
  rw [bind_ok member, bind_ok (Run.isFunction_ref builtin)]
  change ((fun _ => ()) <$> engine.call frames (.ref Method.push.address) (.ref out) [.text line]) s = _
  rw [map_eq_pure_bind]

theorem member_push (h : Running holds at_ em own c s) :
    Run.member (.ref at_.out) "push" s = .ok (.ref Method.push.address) s :=
  Run.member_ref h.output "push"

theorem call_push (depth : Nat) (frames : List Frame) (real : Realizes b engine at_.home.globals holds)
    (h : Running holds at_ em own c s) (line : Text) (room : em.lines.length < Items.arrayLimit) :
    ∃ v, (Engine.nested (depth + 1)).call frames (.ref Method.push.address) (.ref at_.out)
      [.text line] s = .ok v (s.changeObject at_.out (Running.addLine line)) :=
  call_push_lines depth frames (real.prepared h.holds).push h.output line room

theorem emitLine_follows (frames : List Frame) (depth : Nat) (real : Realizes b engine at_.home.globals holds)
    (h : Running holds at_ em own c s) (line : Text) (active : List Frame) :
    ∃ v, Follows holds at_ frames em.done c (fun _ => v) (Direct.emitLine line em)
      ((Engine.nested (depth + 1)).call active (.ref Method.push.address) (.ref at_.out)
        [.text line] s) := by
  unfold Direct.emitLine
  change ∃ v, Follows _ _ _ _ _ _
    ((if em.lines.length < Items.arrayLimit then _ else _ : Direct σ Unit) em) _
  split
  · rename_i room
    obtain ⟨v, pushed⟩ := call_push depth active real h line room
    exact ⟨v, rfl, own, _, pushed, h.push real line⟩
  · exact ⟨.undefined, trivial⟩

theorem pushLine_follows {depth : Nat} (real : Realizes b engine at_.home.globals holds)
    (h : Running holds at_ em own c s) (line : Text) :
    Follows holds at_ frames em.done c id (Direct.emitLine line em)
      (Run.pushLine (.nested (depth + 1)) frames (.ref at_.out) line s) := by
  obtain ⟨v, follows⟩ := emitLine_follows frames depth real h line frames
  rw [pushLine_eq _ frames (real.prepared h.holds).push h.output line]
  exact Follows.map (fun _ => ()) follows

theorem item_follows {depth : Nat} (real : Realizes b (.nested (depth + 1)) at_.home.globals holds)
    {e indent : Text} (plain : 0x0A ∉ e) (h : Running holds at_ em own c s) (v : Value) :
    Follows holds at_ frames em.done c (fun _ => true) (b.item e indent v em)
      ((do
        let content ← Run.convertValue (.nested (depth + 1)) frames at_.home.globals v e
        Run.pushLine (.nested (depth + 1)) frames (.ref at_.out)
          (if content.isEmpty then [] else indent ++ content)
        return true : Run Bool) s) := by
  unfold Behaviour.item
  refine Follows.bind (convertValue_follows real plain h v) fun t em' own' s' same running => ?_
  rw [← same]
  exact Follows.map (fun _ => true) (pushLine_follows real running _)

theorem fold_follows {depth : Nat} (real : Realizes b (.nested (depth + 1)) at_.home.globals holds)
    {e indent : Text} (plain : 0x0A ∉ e) {limit n : Nat} (bounded : limit ≤ n) {found : Bool}
    {cursor : Cursor} (h : Running holds at_ em own (some cursor) s) :
    Follows holds at_ frames em.done none id (b.items e indent limit found em)
      (Run.fold (.nested (depth + 1)) frames (fun _ item => do
        let content ← Run.convertValue (.nested (depth + 1)) frames at_.home.globals item e
        Run.pushLine (.nested (depth + 1)) frames (.ref at_.out)
          (if content.isEmpty then [] else indent ++ content)
        return true) n found cursor s) := by
  -- The loop of the helper may go on for longer than the interpretation, never for less.
  induction limit generalizing n found cursor em own s with
  | zero => trivial
  | succ limit ih =>
    obtain ⟨n, rfl⟩ : ∃ m, n = m + 1 := ⟨n - 1, by omega⟩
    unfold Behaviour.items Run.fold
    cases answers : b.next em.world with
    | none =>
      rw [bind_error (Direct.step_none answers)]
      trivial
    | some answer =>
      obtain ⟨item, w⟩ := answer
      rw [bind_ok (Direct.step_some answers)]
      cases item with
      | none =>
        obtain ⟨s', ended, kept, holds'⟩ := real.finish frames h.holds answers
        rw [bind_ok ended]
        exact ⟨rfl, own, s', rfl, h.kept kept holds'⟩
      | some v =>
        obtain ⟨rest, s', read, kept, holds'⟩ := real.next frames h.holds answers
        rw [bind_ok read]
        have running := h.kept kept holds'
        refine Follows.item real (item_follows real plain running v) ?_
        intro _ em' own' s'' same after
        rw [← same]
        exact ih (by omega) after

theorem emitLines_follows {depth : Nat}
    (real : Realizes b (.nested (depth + 1)) at_.home.globals holds) {e : Text} (indent : Text)
    (plain : 0x0A ∉ e) (h : Running holds at_ em own none s) (v : Value) :
    Follows holds at_ frames em.done none id (b.sequence e indent v em)
      (Run.emitLines (.nested (depth + 1)) frames at_.home.globals (.ref at_.out) v indent e s) := by
  unfold Behaviour.sequence
  cases missing : v.isMissing with
  | true =>
    have refused : Run.listSource (.nested (depth + 1)) frames v e s =
        Run.raise frames (.undefinedReference e none) s := by
      unfold Run.listSource
      rw [missing]
      rfl
    change Follows _ _ _ _ _ _ _ ((Run.listSource (.nested (depth + 1)) frames v e >>= _) s)
    rw [bind_error (refused.trans (Run.raise_eq _ _ _))]
    exact Follows.raise real h (reported_missing plain)
  | false =>
    rw [if_neg (by decide)]
    change Follows _ _ _ _ _ _ ((Direct.step (fun w => b.start w v) >>= _) em)
      ((Run.listSource (.nested (depth + 1)) frames v e >>= _) s)
    cases answers : b.start em.world v with
    | none =>
      rw [bind_error (Direct.step_none answers)]
      trivial
    | some answer =>
      obtain ⟨limit, w⟩ := answer
      rw [bind_ok (Direct.step_some answers)]
      cases limit with
      | none =>
        obtain ⟨r, s', found, known, kept, holds'⟩ := real.noSequence frames h.holds answers
        obtain ⟨t, line, refused⟩ := Run.listSource_of_source (e := e) missing found known
        rw [bind_error (refused.trans (Run.raise_eq _ _ _))]
        exact Follows.raise real (h.kept kept holds') (reported_notSequence plain line)
      | some limit =>
        obtain ⟨r, s₁, cursor, s₂, found, known, opened, ⟨n, bound, bounded⟩, kept, holds'⟩ :=
          real.start frames h.holds answers
        obtain ⟨t, line, listed⟩ := Run.listSource_of_source (e := e) missing found known
        rw [bind_ok listed, bind_ok opened]
        change Follows _ _ _ _ _ _ _ ((Run.loopLimit r >>= _) s₂)
        rw [bind_ok bound]
        refine Follows.bind (fold_follows real plain bounded (h.kept kept holds')) ?_
        intro found em' own' s' same running
        rw [← same]
        change Follows _ _ _ _ _ _ ((if !found && !indent.isEmpty then _ else _ : Direct σ Unit) em')
          ((if !found && !indent.isEmpty then _ else _ : Run Unit) s')
        split
        · exact pushLine_follows real running indent
        · exact ⟨rfl, own', s', rfl, running⟩

theorem call_listHelper {depth t a : Nat} {e : Text} (frames : List Frame) (this : Value) (indent : Text)
    (real : Realizes b (.nested (depth + 1)) at_.home.globals holds)
    (h : Running holds at_ em own none s) (plain : PlainName e) (reader : IsReader at_ e s t)
    (helper : s.kindAt a = some (.function (.native (.listHelper at_.home.globals)))) :
    Follows holds at_ frames em.done none (fun _ => Value.undefined) ((b.seen at_).list e indent em)
      ((Engine.nested (depth + 2)).call frames (.ref a) this
        [.ref at_.out, .ref t, .text indent, .text e] s) := by
  rw [call_native helper]
  change Follows _ _ _ _ _ _ (((b.seen at_).value e >>= fun v => (b.seen at_).sequence e indent v) em)
    ((Run.readExpression (.nested (depth + 1)) frames (.ref t) e >>= _) s)
  refine Follows.bind (readExpression_follows real h plain reader) fun v em' own' s' same running => ?_
  rw [← same, Behaviour.sequence_seen]
  exact Follows.map (fun _ => Value.undefined)
    (emitLines_follows real indent plain.word.noLineFeed running v)

end

end LineTemplate
