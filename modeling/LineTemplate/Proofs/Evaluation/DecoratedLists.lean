import LineTemplate.Proofs.Evaluation.Decorating
import LineTemplate.Proofs.Evaluation.Expansions

/-!
The lines of a list whose items are decorated. Text in front of the items is as good as more indentation:
the expansion reads and converts the same items at the same moments, and adds the same lines.
-/

set_option autoImplicit false

namespace LineTemplate

open Script

theorem itemLine_decorated (indent lead t : Text) :
    itemLine indent (decorated lead [] t) = itemLine (indent ++ lead) t := by
  unfold itemLine decorated
  cases t with
  | nil => rfl
  | cons c rest => simp

namespace Script

theorem Expanding.ne_out {scope out a n : Nat} {items : List Value} {lines : List Text} {s : Store}
    (h : Expanding scope out a items lines s) {producer : Producer}
    (known : s.kindAt n = some (.generator producer)) : n ≠ out := by
  rintro rfl
  cases known.symm.trans h.kindAt_out

theorem Expanding.withKind {scope out a n : Nat} {items : List Value} {lines : List Text} {s : Store}
    (h : Expanding scope out a items lines s) {producer : Producer}
    (known : s.kindAt n = some (.generator producer)) (producer' : Producer) :
    Expanding scope out a items lines (s.withKind n (.generator producer')) := by
  obtain ⟨slots, array, held⟩ := h.list
  have listApart : n ≠ a := by
    rintro rfl
    cases known.symm.trans array
  have builtinApart : n ≠ Method.push.address := by
    rintro rfl
    cases known.symm.trans h.builtin
  refine ⟨h.unconverted.changeObject (fun _ o found => ?_) (fun _ _ => rfl), ⟨slots, ?_, held⟩, ?_, ?_,
    h.scopeApart, h.listApart⟩
  · have kind : o.kind = .generator producer := by
      rw [Store.kindAt, found] at known
      exact Option.some.inj known
    unfold Run.objectMember
    rw [kind]
    rfl
  · exact (s.kindAt_withKind_of_ne _ listApart).trans array
  · change (s.objects.modify n _)[out]? = _
    rw [Array.getElem?_modify, if_neg (h.ne_out known)]
    exact h.output
  · exact (s.kindAt_withKind_of_ne _ builtinApart).trans h.builtin

namespace Run

variable {frames : List Frame} {scope out a : Nat} {items : List Value} {lines : List Text} {s : Store}

theorem finished_of_textOf {depth n : Nat} {v : Value} {text : Text} {s' : Store}
    (converted : textOf (.nested depth) frames v s = .ok text s')
    (finished : s.kindAt n = some (.generator .finished)) : s'.kindAt n = some (.generator .finished) :=
  have leads : Leads (Store.KeepsFinished n) (textOf (.nested depth) frames v) := leads_textOf frames v
  leads.ok converted finished

theorem pull_array_end (engine : Engine) (frames : List Frame) {k : Nat}
    (h : Expanding scope out a items lines s) (ended : items[k]? = none) :
    pull engine frames (.array a k) s = .ok none s :=
  bind_ok (next_array_end engine frames h ended)

theorem pull_array_item (engine : Engine) (frames : List Frame) {k : Nat} {v : Value}
    (h : Expanding scope out a items lines s) (item : items[k]? = some v) :
    pull engine frames (.array a k) s =
      match textOf engine frames v s with
      | .error stop s' => .error stop s'
      | .ok t s' => .ok (some (t, .array a (k + 1))) s' := by
  obtain ⟨slots, array, held⟩ := h.list
  have read := LineTemplate.next_array engine k frames array
  rw [held, item] at read
  unfold pull
  rw [bind_ok read]
  dsimp only [Option.map_some]
  cases converted : textOf engine frames v s with
  | error stop s' => exact bind_error (tryCatch_error converted)
  | ok t s' => exact bind_ok (tryCatch_ok converted)

/-- One item of the array, decorated: the generator converts it, and its text is added with the indentation
that is left. The generator is finished while the item is converted. -/
theorem fold_decoratedItem {depth k n : Nat} {lead : Text} {v : Value} {t : Store}
    (h : Expanding scope out a items lines s) (item : items[k]? = some v)
    (kept : Expanding scope out a items lines ((textOf (.nested (depth + 1)) frames v).after s))
    (room : lines.length < Items.arrayLimit) (finished : s.kindAt n = some (.generator .finished))
    (resumed : (Engine.nested (depth + 2)).resume frames n t =
      (pull (.nested (depth + 1)) frames (.array a k) >>= deliver n lead []) s)
    (indent e : Text) (limit : Nat) (found : Bool) :
    fold (.nested (depth + 2)) frames (emitItem (.nested (depth + 2)) frames scope (.ref out) indent e)
        (limit + 1) found (.generator n) t =
      match textOf (.nested (depth + 1)) frames v s with
      | .error stop s' => .error stop s'
      | .ok text s' => fold (.nested (depth + 2)) frames
          (emitItem (.nested (depth + 2)) frames scope (.ref out) indent e) limit true (.generator n)
          ((s'.changeObject out (Running.addLine (itemLine (indent ++ lead) text))).withKind n
            (.generator (.decorating (.array a (k + 1)) lead []))) := by
  have pulled := pull_array_item (.nested (depth + 1)) frames h item
  have given := next_generator resumed
  cases converted : textOf (.nested (depth + 1)) frames v s with
  | error stop s' =>
    rw [converted] at pulled
    rw [pulled] at given
    exact fold_broken given
  | ok text s' =>
    rw [converted] at pulled
    rw [pulled] at given
    rw [after_ok converted] at kept
    have still := finished_of_textOf converted finished
    have between := kept.withKind still (.decorating (.array a (k + 1)) lead [])
    -- the text that the generator gives is converted once more, to itself
    have itself : textOf (.nested (depth + 2)) frames (.text (decorated lead [] text))
        (s'.withKind n (.generator (.decorating (.array a (k + 1)) lead []))) =
          .ok (decorated lead [] text)
            (s'.withKind n (.generator (.decorating (.array a (k + 1)) lead []))) := rfl
    have emitted := emitItem_ok between.unconverted rfl itself between room indent e found
    rw [itemLine_decorated] at emitted
    rw [fold_item given emitted]
    unfold Store.withKind
    rw [Store.changeObject_comm _ (kept.ne_out still)]

/-- The expansion of the decorated items and the expansion of the items themselves take the same turns. The
generator of the one is finished whenever an item is converted, as it is all the time for the other. -/
theorem folds_alike {depth n : Nat} {start : Store} {lead indent : Text} (e : Text)
    (undisturbed : Undisturbed (.nested (depth + 1)) frames scope out a (indent ++ lead) items lines start)
    (present : ∀ v ∈ items, v.isMissing = false)
    (room : lines.length + items.length ≤ Items.arrayLimit) (rest : List Value) :
    ∀ (found : Bool) {ts : List Text} {k limit limit' : Nat} {s t : Store}, ts.length = k →
      items.drop k = rest →
      Reached (.nested (depth + 1)) frames out (indent ++ lead) items start ts s →
      s.kindAt n = some (.generator .finished) →
      (Engine.nested (depth + 2)).resume frames n t =
        (pull (.nested (depth + 1)) frames (.array a k) >>= deliver n lead []) s →
      rest.length < limit → rest.length < limit' →
      fold (.nested (depth + 2)) frames
          (emitItem (.nested (depth + 2)) frames scope (.ref out) indent e) limit found (.generator n) t =
        fold (.nested (depth + 1)) frames
          (emitItem (.nested (depth + 1)) frames scope (.ref out) (indent ++ lead) e) limit' found
          (.array a k) s := by
  induction rest with
  | nil =>
    rintro found ts k limit limit' s t rfl left reached finished resumed enough enough'
    obtain ⟨limit, rfl⟩ : ∃ m, limit = m + 1 := ⟨limit - 1, by omega⟩
    obtain ⟨limit', rfl⟩ : ∃ m, limit' = m + 1 := ⟨limit' - 1, by omega⟩
    have h := undisturbed.asking reached
    have ended : items[ts.length]? = none := List.getElem?_eq_none (List.drop_eq_nil_iff.1 left)
    have given := next_generator resumed
    rw [pull_array_end _ frames h ended] at given
    rw [fold_end given, fold_end (next_array_end _ frames h ended)]
  | cons v rest ih =>
    rintro found ts k limit limit' s t rfl left reached finished resumed enough enough'
    rw [List.length_cons] at enough enough'
    obtain ⟨limit, rfl⟩ : ∃ m, limit = m + 1 := ⟨limit - 1, by omega⟩
    obtain ⟨limit', rfl⟩ : ∃ m, limit' = m + 1 := ⟨limit' - 1, by omega⟩
    obtain ⟨item, others⟩ := getElem?_of_drop left
    have h := undisturbed.asking reached
    have kept := undisturbed.converting reached item
    have space := lines_room room item (indent ++ lead)
    rw [fold_emitItem h item (present v (List.mem_of_getElem? item)) kept space,
      fold_decoratedItem h item kept space finished resumed]
    cases converted : textOf (.nested (depth + 1)) frames v s with
    | error stop s' => rfl
    | ok text s' =>
      rw [after_ok converted] at kept
      have still := finished_of_textOf converted finished
      have finished' : (s'.changeObject out (Running.addLine (itemLine (indent ++ lead) text))).kindAt n =
          some (.generator .finished) := by
        rw [Store.kindAt_changeObject, if_neg (kept.ne_out still).symm]
        exact still
      have resumed' := resume_nested frames (depth + 1) (.going (.array a (ts.length + 1)))
        (Store.kindAt_withKind finished' (.generator (.decorating (.array a (ts.length + 1)) lead [])))
      rw [Store.withKind_back finished'] at resumed'
      exact ih true List.length_append others (reached.next item converted) finished' resumed' (by omega)
        (by omega)

theorem resume_decorated {depth : Nat} {f : Value} {s₁ : Store} {slots : Slots Value} (lead : Text)
    (called : (Engine.nested (depth + 1)).call frames f .undefined [] s.withFinished = .ok (.ref a) s₁)
    (array : s₁.kindAt a = some (.array slots)) :
    s₁.kindAt s.objects.size = some (.generator .finished) ∧
      (Engine.nested (depth + 2)).resume frames s.objects.size
          (s.addObject (.ofKind (.generator (.decorated f lead [])))) =
        (pull (.nested (depth + 1)) frames (.array a 0) >>= deliver s.objects.size lead []) s₁ := by
  constructor
  · have leads : Leads (Store.KeepsFinished s.objects.size)
        ((Engine.nested (depth + 1)).call frames f .undefined []) := leads_call frames f .undefined []
    exact leads.ok called (s.kindAt_addObject_size _)
  · have fresh := s.kindAt_addObject_size (.ofKind (.generator (.decorated f lead [])))
    obtain ⟨-, -, opens, -⟩ := opens_array (.nested (depth + 1)) frames array
    have opened : opened (.nested (depth + 1)) frames f s.withFinished = .ok (.array a 0) s₁ := by
      unfold Run.opened
      rw [bind_ok called, bind_ok opens]
      rfl
    rw [resume_nested frames (depth + 1) (.start f) fresh, Store.withKind_addObject]
    change ((Run.opened (.nested (depth + 1)) frames f >>= pull (.nested (depth + 1)) frames) >>=
      deliver s.objects.size lead []) s.withFinished = _
    rw [bind_assoc, bind_ok opened]

theorem opens_generator {n : Nat} {producer : Producer} (known : s.kindAt n = some (.generator producer)) :
    isSequenceObject (.ref n) s = .ok true s ∧ open? (.ref n) s = .ok (some (.generator n)) s := by
  have kind : kind? (.ref n) s = .ok (some (.generator producer)) s := by rw [kind?_ref, known]
  exact ⟨bind_ok kind, bind_ok kind⟩

/-- Decorated items are expanded as the items themselves are with the text in front of them added to the
indentation. -/
theorem emitLines_decorated {depth g : Nat} {f : Value} {lead indent : Text} {s₁ : Store}
    (known : s.kindAt g = some (.function (.native (.decorate f lead []))))
    (h : ReturnsItems (.nested (depth + 1)) frames f scope out a (indent ++ lead) items lines s.withFinished
      s₁) (e : Text) :
    ∃ result, emitLines (.nested (depth + 2)) frames scope (.ref out) (.ref g) indent e s = result ∧
      emitLines (.nested (depth + 1)) frames scope (.ref out) f (indent ++ lead) e s.withFinished =
        result ∧
      Expanded (.nested (depth + 1)) frames out (indent ++ lead) items lines s₁ result := by
  have called := h.returned
  obtain ⟨slots, array, held⟩ := (h.undisturbed.asking .start).list
  -- the items themselves
  obtain ⟨present, given⟩ := source_of_call called
  obtain ⟨-, sequence, opens, limit', limited', bound⟩ := opens_array (.nested (depth + 1)) frames array
  have enough' : items.length < limit' := held ▸ bound
  obtain ⟨result, ran, expanded, known'⟩ := fold_expanded e h.undisturbed h.present h.room items false
    (k := 0) rfl rfl .start enough'
  have some (found : Bool) (s' : Store) (done : result = .ok found s') : found = true := by
    rw [known' found s' done, List.isEmpty_eq_false_iff.2 h.nonempty]
    rfl
  have direct := emitLines_of_fold scope out (indent ++ lead) e present given sequence opens limited'
    fun found s' done => some found s' (ran.symm.trans done)
  -- the decorated ones
  have fresh := s.kindAt_addObject_size (.ofKind (.generator (.decorated f lead [])))
  obtain ⟨finished, resumed⟩ := resume_decorated lead called array
  have enough : items.length < (s.addObject (.ofKind (.generator (.decorated f lead [])))).itemCount + 0 +
      loopAllowance := by
    have small : items.length ≤ Items.arrayLimit := Nat.le_trans (Nat.le_add_left _ _) h.room
    have large : Items.arrayLimit < loopAllowance := by decide
    omega
  have alike := folds_alike e h.undisturbed h.present h.room items false (k := 0) rfl rfl .start finished
    resumed enough enough'
  obtain ⟨present₂, given₂⟩ := source_of_call (call_decorate (depth + 1) known .undefined [])
  obtain ⟨sequence₂, opens₂⟩ := opens_generator fresh
  have decoratedItems := emitLines_of_fold scope out indent e present₂ given₂ sequence₂ opens₂ rfl
    fun found s' done => some found s' (ran.symm.trans (alike.symm.trans done))
  refine ⟨_, decoratedItems.trans (bind_congr_at alike _), direct, ?_⟩
  cases result with
  | ok found s' =>
    rw [bind_ok ran]
    exact expanded
  | error stop s' =>
    rw [bind_error ran]
    exact expanded

end Run

end Script

/-- Decorating the sequences of a function twice is decorating them once with the joined texts: each call
gives the same items, and ends with the same error, if with any. In an expansion, text in front of items is
as good as more indentation: both add the same lines, and an item without text an empty one.

The generator in the middle is one object and one level of calls. Where it is missing, a finished generator
stands in its place in the store, and calls nest one level less. -/
theorem decorations_join (depth : Nat) (frames : List Frame) (f : Value) (s : Store) :
    (∀ (lead₁ trail₁ lead₂ trail₂ : Text) (once twice joined : Nat),
      s.kindAt once = some (.function (.native (.decorate f lead₁ trail₁))) →
      s.kindAt twice = some (.function (.native (.decorate (.ref once) lead₂ trail₂))) →
      s.kindAt joined =
        some (.function (.native (.decorate f (lead₂ ++ lead₁) (trail₁ ++ trail₂)))) →
      ∃ g g' t t',
        (Engine.nested (depth + 2)).call frames (.ref twice) .undefined [] s = .ok (.ref g) t ∧
        (Engine.nested (depth + 1)).call frames (.ref joined) .undefined [] s.withFinished =
          .ok (.ref g') t' ∧
        ∀ limit, ((Engine.nested (depth + 2)).readItems frames g limit t).Same
          ((Engine.nested (depth + 1)).readItems frames g' limit t')) ∧
    ∀ (lead indent e : Text) (decorating scope out a : Nat) (items : List Value) (lines : List Text)
      (start : Store),
      s.kindAt decorating = some (.function (.native (.decorate f lead []))) →
      ReturnsItems (.nested (depth + 1)) frames f scope out a (indent ++ lead) items lines s.withFinished
        start →
      ∃ result,
        Run.emitLines (.nested (depth + 2)) frames scope (.ref out) (.ref decorating) indent e s =
          result ∧
        Run.emitLines (.nested (depth + 1)) frames scope (.ref out) f (indent ++ lead) e s.withFinished =
          result ∧
        Expanded (.nested (depth + 1)) frames out (indent ++ lead) items lines start result := by
  constructor
  · intro lead₁ trail₁ lead₂ trail₂ once twice joined inner outer fused
    have kept : s.withFinished.kindAt joined =
        some (.function (.native (.decorate f (lead₂ ++ lead₁) (trail₁ ++ trail₂)))) :=
      Store.kindAt_addObject fused _
    exact ⟨_, _, _, _, Run.call_decorate (depth + 1) outer .undefined [],
      Run.call_decorate depth kept .undefined [],
      fun limit => same_decorations depth frames inner lead₂ trail₂ limit⟩
  · intro lead indent e decorating scope out a items lines start known returns
    exact Run.emitLines_decorated known returns e

/-- A store with a function that returns a list, one that returns a generator which fails after two items,
and functions that decorate what these return. -/
def decoratingStore : Store :=
  let items : List Value := [.text "a", .text []]
  let supply : Supply := .mk [.text "a", .text []] (some (.text "broken"))
  let natives : List Native := [.const (.ref 14), .sequence supply, .decorate (.ref 16) "<" ">",
    .decorate (.ref 17) "[" "]", .decorate (.ref 16) "[<" ">]", .decorate (.ref 15) "- " []]
  { Store.empty with
    objects := (builtins.map Obj.ofNative ++ [.ofKind .plain, linesObject ["x"],
      .ofKind (.array (.ofList items))] ++ natives.map Obj.ofNative).toArray }

/-- A generator that fails, decorated twice, and a list with an empty item, decorated and indented. -/
theorem decorations_join_sample :
    (∃ g g' t t',
      (Engine.nested 2).call [] (.ref 18) .undefined [] decoratingStore = .ok (.ref g) t ∧
      (Engine.nested 1).call [] (.ref 19) .undefined [] decoratingStore.withFinished = .ok (.ref g') t' ∧
      ∀ limit, ((Engine.nested 2).readItems [] g limit t).Same
        ((Engine.nested 1).readItems [] g' limit t')) ∧
    ∃ result,
      Run.emitLines (.nested 2) [] 12 (.ref 13) (.ref 20) "  " "list" decoratingStore = result ∧
      Run.emitLines (.nested 1) [] 12 (.ref 13) (.ref 15) ("  " ++ "- ") "list"
        decoratingStore.withFinished = result ∧
      Expanded (.nested 1) [] 13 ("  " ++ "- ") [.text "a", .text []] ["x"] decoratingStore.withFinished
        result := by
  have returns : ReturnsItems (.nested 1) [] (.ref 15) 12 13 14 ("  " ++ "- ") [.text "a", .text []] ["x"]
      decoratingStore.withFinished decoratingStore.withFinished := by
    have unconverted : decoratingStore.withFinished.Unconverted 12 := by
      intro o a f found member
      obtain rfl : Obj.ofKind .plain = o := Option.some.inj found
      cases member
    have expanding : Expanding 12 13 14 [.text "a", .text []] ["x"] decoratingStore.withFinished :=
      ⟨unconverted, ⟨_, rfl, rfl⟩, rfl, rfl, by decide, by decide⟩
    exact ⟨rfl, undisturbed_of_ne_ref _ _ (by simp) expanding, by simp, by simp [Value.isMissing],
      by decide⟩
  exact ⟨(decorations_join 0 [] (.ref 16) decoratingStore).1 "<" ">" "[" "]" 17 18 19 rfl rfl rfl,
    (decorations_join 0 [] (.ref 15) decoratingStore).2 "- " "  " "list" 20 12 13 14 _ _ _ rfl returns⟩

end LineTemplate
