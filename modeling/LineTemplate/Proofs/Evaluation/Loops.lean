import LineTemplate.Proofs.Evaluation.Turns

/-!
A program that loops over an array. Its code is parsed and run like that of a program without statements,
and what it yields is one line for each item.
-/

set_option autoImplicit false

namespace LineTemplate

open Script

def loopInstructions (lead : Text) : List Instruction :=
  [.statement loopHead, .fields [] [⟨lead, some "x"⟩] [], .statement loopFoot]

theorem plainName_item : PlainName "x" := by decide

theorem parse_loopInstructions {p : Program} {lead : Text} (isLoop : p.instructions = loopInstructions lead) :
    ∃ first more x spot, lineAddends (.fields [] [⟨lead, some "x"⟩] []) = some (first, more) ∧
      parse p.code = .ok [.expr x spot] ∧ IsOutputFunction (IsLoopBody (first :: more)) x := by
  have plain : (Instruction.fields [] [⟨lead, some "x"⟩] []).Plain := by
    simpa [Instruction.Plain] using plainName_item
  obtain ⟨first, more, sum⟩ : ∃ first more,
      lineAddends (.fields [] [⟨lead, some "x"⟩] []) = some (first, more) := ⟨_, _, lineAddends_fields _ _ _⟩
  have legible := legible_lineAddends sum (plain.legible fun _ _ same => by cases same)
  have spells : p.code = Text.join "\n" [codeHeader, loopHead, Instruction.pushCode
      (Text.join " + " ((first :: more).map Addend.code)), loopFoot, codeFooter] := by
    rw [← code_of_lineAddends sum, Program.code, Program.codeLines, isLoop]
    rfl
  obtain ⟨x, spot, parsed, isFunction⟩ := parse_loop legible spells
  exact ⟨first, more, x, spot, sum, parsed, isFunction⟩

theorem readied_of_loop {engine : Engine} {p : Program} {scope : Nat} {s s₁ s₂ : Store} {bound : BoundTemplate}
    {lead : Text} (isLoop : p.instructions = loopInstructions lead)
    (loaded : Run.load engine p scope .script s = .ok (.loaded bound) s₁)
    (prepared : Run.prepareScope scope s₁ = .ok () s₂) :
    s.Readied scope s₂ ∧ ∀ o, s.objects[scope]? = some o →
      s₂.Has scope textHelperName (.textHelper scope) ∧ s₂.Has scope listHelperName (.listHelper scope) := by
  obtain ⟨first, more, x, spot, -, parsed, isFunction⟩ := parse_loopInstructions isLoop
  exact readied_of_output parsed isFunction (fun isBody => isBody.place) loaded prepared

theorem isFlat_loop {sum : List Addend} {st : Stmt} (h : IsLoop sum st) : Run.IsFlat st := by
  obtain ⟨push, x, source, shown, opened, last, ⟨y, name, shown', key, call, place, -, rfl⟩, rfl⟩ := h
  refine ⟨rfl, fun barred => ?_⟩
  rw [exposedNames, exposedByBlock, exposedByAll, exposedByAll, exposedNames, exposedByBlock, exposedByAll,
    exposedByAll, exposedNames]
  rfl

theorem flat_of_isLoopBody {sum : List Addend} {body : List Stmt} (h : IsLoopBody sum body) :
    (∀ st ∈ body, Run.IsFlat st) ∧ lexicalNames body = [] := by
  obtain ⟨loop, rfl, isLoop⟩ := h
  have flat := isFlat_loop isLoop
  obtain ⟨push, x, source, shown, opened, last, -, rfl⟩ := isLoop
  exact ⟨fun st inside => List.mem_singleton.1 inside ▸ flat, rfl⟩

section

variable {σ : Type} {b : Behaviour σ} {depth : Nat} {holds : σ → Own → Option Cursor → Store → Prop}
  {w : σ} {s : Store} {main outer : Nat} (home : Home)

theorem call_loop (real : Realizes b (.nested (depth + 1)) home.globals holds) {lead : Text} {first : Addend}
    {more : List Addend} (sum : lineAddends (.fields [] [⟨lead, some "x"⟩] []) = some (first, more))
    {kind : Kind} (isMain : IsOutputClosure (IsLoopBody (first :: more)) outer home kind)
    (found : s.kindAt main = some kind) (outside : s.scopes[outer]? = some [])
    (h : holds w ⟨[], [outer]⟩ none s) {a : Nat} {slots : Slots Value} {ts : List Text}
    (lists : b.Lists w "xs" a ts) (array : s.kindAt a = some (.array slots))
    (fits : ∀ t ∈ ts, lead.length + t.length ≤ Text.maxLength) (room : ts.length ≤ Items.arrayLimit)
    (callers : List Frame) :
    ∃ a s', (Engine.nested (depth + 3)).call callers (.ref main) .undefined [] s = .ok (.ref a) s' ∧
      s'.objects[a]? = some (linesObject (ts.map (lead ++ ·))) := by
  obtain ⟨code, _, tail, ⟨st, rfl, isLoop⟩, returns, -⟩ := call_outputFunction depth holds home isMain found
    flat_of_isLoopBody callers
  obtain ⟨push, x, source, shown, opened, last, isPush, rfl⟩ := isLoop
  have running := running_withOutput home real outside h callers
  have there : s.withOutput.kindAt a = some (.array slots) := by
    obtain ⟨o, known, same⟩ := Option.map_eq_some_iff.1 array
    exact Option.map_eq_some_iff.2 ⟨o, getElem?_push_of_some known _, same⟩
  have space : ([] : List Text).length + ts.length ≤ Items.arrayLimit := by
    rw [List.length_nil, Nat.zero_add]
    exact room
  obtain ⟨own, s', w', ran, running'⟩ := perform_loop code real (by decide) rfl lists there plainName_item
    (by decide) (by decide) sum isPush x source shown opened last fits space running
  exact ⟨s.objects.size, s', returns (bind_ok ran) running', running'.output⟩

end

/-- A program that loops over the array with the name `xs` can be loaded. An evaluation yields a line for
each item, as far as the options keep it. -/
theorem load_loop (depth scope : Nat) {p : Program} {lead : Text}
    (isLoop : p.instructions = loopInstructions lead) (s : Store) :
    ∃ bound s₁ s₂, Run.load (.nested (depth + 3)) p scope .script s = .ok (.loaded bound) s₁ ∧
      Run.prepareScope scope s₁ = .ok () s₂ ∧
      ∀ {σ : Type} {b : Behaviour σ} {holds : σ → Own → Option Cursor → Store → Prop} {w : σ} {a : Nat}
        {slots : Slots Value} {ts : List Text},
        Realizes b (.nested (depth + 1)) scope holds → holds w ⟨[], [s.scopes.size]⟩ none s₂ →
        b.Lists w "xs" a ts → s₂.kindAt a = some (.array slots) →
        (∀ t ∈ ts, lead.length + t.length ≤ Text.maxLength) → ts.length ≤ Items.arrayLimit →
        ∀ (active : List Frame) (o : EvaluationOptions),
        ∃ s₃, bound.evaluate (.nested (depth + 3)) active o [] s₁ =
          .ok (.produced (.ofLines o (o.keepLines p.endsWithNewline (ts.map (lead ++ ·))))) s₃ := by
  obtain ⟨first, more, x, spot, sum, parsed, isFunction⟩ := parse_loopInstructions isLoop
  obtain ⟨main, s₁, loaded, scopes, -, kind, found, isMain⟩ := Run.load_output (.nested (depth + 3)) scope s
    parsed isFunction fun isBody => isBody.place
  obtain ⟨s₂, prepared, scopes', -, readied, -⟩ := Run.prepareScope_readied scope s₁
  refine ⟨_, s₁, s₂, loaded, prepared, ?_⟩
  intro σ b holds w a slots ts real h lists array fits room active o
  have outside : s₂.scopes[s.scopes.size]? = some [] := by
    rw [scopes', scopes]
    exact Array.getElem?_push_size
  obtain ⟨a', s₃, called, output⟩ := call_loop ⟨scope, s.nextSerial⟩ real sum isMain (readied.kindAt found)
    outside h lists array fits room active
  exact evaluate_of_call o prepared called output

end LineTemplate
