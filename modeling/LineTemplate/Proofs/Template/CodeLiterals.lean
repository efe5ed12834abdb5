import LineTemplate.Proofs.Script.Parsing
import LineTemplate.Proofs.Script.TextLiterals
import LineTemplate.Proofs.Template.ScriptLines
import LineTemplate.Script.Interpreter

/-!
Literals in generated code. The code of an instruction is made of parts: code, and texts that are written as
literals. Such a literal is inert: wherever it stands between two tokens and whatever follows it, it is read as
one token, and evaluates to the text that was written. So a text that is written as a literal never changes how
the code around it is read. Only the lines behind it may be counted differently: quoting copies the Unicode
separators, and each of them ends a line.
-/

set_option autoImplicit false

namespace LineTemplate

open Script

inductive CodePart where
  /-- Code as it is: marks, names of helpers, and what a template gives as code. -/
  | code (t : Text)
  | literal (t : Text)

namespace CodePart

def text : CodePart → Text
  | .code t => t
  | .literal t => t.quoted

def join (parts : List CodePart) : Text := parts.flatMap text

theorem join_cons (part : CodePart) (parts : List CodePart) :
    join (part :: parts) = part.text ++ join parts :=
  List.flatMap_cons

theorem join_append (a b : List CodePart) : join (a ++ b) = join a ++ join b :=
  List.flatMap_append

end CodePart

namespace Addend

def parts : Addend → List CodePart
  | .text t => [.literal t]
  | .value e =>
    [.code (textHelperName ++ ("(() => (" : Text) ++ e ++ ("), " : Text)), .literal e, .code ")"]

theorem join_parts (a : Addend) : CodePart.join a.parts = a.code := by
  cases a with
  | text t => exact List.append_nil _
  | value e => simp [parts, CodePart.join, CodePart.text, code]

theorem join_more (more : List Addend) :
    CodePart.join (more.flatMap fun a => .code " + " :: a.parts) =
      more.flatMap fun a => (" + " : Text) ++ a.code := by
  induction more with
  | nil => rfl
  | cons a more ih =>
    rw [List.flatMap_cons, CodePart.join_append, CodePart.join_cons, join_parts, ih, List.flatMap_cons]
    rfl

end Addend

namespace Instruction

def pushParts (first : Addend) (more : List Addend) : List CodePart :=
  [.code (outputName ++ (".push(" : Text))] ++ first.parts ++
    more.flatMap (fun a => .code " + " :: a.parts) ++ [.code ");"]

def parts : Instruction → List CodePart
  | .literal t => pushParts (.text t) []
  | .fields indent segments trailing =>
    let addends := fieldAddends indent segments trailing
    pushParts (addends.headD (.text [])) addends.tail
  | .list e indent =>
    [.code (listHelperName ++ ("(" : Text) ++ outputName ++ (", () => (" : Text) ++ e ++ ("), " : Text)),
      .literal indent, .code ", ", .literal e, .code ");"]
  | .statement code => [.code code]
  | .marker boundary name => [.code (Instruction.marker boundary name).code]

theorem join_pushParts (first : Addend) (more : List Addend) :
    CodePart.join (pushParts first more) =
      pushCode (Text.join " + " ((first :: more).map Addend.code)) := by
  rw [pushParts, CodePart.join_append, CodePart.join_append, CodePart.join_append, first.join_parts,
    Addend.join_more, Addend.join_code]
  simp [CodePart.join, CodePart.text, pushCode]

theorem join_parts (i : Instruction) : CodePart.join i.parts = i.code := by
  cases i with
  | literal t => exact (join_pushParts (.text t) []).trans (code_of_lineAddends rfl).symm
  | fields indent segments trailing =>
    have line := lineAddends_fields indent segments trailing
    exact (join_pushParts _ _).trans (code_of_lineAddends line).symm
  | list e indent => simp [parts, CodePart.join, CodePart.text, code]
  | statement code => exact List.append_nil _
  | marker boundary name => exact List.append_nil _

example : (Instruction.fields [] [⟨"say \"hi\" \\ ", some "x"⟩] []).code =
    CodePart.join [.code "__text.push(", .literal "say \"hi\" \\ ", .code " + __str(() => (x), ",
      .literal "x", .code "));"] := by
  decide

end Instruction

namespace Script

theorem textLiteral_quoted_iff (t rest value others : Text) :
    TextLiteral (t.quoted ++ rest) value others ↔ value = t ∧ others = rest := by
  rw [← scanToken_text_iff, scanToken_quoted]
  constructor
  · rintro ⟨lines, same⟩
    cases same
    exact ⟨rfl, rfl⟩
  · rintro ⟨rfl, rfl⟩
    exact ⟨_, rfl⟩

theorem skip_spaces (n line : ℕ) (broke : Bool) (rest : Text) :
    skip .between line broke (Text.spaces n ++ rest) = skip .between line broke rest := by
  induction n with
  | zero => rfl
  | succ n ih => exact (skip_space line broke _).trans ih

theorem scanNested_quoted (depths : List ℕ) (t rest : Text) :
    scanNested depths (t.quoted ++ rest) =
      (⟨.text t, t.quoted.countP CodeUnit.isLineEnd, rest⟩, depths) := by
  have read := scanToken_quoted t rest
  obtain ⟨body, quote⟩ : ∃ body, t.quoted ++ rest = CodeUnit.ofChar '"' :: body := ⟨_, rfl⟩
  rw [quote] at read ⊢
  -- A quote is no brace, so the open braces stay as they are.
  have outside : scanNested depths (CodeUnit.ofChar '"' :: body) =
      scanNested.reopened (scanToken (CodeUnit.ofChar '"' :: body)) depths := by
    cases depths with
    | nil => rfl
    | cons depth outer => rfl
  rw [outside, read]
  rfl

theorem lexFrom_quoted (fuel : ℕ) (depths : List ℕ) (spot : Spot) (blanks : ℕ) (t rest : Text) :
    lexFrom (fuel + 1) depths spot (Text.spaces blanks ++ (t.quoted ++ rest)) =
      ⟨.text t, spot, false, t.quoted ++ rest, rest⟩ ::
        lexFrom fuel depths ⟨spot.token + 1, spot.line + t.quoted.countP CodeUnit.isLineEnd⟩ rest := by
  have skipped : skip .between spot.line false (Text.spaces blanks ++ (t.quoted ++ rest)) =
      ⟨t.quoted ++ rest, spot.line, false, none⟩ :=
    (skip_spaces blanks _ _ _).trans (skip_solid _ _ '"' _ (by decide))
  rw [lexFrom]
  simp only [skipped, scanNested_quoted]

theorem exists_lexFrom (fuel : ℕ) (depths : List ℕ) (spot : Spot) (t : Text) :
    ∃ first others, lexFrom fuel depths spot t = first :: others := by
  cases fuel with
  | zero => exact ⟨_, _, rfl⟩
  | succ fuel =>
    rw [lexFrom]
    dsimp only
    split
    · exact ⟨_, _, rfl⟩
    · split <;> exact ⟨_, _, rfl⟩

theorem primary_text {w : Token} {t : Text} (found : w.kind = .text t) (n : ℕ) (next : Token)
    (others : List Token) (last : Token) (scopes : List (List (Text × NameKind))) (inside : Bool) :
    primary (n + 1) ⟨w :: next :: others, last, scopes, inside⟩ =
      .ok (.literal (.text t) w.spot, ⟨next :: others, w, scopes, inside⟩) := by
  obtain ⟨_, spot, broke, here, after⟩ := w
  cases found
  rfl

theorem evaluate_text (engine : Engine) (p : Place) (t : Text) (spot : Spot) :
    Run.evaluate engine p (.literal (.text t) spot) = pure (.text t) := by
  rw [Run.evaluate]
  rfl

/-- Code that is a literal for a text, whatever follows it. -/
structure Inert (code t : Text) : Prop where
  /-- By the grammar it is the only literal at its place. -/
  literal (rest value others : Text) :
    TextLiteral (code ++ rest) value others ↔ value = t ∧ others = rest
  /-- Its quotes are double ones. -/
  opens : code.head? = some '"'
  noNewline : 0x0A ∉ code ∧ 0x0D ∉ code
  /-- In any nest of braces it is one token and leaves the nest as it is; that token is an expression with the
  text as its value. The separators in it end lines. -/
  token (fuel : ℕ) (depths : List ℕ) (spot : Spot) (blanks : ℕ) (rest : Text) :
    ∃ w next others,
      lexFrom (fuel + 1) depths spot (Text.spaces blanks ++ (code ++ rest)) = w :: next :: others ∧
      lexFrom fuel depths ⟨spot.token + 1, spot.line + code.countP CodeUnit.isLineEnd⟩ rest =
        next :: others ∧
      w.kind = .text t ∧ w.spot = spot ∧
      ∀ n last scopes inside engine p, ∃ e,
        primary (n + 1) ⟨w :: next :: others, last, scopes, inside⟩ =
          .ok (e, ⟨next :: others, w, scopes, inside⟩) ∧
        Run.evaluate engine p e = pure (.text t)

end Script

/-- The code of every instruction is made of code and of literals; any text can be such a literal, and each
literal is inert. -/
theorem literals_inert :
    (∀ i : Instruction, i.code = CodePart.join i.parts) ∧
      ∀ t : Text, .literal t ∈ (Instruction.literal t).parts ∧ Inert (CodePart.literal t).text t := by
  refine ⟨fun i => i.join_parts.symm, fun t => ⟨?_, ?_, rfl, ?_, ?_⟩⟩
  · exact List.mem_cons_of_mem _ List.mem_cons_self
  · exact textLiteral_quoted_iff t
  · constructor
    · exact fun inside => absurd (Text.le_of_mem_quoted t _ inside) (by decide)
    · exact fun inside => absurd (Text.le_of_mem_quoted t _ inside) (by decide)
  · intro fuel depths spot blanks rest
    obtain ⟨next, others, more⟩ := exists_lexFrom fuel depths
      ⟨spot.token + 1, spot.line + t.quoted.countP CodeUnit.isLineEnd⟩ rest
    have read := lexFrom_quoted fuel depths spot blanks t rest
    rw [more] at read
    refine ⟨_, next, others, read, more, rfl, rfl, fun n last scopes inside engine p => ?_⟩
    exact ⟨_, primary_text rfl n next others last scopes inside, evaluate_text engine p t spot⟩

end LineTemplate
