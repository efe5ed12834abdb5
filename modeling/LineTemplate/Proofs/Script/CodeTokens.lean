import LineTemplate.Proofs.Script.Scanning
import LineTemplate.Template.Code

/-!
The tokens of generated code. Code is cut into chunks, each a token with what stands in front of it; a
chunk that fits what follows it is read as its token, and so a list of chunks is read token by token.
-/

set_option autoImplicit false

namespace LineTemplate.Script

inductive Lexeme where
  | word (t : Text)
  | quoted (t : Text)
  | mark (t : Text)

namespace Lexeme

def code : Lexeme → Text
  | .word t => t
  | .quoted t => t.quoted
  | .mark t => t

def kind : Lexeme → TokenKind
  | .word t => .word t
  | .quoted t => .text t
  | .mark t => .mark t

def breaks : Lexeme → Nat
  | .quoted t => t.quoted.countP CodeUnit.isLineEnd
  | .word _ | .mark _ => 0

end Lexeme

/-- A token with the blanks and comments in front of it, which end this many lines. -/
structure Chunk where
  gap : Text
  breaks : Nat
  lexeme : Lexeme

namespace Chunk

def tight (l : Lexeme) : Chunk := ⟨[], 0, l⟩

def spaced (l : Lexeme) : Chunk := ⟨[CodeUnit.ofChar ' '], 0, l⟩

def code (c : Chunk) : Text := c.gap ++ c.lexeme.code

end Chunk

def spelled (chunks : List Chunk) : Text := chunks.flatMap Chunk.code

@[simp]
theorem spelled_nil : spelled [] = [] := rfl

@[simp]
theorem spelled_cons (c : Chunk) (chunks : List Chunk) :
    spelled (c :: chunks) = c.gap ++ (c.lexeme.code ++ spelled chunks) :=
  List.append_assoc _ _ _

@[simp]
theorem spelled_append (a b : List Chunk) : spelled (a ++ b) = spelled a ++ spelled b :=
  List.flatMap_append

def lineBreaks : List Chunk → Nat
  | [] => 0
  | c :: rest => c.breaks + lineBreaks rest

theorem lineBreaks_append (a b : List Chunk) : lineBreaks (a ++ b) = lineBreaks a + lineBreaks b := by
  induction a with
  | nil => exact (Nat.zero_add _).symm
  | cons c a ih => rw [List.cons_append, lineBreaks, lineBreaks, ih, Nat.add_assoc]

/-- A text that is skipped between tokens and ends this many lines. -/
def Gap (gap : Text) (breaks : Nat) : Prop :=
  ∀ (line : Nat) (broke : Bool) (rest : Text),
    skip .between line broke (gap ++ rest) =
      skip .between (line + breaks) (broke || decide (0 < breaks)) rest

theorem gap_nil : Gap [] 0 := by
  intro line broke rest
  simp

theorem gap_space : Gap [CodeUnit.ofChar ' '] 0 := by
  intro line broke rest
  rw [List.singleton_append, skip_space]
  simp

theorem gap_newline : Gap [0x0A] 1 := by
  intro line broke rest
  rw [List.singleton_append, skip_newline]
  simp

theorem Gap.comment {gap : Text} {breaks : Nat} (h : Gap gap breaks) (t : Text)
    (free : ∀ c ∈ t, c.isLineEnd = false) :
    Gap (gap ++ CodeUnit.ofChar '/' :: CodeUnit.ofChar '/' :: (t ++ [0x0A])) (breaks + 1) := by
  intro line broke rest
  have after := skip_comment (line + breaks) (broke || decide (0 < breaks)) t rest free
  have code : gap ++ CodeUnit.ofChar '/' :: CodeUnit.ofChar '/' :: (t ++ [0x0A]) ++ rest =
      gap ++ (CodeUnit.ofChar '/' :: CodeUnit.ofChar '/' :: (t ++ 0x0A :: rest)) := by simp
  rw [code, h, after]
  simp [Nat.add_assoc]

/-- A chunk is read as its token in front of a text. -/
structure Chunk.Fits (c : Chunk) (rest : Text) : Prop where
  gap : Gap c.gap c.breaks
  solid : ∃ first others, c.lexeme.code = first :: others ∧ Solid first
  scan : scanToken (c.lexeme.code ++ rest) = ⟨c.lexeme.kind, c.lexeme.breaks, rest⟩

/-- Each of some chunks fits those after it. -/
def Fits : List Chunk → Text → Prop
  | [], _ => True
  | c :: chunks, rest => c.Fits (spelled chunks ++ rest) ∧ Fits chunks rest

theorem fits_nil (rest : Text) : Fits [] rest := trivial

theorem fits_cons {c : Chunk} {chunks : List Chunk} {rest : Text}
    (first : c.Fits (spelled chunks ++ rest)) (others : Fits chunks rest) :
    Fits (c :: chunks) rest :=
  ⟨first, others⟩

theorem fits_append (a b : List Chunk) (rest : Text) :
    Fits (a ++ b) rest ↔ Fits a (spelled b ++ rest) ∧ Fits b rest := by
  induction a with
  | nil => simp [Fits]
  | cons c a ih => simp [Fits, spelled_append, ih, and_assoc]

theorem Fits.length_le {chunks : List Chunk} {rest : Text} (h : Fits chunks rest) :
    chunks.length ≤ (spelled chunks).length := by
  induction chunks with
  | nil => simp
  | cons c chunks ih =>
    obtain ⟨first, others, code, -⟩ := h.1.solid
    have := ih h.2
    simp only [spelled_cons, List.length_append, code, List.length_cons]
    omega

theorem fits_word {gap : Text} {breaks : Nat} (t rest : Text) (skipped : Gap gap breaks)
    (word : Word t) (ends : EndsWord rest) : Chunk.Fits ⟨gap, breaks, .word t⟩ rest := by
  refine ⟨skipped, ?_, scanToken_word t rest word ends⟩
  cases t with
  | nil => exact absurd word.starts (by decide)
  | cons c others => exact ⟨c, others, rfl, word.solid⟩

theorem fits_quoted {gap : Text} {breaks : Nat} (t rest : Text) (skipped : Gap gap breaks) :
    Chunk.Fits ⟨gap, breaks, .quoted t⟩ rest :=
  ⟨skipped, ⟨'"', Text.quotedBody t ++ ("\"" : Text), rfl, by decide⟩, scanToken_quoted t rest⟩

theorem fits_loneMark {gap : Text} {breaks : Nat} (c : CodeUnit) (rest : Text)
    (skipped : Gap gap breaks) (lone : c ∈ loneMarks) : Chunk.Fits ⟨gap, breaks, .mark [c]⟩ rest := by
  refine ⟨skipped, ⟨c, [], rfl, ?_⟩, scanToken_loneMark c rest lone⟩
  revert c
  decide

theorem fits_arrow {gap : Text} {breaks : Nat} (rest : Text) (skipped : Gap gap breaks) :
    Chunk.Fits ⟨gap, breaks, .mark "=>"⟩ rest :=
  ⟨skipped, ⟨'=', [CodeUnit.ofChar '>'], rfl, by decide⟩, scanToken_arrow rest⟩

theorem fits_spacedMark {gap : Text} {breaks : Nat} (c : CodeUnit) (rest : Text)
    (skipped : Gap gap breaks) (h : c = '=' ∨ c = '+') :
    Chunk.Fits ⟨gap, breaks, .mark [c]⟩ (CodeUnit.ofChar ' ' :: rest) := by
  refine ⟨skipped, ⟨c, [], rfl, ?_⟩, scanToken_spacedMark c rest h⟩
  rcases h with rfl | rfl <;> decide

theorem fits_dot {gap : Text} {breaks : Nat} (rest : Text) (skipped : Gap gap breaks) :
    Chunk.Fits ⟨gap, breaks, .mark "."⟩ (CodeUnit.ofChar 'p' :: rest) :=
  ⟨skipped, ⟨'.', [], rfl, by decide⟩, scanToken_dot 'p' rest rfl⟩

/-- Tokens that some chunks are read as, from a line on. If the code is lined, that is, no text that is quoted
in it ends a line, then the line of each token is known. -/
def Read (lined : Prop) : Nat → List Chunk → List Token → Prop
  | _, [], tokens => tokens = []
  | line, c :: chunks, tokens => ∃ t others, tokens = t :: others ∧ t.kind = c.lexeme.kind ∧
      (lined → t.spot.line = line + c.breaks) ∧ t.afterBreak = decide (0 < c.breaks) ∧
      Read lined (line + c.breaks) chunks others

section

variable {lined : Prop}

theorem read_append {line : Nat} {a b : List Chunk} {tokens : List Token}
    (h : Read lined line (a ++ b) tokens) :
    ∃ first others, tokens = first ++ others ∧ Read lined line a first ∧
      Read lined (line + lineBreaks a) b others := by
  induction a generalizing line tokens with
  | nil => exact ⟨[], tokens, rfl, rfl, h⟩
  | cons c a ih =>
    obtain ⟨t, tokens, rfl, kind, spot, broke, read⟩ := h
    obtain ⟨first, others, rfl, left, right⟩ := ih read
    refine ⟨t :: first, others, rfl, ⟨t, first, rfl, kind, spot, broke, left⟩, ?_⟩
    rw [Nat.add_assoc] at right
    exact right

theorem read_length {line : Nat} {chunks : List Chunk} {tokens : List Token}
    (h : Read lined line chunks tokens) : tokens.length = chunks.length := by
  induction chunks generalizing line tokens with
  | nil =>
    cases h
    rfl
  | cons c chunks ih =>
    obtain ⟨t, others, rfl, -, -, -, read⟩ := h
    rw [List.length_cons, List.length_cons, ih read]

theorem lexFrom_chunk (fuel n line : Nat) (c : Chunk) (rest : Text) (h : c.Fits rest) :
    ∃ t, lexFrom (fuel + 1) [] ⟨n, line⟩ (c.code ++ rest) =
        t :: lexFrom fuel [] ⟨n + 1, line + c.breaks + c.lexeme.breaks⟩ rest ∧
      t.kind = c.lexeme.kind ∧ t.spot.line = line + c.breaks ∧
      t.afterBreak = decide (0 < c.breaks) := by
  obtain ⟨first, others, code, solid⟩ := h.solid
  have skipped : skip .between line false (c.code ++ rest) =
      ⟨c.lexeme.code ++ rest, line + c.breaks, decide (0 < c.breaks), none⟩ := by
    rw [Chunk.code, List.append_assoc, h.gap, code, List.cons_append, skip_solid _ _ _ _ solid]
    simp
  have scanned : scanNested [] (c.lexeme.code ++ rest) =
      (⟨c.lexeme.kind, c.lexeme.breaks, rest⟩, []) := by
    have outside (t : Text) : scanNested [] t = scanNested.reopened (scanToken t) [] := by
      cases t <;> rfl
    rw [outside, h.scan, scanNested.reopened]
    cases c.lexeme <;> rfl
  refine ⟨⟨c.lexeme.kind, ⟨n, line + c.breaks⟩, decide (0 < c.breaks), c.lexeme.code ++ rest, rest⟩, ?_,
    rfl, rfl, rfl⟩
  simp only [lexFrom, skipped, scanned]
  cases c.lexeme <;> rfl

theorem lexFrom_chunks (fuel n line actual : Nat) (chunks : List Chunk) (rest : Text)
    (h : Fits chunks rest) (unbroken : lined → ∀ c ∈ chunks, c.lexeme.breaks = 0)
    (same : lined → actual = line) :
    ∃ tokens last, lexFrom (fuel + chunks.length) [] ⟨n, actual⟩ (spelled chunks ++ rest) =
        tokens ++ lexFrom fuel [] ⟨n + chunks.length, last⟩ rest ∧ Read lined line chunks tokens := by
  induction chunks generalizing n line actual with
  | nil => exact ⟨[], actual, rfl, rfl⟩
  | cons c chunks ih =>
    obtain ⟨t, first, kind, spot, afterBreak⟩ := lexFrom_chunk (fuel + chunks.length) n actual c
      (spelled chunks ++ rest) h.1
    have next (known : lined) : actual + c.breaks + c.lexeme.breaks = line + c.breaks := by
      rw [unbroken known c List.mem_cons_self, same known, Nat.add_zero]
    obtain ⟨tokens, last, others, read⟩ := ih (n + 1) (line + c.breaks) _ h.2
      (fun known d inside => unbroken known d (List.mem_cons_of_mem c inside)) next
    refine ⟨t :: tokens, last, ?_, t, tokens, rfl, kind, fun known => same known ▸ spot, afterBreak, read⟩
    have code : spelled (c :: chunks) ++ rest = c.code ++ (spelled chunks ++ rest) := by
      simp [Chunk.code]
    rw [code, List.length_cons, ← Nat.add_assoc, first, others]
    simp [Nat.add_assoc, Nat.add_comm 1]

theorem lexFrom_nil (fuel : Nat) (spot : Spot) :
    lexFrom fuel [] spot [] = [⟨.finish, spot, false, [], []⟩] := by
  cases fuel <;> rfl

theorem lex_spelled (chunks : List Chunk) (h : Fits chunks [])
    (unbroken : lined → ∀ c ∈ chunks, c.lexeme.breaks = 0) :
    ∃ tokens finish, lex (spelled chunks) = tokens ++ [finish] ∧ Read lined 1 chunks tokens ∧
      finish.kind = .finish := by
  have enough : (spelled chunks).length + 1 =
      (spelled chunks).length + 1 - chunks.length + chunks.length := by
    have := h.length_le
    omega
  obtain ⟨tokens, last, read, all⟩ := lexFrom_chunks ((spelled chunks).length + 1 - chunks.length) 1 1 1
    chunks [] h unbroken fun _ => rfl
  rw [List.append_nil, lexFrom_nil] at read
  exact ⟨tokens, _, by rw [lex, enough, read], all, rfl⟩

end

end LineTemplate.Script
