import LineTemplate.Proofs.Script.Placing

/-!
The code of a loop in which one line is added to the output at each turn. It is read and parsed chunk by
chunk, like the code of a program without statements.
-/

set_option autoImplicit false

namespace LineTemplate.Script

open Parse

def loopHead : Text := "for (const x of xs) \x7b"

def loopFoot : Text := "\x7d"

def loopHeadChunks : List Chunk :=
  [⟨[0x0A], 1, .word "for"⟩, .spaced (.mark "("), .tight (.word "const"), .spaced (.word "x"),
    .spaced (.word "of"), .spaced (.word "xs"), .tight (.mark ")"), .spaced (.mark "\x7b")]

def loopChunks (first : Addend) (more : List Addend) : List Chunk :=
  loopHeadChunks ++ (pushChunks [0x0A] 1 first more ++ ⟨[0x0A], 1, .mark "\x7d"⟩ :: footerChunks [0x0A] 1)

theorem fits_loopChunks {first : Addend} {more : List Addend}
    (legible : ∀ a ∈ first :: more, Addend.Legible a) : Fits (loopChunks first more) [] := by
  have head (rest : Text) : Fits loopHeadChunks rest := by
    refine fits_cons (fits_word "for" _ gap_newline (by decide) ?_) ?_
    · exact endsWord_of_ascii ' ' _ (by decide) (by decide)
    refine fits_cons (fits_loneMark '(' _ gap_space (by decide)) ?_
    refine fits_cons (fits_word "const" _ gap_nil (by decide) ?_) ?_
    · exact endsWord_of_ascii ' ' _ (by decide) (by decide)
    refine fits_cons (fits_word "x" _ gap_space (by decide) ?_) ?_
    · exact endsWord_of_ascii ' ' _ (by decide) (by decide)
    refine fits_cons (fits_word "of" _ gap_space (by decide) ?_) ?_
    · exact endsWord_of_ascii ' ' _ (by decide) (by decide)
    refine fits_cons (fits_word "xs" _ gap_space (by decide) ?_) ?_
    · exact endsWord_of_ascii ')' _ (by decide) (by decide)
    refine fits_cons (fits_loneMark ')' _ gap_nil (by decide)) ?_
    exact fits_cons (fits_loneMark '\x7b' _ gap_space (by decide)) (fits_nil rest)
  refine (fits_append _ _ _).2 ⟨head _, (fits_append _ _ _).2 ⟨?_, ?_⟩⟩
  · exact fits_pushChunks _ _ _ _ _ gap_newline legible
  · refine fits_cons (fits_loneMark '\x7d' _ gap_newline (by decide)) ?_
    exact fits_footerChunks _ _ gap_newline

theorem spelled_loopChunks (first : Addend) (more : List Addend) :
    spelled (headerChunks ++ loopChunks first more) =
      Text.join "\n" [codeHeader, loopHead,
        Instruction.pushCode (Text.join " + " ((first :: more).map Addend.code)), loopFoot, codeFooter] := by
  rw [loopChunks, spelled_append, spelled_append, spelled_append, spelled_pushChunks]
  simp only [headerChunks, loopHeadChunks, footerChunks, spelled_cons, spelled_nil,
    Text.join_cons_cons, Text.join_singleton, List.append_assoc, List.append_nil]
  rfl

section

variable {n : Nat} {t : Token} {rest : List Token} {last : Token} {scopes : List (List (Text × NameKind))}

/-- The tree of a loop that adds the sum of some addends to the output at each turn. Its lines do not
matter. -/
def IsLoop (sum : List Addend) (st : Stmt) : Prop :=
  ∃ push x source shown opened last, IsPush False 3 sum push ∧
    st = .forOf false (.name "x" x) (.name "xs" source shown) [.block [push]] opened last

theorem statement_block {brace closing : Token} {tokens : List Token} {st : Stmt} {before : Token}
    (opens : brace.kind = .mark "\x7b") (closes : closing.kind = .mark "\x7d")
    (starts : ∃ w others, tokens = w :: others ∧ w.kind = .word outputName)
    (h : listedStatement (n + 1) ⟨tokens ++ closing :: t :: rest, brace, [] :: scopes, true⟩ =
      .ok ([st], ⟨closing :: t :: rest, before, [] :: scopes, true⟩)) :
    statement (n + 4) ⟨brace :: (tokens ++ closing :: t :: rest), last, scopes, true⟩ =
      .ok ([.block [st]], ⟨t :: rest, closing, scopes, true⟩) := by
  obtain ⟨w, others, rfl, found⟩ := starts
  have ended : (closing.isMark "\x7d" || closing.isFinish) = true := by
    rw [isMark_of_mark closes]
    rfl
  have body : statements (n + 2) ⟨w :: (others ++ closing :: t :: rest), brace, [] :: scopes, true⟩ =
      .ok ([st], ⟨closing :: t :: rest, before, [] :: scopes, true⟩) :=
    statements_cons (not_over_of_word found) h (statements_over ended)
  obtain ⟨_, s₂, b₂, h₂, a₂⟩ := brace
  obtain ⟨_, s₃, b₃, h₃, a₃⟩ := closing
  cases opens
  cases closes
  have block : braced (n + 3) ⟨⟨.mark "\x7b", s₂, b₂, h₂, a₂⟩ :: w ::
      (others ++ ⟨.mark "\x7d", s₃, b₃, h₃, a₃⟩ :: t :: rest), last, scopes, true⟩ =
      .ok ([st], ⟨t :: rest, ⟨.mark "\x7d", s₃, b₃, h₃, a₃⟩, scopes, true⟩) := by
    change Except.bind (statements (n + 2) _) _ = _
    rw [body]
    rfl
  change Except.bind (braced (n + 3) _) _ = _
  rw [List.cons_append, block]
  rfl

theorem forRest_loop {w x of source right brace left before : Token} {body : List Token} {st : List Stmt}
    (declares : w.kind = .word "const") (names : x.kind = .word "x") (reads : of.kind = .word "of")
    (found : source.kind = .word "xs") (closes : right.kind = .mark ")") (opens : brace.kind = .mark "\x7b")
    (h : statement (n + 20) ⟨brace :: body, right, [("x", .lexical)] :: scopes, true⟩ =
      .ok (st, ⟨t :: rest, before, [("x", .lexical)] :: scopes, true⟩)) :
    forRest (n + 22) ⟨w :: x :: of :: source :: right :: brace :: body, left, [] :: scopes, true⟩ =
      .ok (.forOf false (.name "x" x.spot) (.name "xs" source.spot source.spot) st source.spot x.spot,
        ⟨t :: rest, before, [("x", .lexical)] :: scopes, true⟩) := by
  obtain ⟨_, s₁, b₁, h₁, a₁⟩ := w
  obtain ⟨_, s₂, b₂, h₂, a₂⟩ := x
  obtain ⟨_, s₃, b₃, h₃, a₃⟩ := of
  obtain ⟨_, s₄, b₄, h₄, a₄⟩ := source
  obtain ⟨_, s₅, b₅, h₅, a₅⟩ := right
  obtain ⟨_, s₆, b₆, h₆, a₆⟩ := brace
  cases declares
  cases names
  cases reads
  cases found
  cases closes
  cases opens
  have governs : governed (n + 21) ⟨⟨.mark "\x7b", s₆, b₆, h₆, a₆⟩ :: body, ⟨.mark ")", s₅, b₅, h₅, a₅⟩,
      [("x", .lexical)] :: scopes, true⟩ =
      .ok (st, ⟨t :: rest, before, [("x", .lexical)] :: scopes, true⟩) := h
  change Except.bind (governed (n + 21) ⟨⟨.mark "\x7b", s₆, b₆, h₆, a₆⟩ :: body,
    ⟨.mark ")", s₅, b₅, h₅, a₅⟩, [("x", .lexical)] :: scopes, true⟩) _ = _
  rw [governs]
  rfl

theorem listedStatement_loop {w left : Token} {tokens : List Token} {loop : Stmt} {before : Token}
    {names : List (Text × NameKind)} (found : w.kind = .word "for") (opens : left.kind = .mark "(")
    (h : forRest (n + 1) ⟨tokens, left, [] :: scopes, true⟩ =
      .ok (loop, ⟨t :: rest, before, names :: scopes, true⟩)) (more : tokens ≠ []) :
    listedStatement (n + 3) ⟨w :: left :: tokens, last, scopes, true⟩ =
      .ok ([loop], ⟨t :: rest, before, scopes, true⟩) := by
  obtain ⟨_, s₁, b₁, h₁, a₁⟩ := w
  obtain ⟨_, s₂, b₂, h₂, a₂⟩ := left
  obtain ⟨next, others, rfl⟩ := List.exists_cons_of_ne_nil more
  cases found
  cases opens
  refine listedStatement_of_statement rfl rfl rfl rfl ?_
  change Except.bind (forRest (n + 1) _) _ = _
  rw [h]
  rfl

end

def IsLoopBody (sum : List Addend) (body : List Stmt) : Prop := ∃ loop, body = [loop] ∧ IsLoop sum loop

theorem finishes_loopChunks {first : Addend} {more : List Addend}
    (legible : ∀ a ∈ first :: more, Addend.Legible a) :
    Finishes False (IsLoopBody (first :: more)) (loopChunks first more) where
  fits := fits_loopChunks legible
  unbroken known := known.elim
  completes {n tokens t} read ends enough last := by
    obtain ⟨_, _, rfl, head, tail⟩ := read_append read
    obtain ⟨push, _, rfl, pushes, behind⟩ := read_append tail
    have count : more.length ≤ push.length := by
      rw [read_length pushes]
      exact length_le_pushChunks _ _ first more
    -- The tokens of the head of the loop, from "for" to the brace.
    obtain ⟨w, _, rfl, found, -, -, head⟩ := head
    obtain ⟨left, _, rfl, opens, -, -, head⟩ := head
    obtain ⟨declares, _, rfl, const, -, -, head⟩ := head
    obtain ⟨x, _, rfl, name, -, -, head⟩ := head
    obtain ⟨of, _, rfl, reads, -, -, head⟩ := head
    obtain ⟨source, _, rfl, sequence, -, -, head⟩ := head
    obtain ⟨right, _, rfl, closes, -, -, head⟩ := head
    obtain ⟨brace, _, rfl, enters, -, -, rfl⟩ := head
    obtain ⟨closing, footer, rfl, leaves, -, -, ending⟩ := behind
    obtain ⟨k, rfl⟩ : ∃ k, n = k + more.length + 48 := by
      refine ⟨n - more.length - 48, ?_⟩
      simp only [List.length_cons, List.length_append] at enough
      omega
    -- The parser looks at the token behind the loop, which is the first of the footer.
    obtain ⟨next, others, follows⟩ : ∃ next others, footer ++ [t] = next :: others :=
      List.exists_cons_of_ne_nil (by simp)
    obtain ⟨st, before, parsed, isPush⟩ : ∃ st before, listedStatement (k + more.length + 40)
        ⟨push ++ closing :: next :: others, brace, [[], [("x", .lexical)], [(outputName, .lexical)], []],
          true⟩ = .ok ([st], ⟨closing :: next :: others, before,
            [[], [("x", .lexical)], [(outputName, .lexical)], []], true⟩) ∧ IsPush False 3 (first :: more) st :=
      listedStatement_push pushes legible
    have starts : ∃ w others, push = w :: others ∧ w.kind = .word outputName := by
      obtain ⟨w, others, rfl, found, -⟩ := pushes
      exact ⟨w, others, rfl, found⟩
    obtain ⟨loop, parsed, isLoop⟩ : ∃ loop, listedStatement (k + more.length + 47)
        ⟨w :: left :: declares :: x :: of :: source :: right :: brace :: (push ++ closing :: next :: others),
          last, [[(outputName, .lexical)], []], true⟩ =
        .ok ([loop], ⟨next :: others, closing, [[(outputName, .lexical)], []], true⟩) ∧
          IsLoop (first :: more) loop :=
      ⟨_, listedStatement_loop found opens (forRest_loop const name reads sequence closes enters
        (statement_block enters leaves starts parsed)) (List.cons_ne_nil _ _), st, _, _, _, _, _, isPush, rfl⟩
    obtain ⟨last', spot, shown, place, brace', right', returns, closes'⟩ :
        ∃ last' spot shown place brace' right', statements (k + more.length + 47) ⟨footer ++ [t], closing,
            [[(outputName, .lexical)], []], true⟩ =
          .ok ([.return (.name outputName spot shown) place], ⟨[brace', right', t], last',
            [[(outputName, .lexical)], []], true⟩) ∧
          brace'.kind = .mark "\x7d" ∧ right'.kind = .mark ")" := statements_footer ending
    refine ⟨[loop], last', spot, shown, place, brace', right', ?_, ⟨loop, rfl, isLoop⟩, closes'⟩
    have whole : [w, left, declares, x, of, source, right, brace] ++ (push ++ closing :: footer) ++ [t] =
        w :: left :: declares :: x :: of :: source :: right :: brace ::
          (push ++ closing :: next :: others) := by
      simp [← follows]
    rw [follows] at returns
    rw [whole]
    exact statements_cons (not_over_of_word found) parsed returns
  noArrow {tokens t} read ends := by
    obtain ⟨head, _, rfl, first, tail⟩ := read_append read
    obtain ⟨push, _, rfl, pushes, behind⟩ := read_append tail
    obtain ⟨closing, footer, rfl, leaves, -, -, ending⟩ := behind
    rw [List.append_assoc, closesBeforeArrow_level first (rfl : level 0 loopHeadChunks = some 0),
      List.append_assoc, closesBeforeArrow_level pushes (level_pushChunks 0 _ _ _ _), List.cons_append,
      closesBeforeArrow_other (isMark_of_mark leaves _) (isMark_of_mark leaves _)]
    exact closesBeforeArrow_footer ending ends

theorem IsLoopBody.place {sum : List Addend} {body : List Stmt} (h : IsLoopBody sum body) (s : Surroundings)
    (p : Progress) : IsLoopBody sum (placeBlock s body p).1 := by
  obtain ⟨_, rfl, push, x, source, shown, opened, last, isPush, rfl⟩ := h
  obtain ⟨inner, q, shown', opened', settled⟩ : ∃ inner q shown' opened', (placeBlock s [.forOf false
      (.name "x" x) (.name "xs" source shown) [.block [push]] opened last] p).1 =
      [.forOf false (.name "x" x) (.name "xs" source shown') [.block [(Stmt.place inner push q).1]] opened'
        last] := ⟨_, _, _, _, rfl⟩
  rw [settled]
  exact ⟨_, rfl, _, x, source, shown', opened', last, isPush.place inner q, rfl⟩

/-- The code of a loop that adds the sum of some addends at each turn is parsed to a function with this
loop. -/
theorem parse_loop {first : Addend} {more : List Addend} (legible : ∀ a ∈ first :: more, Addend.Legible a)
    {code : Text} (spells : code = Text.join "\n" [codeHeader, loopHead,
      Instruction.pushCode (Text.join " + " ((first :: more).map Addend.code)), loopFoot, codeFooter]) :
    ∃ x spot, parse code = .ok [.expr x spot] ∧ IsOutputFunction (IsLoopBody (first :: more)) x :=
  parse_output (finishes_loopChunks legible) ((spelled_loopChunks first more).trans spells.symm)

end LineTemplate.Script
