import LineTemplate.Proofs.Script.CodeChunks
import LineTemplate.Proofs.Template.ScriptLines
import LineTemplate.Script.Parser

/-!
The tree that generated code is parsed to. Operands, sums and statements are parsed one after the
other; the trees are known up to the places that no run depends on.
-/

set_option autoImplicit false

namespace LineTemplate.Script

open Parse

section

variable {n : Nat} {e : Text} {x : Expr} {t : Token} {rest : List Token} {last : Token}
  {scopes : List (List (Text × NameKind))} {inside : Bool} {lined : Prop}

def Closing (t : Token) : Prop :=
  t.kind = .mark ")" ∨ t.kind = .mark "," ∨ t.kind = .mark ";" ∨ t.kind = .finish

theorem isWord_of_isName {w : Token} {word : Text} (found : w.kind = .word e) (name : isName e = true)
    (reserved : isName word = false) : w.isWord word = false := by
  have other : e ≠ word := by
    rintro rfl
    rw [name] at reserved
    cases reserved
  rw [Token.isWord, found]
  simpa using other

theorem isMark_of_word {w : Token} (found : w.kind = .word e) (symbol : Text) :
    w.isMark symbol = false := by rw [Token.isMark, found]

theorem isMark_of_text {w : Token} (found : w.kind = .text e) (symbol : Text) :
    w.isMark symbol = false := by rw [Token.isMark, found]

theorem isMark_of_mark {w : Token} {mark : Text} (found : w.kind = .mark mark) (symbol : Text) :
    w.isMark symbol = (mark == symbol) := by rw [Token.isMark, found]

theorem isName_outputName : isName outputName = true := by decide

theorem isName_textHelperName : isName textHelperName = true := by decide

theorem isName_listHelperName : isName listHelperName = true := by decide

theorem conditional_of_operation {s : ParseState} (closing : Closing t)
    (h : operation (n + 1) 0 s = .ok (x, ⟨t :: rest, last, scopes, inside⟩)) :
    conditional (n + 3) s = .ok (x, ⟨t :: rest, last, scopes, inside⟩) := by
  obtain ⟨kind, spot, broke, here, after⟩ := t
  change Except.bind (Except.bind (operation (n + 1) 0 s) _) _ = _
  rw [h]
  rcases closing with found | found | found | found <;> cases found <;> rfl

theorem assignment_of_word {w next before : Token} {others : List Token} (found : w.kind = .word e)
    (closing : Closing t) (noArrow : next.isMark "=>" = false)
    (h : operation (n + 1) 0 ⟨w :: next :: others, before, scopes, inside⟩ =
      .ok (x, ⟨t :: rest, last, scopes, inside⟩)) :
    assignment (n + 4) ⟨w :: next :: others, before, scopes, inside⟩ =
      .ok (x, ⟨t :: rest, last, scopes, inside⟩) := by
  have value := conditional_of_operation closing h
  obtain ⟨kind, spot, broke, here, after⟩ := w
  obtain ⟨kind', spot', broke', here', after'⟩ := t
  cases found
  rw [assignment]
  change (if (isName e && next.isMark "=>" && !next.afterBreak) = true then _ else _ : Parse Expr) _ = _
  rw [if_neg (by simp [noArrow])]
  change Except.bind (conditional (n + 3) _) _ = _
  rw [value]
  rcases closing with found | found | found | found <;> cases found <;> rfl

theorem assignment_of_text {w before : Token} {others : List Token} (found : w.kind = .text e)
    (closing : Closing t)
    (h : operation (n + 1) 0 ⟨w :: others, before, scopes, inside⟩ =
      .ok (x, ⟨t :: rest, last, scopes, inside⟩)) :
    assignment (n + 4) ⟨w :: others, before, scopes, inside⟩ =
      .ok (x, ⟨t :: rest, last, scopes, inside⟩) := by
  have value := conditional_of_operation closing h
  obtain ⟨kind, spot, broke, here, after⟩ := w
  obtain ⟨kind', spot', broke', here', after'⟩ := t
  cases found
  change Except.bind (conditional (n + 3) _) _ = _
  rw [value]
  rcases closing with found | found | found | found <;> cases found <;> rfl

def Following (t : Token) : Prop := Closing t ∨ t.kind = .mark "+"

theorem called_of_primary {s : ParseState} (following : Following t)
    (h : primary (n + 1) s = .ok (x, ⟨t :: rest, last, scopes, inside⟩)) :
    called (n + 2) s = .ok (x, ⟨t :: rest, last, scopes, inside⟩) := by
  obtain ⟨kind, spot, broke, here, after⟩ := t
  change Except.bind (primary (n + 1) s) _ = _
  rw [h]
  rcases following with (found | found | found | found) | found <;> cases found <;> rfl

theorem operand_of_word {w before : Token} {others : List Token} (found : w.kind = .word e)
    (unary : w.isWord "typeof" = false) (following : Following t)
    (h : called (n + 1) ⟨w :: others, before, scopes, inside⟩ =
      .ok (x, ⟨t :: rest, last, scopes, inside⟩)) :
    operand (n + 2) ⟨w :: others, before, scopes, inside⟩ =
      .ok (x, ⟨t :: rest, last, scopes, inside⟩) := by
  obtain ⟨kind, spot, broke, here, after⟩ := w
  obtain ⟨kind', spot', broke', here', after'⟩ := t
  cases found
  rw [operand]
  change (if Token.isWord _ _ = true then _ else _ : Parse Expr) _ = _
  rw [if_neg (by simp [unary])]
  change Except.bind (called (n + 1) _) _ = _
  rw [h]
  rcases following with (found | found | found | found) | found <;> cases found <;> rfl

theorem operation_of_operand {s : ParseState} (closing : Closing t)
    (h : operand (n + 1) s = .ok (x, ⟨t :: rest, last, scopes, inside⟩)) :
    operation (n + 2) 0 s = .ok (x, ⟨t :: rest, last, scopes, inside⟩) := by
  obtain ⟨kind, spot, broke, here, after⟩ := t
  change Except.bind (operand (n + 1) s) _ = _
  rw [h]
  rcases closing with found | found | found | found <;> cases found <;> rfl

theorem assignment_of_called {w next before : Token} {others : List Token} (found : w.kind = .word e)
    (unary : w.isWord "typeof" = false) (closing : Closing t) (noArrow : next.isMark "=>" = false)
    (h : called (n + 1) ⟨w :: next :: others, before, scopes, inside⟩ =
      .ok (x, ⟨t :: rest, last, scopes, inside⟩)) :
    assignment (n + 6) ⟨w :: next :: others, before, scopes, inside⟩ =
      .ok (x, ⟨t :: rest, last, scopes, inside⟩) :=
  assignment_of_word found closing noArrow
    (operation_of_operand closing (operand_of_word found unary (.inl closing) h))

theorem primary_name {w : Token} (found : w.kind = .word e) (name : isName e = true) :
    primary (n + 1) ⟨w :: t :: rest, last, scopes, inside⟩ =
      .ok (.name e w.spot w.spot, ⟨t :: rest, w, scopes, inside⟩) := by
  obtain ⟨kind, spot, broke, here, after⟩ := w
  cases found
  rw [primary]
  change (if isName e = true then _ else _ : Parse Expr) _ = _
  rw [if_pos name]
  rfl

theorem assignment_name {w : Token} (found : w.kind = .word e) (name : isName e = true)
    (closing : Closing t) :
    assignment (n + 7) ⟨w :: t :: rest, last, scopes, inside⟩ =
      .ok (.name e w.spot w.spot, ⟨t :: rest, w, scopes, inside⟩) := by
  have whole : called (n + 2) ⟨w :: t :: rest, last, scopes, inside⟩ = _ :=
    called_of_primary (.inl closing) (primary_name found name)
  refine assignment_of_called found (isWord_of_isName found name (by decide)) closing ?_ whole
  rcases closing with found | found | found | found <;> rw [Token.isMark, found] <;> rfl

theorem assignment_of_parenthesis {left before : Token} {others : List Token}
    (opens : left.kind = .mark "(") (noArrow : closesBeforeArrow 0 others = false)
    (closing : Closing t)
    (h : primary (n + 1) ⟨left :: others, before, scopes, inside⟩ =
      .ok (x, ⟨t :: rest, last, scopes, inside⟩)) :
    assignment (n + 7) ⟨left :: others, before, scopes, inside⟩ =
      .ok (x, ⟨t :: rest, last, scopes, inside⟩) := by
  have value := called_of_primary (.inl closing) h
  obtain ⟨kind, spot, broke, here, after⟩ := left
  cases opens
  have whole : operand (n + 3) ⟨⟨.mark "(", spot, broke, here, after⟩ :: others, before, scopes,
      inside⟩ = .ok (x, ⟨t :: rest, last, scopes, inside⟩) := by
    obtain ⟨kind', spot', broke', here', after'⟩ := t
    change Except.bind (called (n + 2) _) _ = _
    rw [value]
    rcases closing with found | found | found | found <;> cases found <;> rfl
  have all := conditional_of_operation closing (operation_of_operand closing whole)
  rw [assignment]
  change (if (true && closesBeforeArrow 0 others) = true then _ else _ : Parse Expr) _ = _
  rw [if_neg (by simp [noArrow])]
  obtain ⟨kind', spot', broke', here', after'⟩ := t
  change Except.bind (conditional (n + 6) _) _ = _
  rw [all]
  rcases closing with found | found | found | found <;> cases found <;> rfl

theorem primary_parenthesis {left right first before : Token} {others : List Token}
    (opens : left.kind = .mark "(") (closes : right.kind = .mark ")")
    (filled : first.isMark ")" = false)
    (h : assignment (n + 1) ⟨first :: others, left, scopes, inside⟩ =
      .ok (x, ⟨right :: t :: rest, last, scopes, inside⟩)) :
    primary (n + 3) ⟨left :: first :: others, before, scopes, inside⟩ =
      .ok (x, ⟨t :: rest, right, scopes, inside⟩) := by
  obtain ⟨kind, spot, broke, here, after⟩ := left
  obtain ⟨kind', spot', broke', here', after'⟩ := right
  cases opens
  cases closes
  change (if first.isMark ")" = true then _ else _ : Parse Expr) _ = _
  rw [if_neg (by simp [filled])]
  change Except.bind (Except.bind (assignment (n + 1) _) _) _ = _
  rw [h]
  rfl

theorem assignment_inParentheses {left w right : Token} (opens : left.kind = .mark "(")
    (found : w.kind = .word e) (name : isName e = true) (closes : right.kind = .mark ")")
    (closing : Closing t) :
    assignment (n + 15) ⟨left :: w :: right :: t :: rest, last, scopes, inside⟩ =
      .ok (.name e w.spot w.spot, ⟨t :: rest, right, scopes, inside⟩) := by
  have inner : assignment (n + 7) ⟨w :: right :: t :: rest, left, scopes, inside⟩ = _ :=
    assignment_name found name (.inl closes)
  have filled : w.isMark ")" = false := isMark_of_word found _
  have noArrow : closesBeforeArrow 0 (w :: right :: t :: rest) = false := by
    obtain ⟨kind, spot, broke, here, after⟩ := w
    obtain ⟨kind', spot', broke', here', after'⟩ := right
    obtain ⟨kind'', spot'', broke'', here'', after''⟩ := t
    cases found
    cases closes
    rcases closing with found | found | found | found <;> cases found <;> rfl
  exact assignment_of_parenthesis opens noArrow closing
    (primary_parenthesis opens closes filled inner)

/-- The function that reads a name. -/
def IsThunk (e : Text) (x : Expr) : Prop :=
  ∃ head spot shown place, head.params = [] ∧ head.namesItself = false ∧
    x = .function head [.return (.name e spot shown) place]

theorem arrowBody_name {left w right start arrow : Token} (opens : left.kind = .mark "(")
    (found : w.kind = .word e) (name : isName e = true) (closes : right.kind = .mark ")")
    (closing : Closing t) :
    arrowBody (n + 16) start [] ⟨left :: w :: right :: t :: rest, arrow, scopes, inside⟩ =
      .ok (.function ⟨[], false, true, [], start.spot, start.spot, start.here, right.after⟩
        [.return (.name e w.spot w.spot) w.spot], ⟨t :: rest, right, scopes, inside⟩) := by
  have inner : assignment (n + 15) ⟨left :: w :: right :: t :: rest, arrow, scopes, inside⟩ = _ :=
    assignment_inParentheses opens found name closes closing
  obtain ⟨_, spot, broke, here, after⟩ := left
  cases opens
  change Except.bind (assignment (n + 15) _) _ = _
  rw [inner]
  rfl

theorem assignment_thunk {gap : Text} {line : Nat} {tokens : List Token}
    (read : Read lined line (thunkChunks gap e) tokens) (name : isName e = true) (closing : Closing t) :
    ∃ x last', assignment (n + 17) ⟨tokens ++ t :: rest, last, scopes, inside⟩ =
      .ok (x, ⟨t :: rest, last', scopes, inside⟩) ∧ IsThunk e x := by
  obtain ⟨⟨_, s₁, b₁, h₁, a₁⟩, _, rfl, rfl, -, -, read⟩ := read
  obtain ⟨⟨_, s₂, b₂, h₂, a₂⟩, _, rfl, rfl, -, -, read⟩ := read
  obtain ⟨⟨_, s₃, b₃, h₃, a₃⟩, _, rfl, rfl, -, broke, read⟩ := read
  obtain ⟨left, _, rfl, opens, -, -, read⟩ := read
  obtain ⟨w, _, rfl, found, -, -, read⟩ := read
  obtain ⟨right, _, rfl, closes, -, -, rfl⟩ := read
  cases broke
  have body : arrowBody (n + 16) ⟨.mark "(", s₁, b₁, h₁, a₁⟩ [] ⟨left :: w :: right :: t :: rest,
      ⟨.mark "=>", s₃, false, h₃, a₃⟩, scopes, inside⟩ = _ :=
    arrowBody_name opens found name closes closing
  refine ⟨.function ⟨[], false, true, [], s₁, s₁, h₁, right.after⟩
    [.return (.name e w.spot w.spot) w.spot], right, ?_, _, _, _, _, rfl, rfl, rfl⟩
  exact body

theorem operand_text {w : Token} (found : w.kind = .text e) (following : Following t) :
    operand (n + 3) ⟨w :: t :: rest, last, scopes, inside⟩ =
      .ok (.literal (.text e) w.spot, ⟨t :: rest, w, scopes, inside⟩) := by
  obtain ⟨_, spot, broke, here, after⟩ := w
  obtain ⟨_, spot', broke', here', after'⟩ := t
  cases found
  rcases following with (found | found | found | found) | found <;> cases found <;> rfl

theorem assignment_text {w : Token} (found : w.kind = .text e) (closing : Closing t) :
    assignment (n + 7) ⟨w :: t :: rest, last, scopes, inside⟩ =
      .ok (.literal (.text e) w.spot, ⟨t :: rest, w, scopes, inside⟩) :=
  assignment_of_text found closing
    (operation_of_operand closing (operand_text found (.inl closing)))

theorem accept_other {first : Token} {others : List Token} {symbol : String}
    (other : first.isMark symbol = false) :
    accept symbol ⟨first :: others, last, scopes, inside⟩ =
      .ok (false, ⟨first :: others, last, scopes, inside⟩) := by
  change (if first.isMark symbol = true then _ else _ : Parse Bool) _ = _
  rw [if_neg (by simp [other])]
  rfl

theorem arguments_last {first right before : Token} {others : List Token}
    (filled : first.isMark ")" = false) (closes : right.kind = .mark ")")
    (h : assignment n ⟨first :: others, before, scopes, inside⟩ =
      .ok (x, ⟨right :: t :: rest, last, scopes, inside⟩)) :
    arguments (n + 1) ⟨first :: others, before, scopes, inside⟩ =
      .ok ([x], ⟨t :: rest, right, scopes, inside⟩) := by
  obtain ⟨_, spot, broke, here, after⟩ := right
  cases closes
  change Except.bind (accept ")" _) _ = _
  rw [accept_other filled]
  change Except.bind (assignment n _) _ = _
  rw [h]
  rfl

theorem arguments_more {first comma next before : Token} {others : List Token} {xs : List Expr}
    {s : ParseState} (filled : first.isMark ")" = false) (separates : comma.kind = .mark ",")
    (h : assignment n ⟨first :: others, before, scopes, inside⟩ =
      .ok (x, ⟨comma :: next :: rest, last, scopes, inside⟩))
    (more : arguments n ⟨next :: rest, comma, scopes, inside⟩ = .ok (xs, s)) :
    arguments (n + 1) ⟨first :: others, before, scopes, inside⟩ = .ok (x :: xs, s) := by
  obtain ⟨_, spot, broke, here, after⟩ := comma
  cases separates
  change Except.bind (accept ")" _) _ = _
  rw [accept_other filled]
  change Except.bind (assignment n _) _ = _
  rw [h]
  change Except.bind (arguments n _) _ = _
  rw [more]
  rfl

theorem callsFrom_call (base : Expr) {w left first : Token} {others : List Token} {args : List Expr}
    (found : w.kind = .word e) (name : isName e = true)
    (opens : left.kind = .mark "(") (following : Following t)
    (h : arguments (n + 1) ⟨first :: others, left, scopes, inside⟩ =
      .ok (args, ⟨t :: rest, last, scopes, inside⟩)) :
    callsFrom (n + 2) base ⟨left :: first :: others, w, scopes, inside⟩ =
      .ok (.call base args w.spot, ⟨t :: rest, last, scopes, inside⟩) := by
  obtain ⟨_, spot, broke, here, after⟩ := w
  obtain ⟨_, spot', broke', here', after'⟩ := left
  obtain ⟨_, spot'', broke'', here'', after''⟩ := t
  cases found
  cases opens
  change Except.bind (arguments (n + 1) _) _ = _
  rw [h]
  change (callsFrom (n + 1) (.call base args (if isName e = true then spot else spot'))) _ = _
  rw [if_pos name]
  rcases following with (found | found | found | found) | found <;> cases found <;> rfl

theorem called_call {w left first : Token} {others : List Token} {args : List Expr}
    (found : w.kind = .word e) (name : isName e = true) (opens : left.kind = .mark "(")
    (following : Following t)
    (h : arguments (n + 1) ⟨first :: others, left, scopes, inside⟩ =
      .ok (args, ⟨t :: rest, last, scopes, inside⟩)) {before : Token} :
    called (n + 3) ⟨w :: left :: first :: others, before, scopes, inside⟩ =
      .ok (.call (.name e w.spot w.spot) args w.spot, ⟨t :: rest, last, scopes, inside⟩) := by
  have calls := callsFrom_call (.name e w.spot w.spot) found name opens following h
  obtain ⟨_, spot, broke, here, after⟩ := left
  cases opens
  change Except.bind (primary (n + 2) _) _ = _
  rw [primary_name found name]
  exact calls

theorem called_memberCall {w dot key left first : Token} {others : List Token} {args : List Expr}
    {k : Text} (found : w.kind = .word e) (name : isName e = true) (dots : dot.kind = .mark ".")
    (member : key.kind = .word k) (free : isName k = true)
    (opens : left.kind = .mark "(") (following : Following t)
    (h : arguments (n + 1) ⟨first :: others, left, scopes, inside⟩ =
      .ok (args, ⟨t :: rest, last, scopes, inside⟩)) {before : Token} :
    called (n + 3) ⟨w :: dot :: key :: left :: first :: others, before, scopes, inside⟩ =
      .ok (.call (.member (.name e w.spot w.spot) k key.spot) args key.spot,
        ⟨t :: rest, last, scopes, inside⟩) := by
  have calls := callsFrom_call (.member (.name e w.spot w.spot) k key.spot) member free
    opens following h
  obtain ⟨_, spot, broke, here, after⟩ := left
  obtain ⟨_, spot', broke', here', after'⟩ := dot
  obtain ⟨_, spot'', broke'', here'', after''⟩ := key
  cases opens
  cases dots
  cases member
  change Except.bind (primary (n + 2) _) _ = _
  rw [primary_name found name]
  exact calls

end

def IsAddend (lined : Prop) (line : Nat) : Addend → Expr → Prop
  | .text t, x => ∃ spot, x = .literal (.text t) spot
  | .value e, x => ∃ f spot shown place call, IsThunk e f ∧ (lined → call.line = line) ∧
      x = .call (.name textHelperName spot shown) [f, .literal (.text e) place] call

/-- The tree of a sum, which starts from the left. -/
inductive IsSum (lined : Prop) (line : Nat) : List Addend → Expr → Prop
  | one {a : Addend} {x : Expr} (h : IsAddend lined line a x) : IsSum lined line [a] x
  | more {sum : List Addend} {a : Addend} {l r : Expr} {spot : Spot} (left : IsSum lined line sum l)
      (right : IsAddend lined line a r) : IsSum lined line (sum ++ [a]) (.binary .add l r spot)

section

variable {n : Nat} {e : Text} {x : Expr} {t : Token} {rest : List Token} {last : Token}
  {scopes : List (List (Text × NameKind))} {inside : Bool} {lined : Prop}

theorem operand_addend {gap : Text} {line : Nat} {a : Addend} {tokens : List Token}
    (read : Read lined line (addendChunks gap a) tokens) (legible : Addend.Legible a)
    (following : Following t) :
    ∃ x last', operand (n + 22) ⟨tokens ++ t :: rest, last, scopes, inside⟩ =
      .ok (x, ⟨t :: rest, last', scopes, inside⟩) ∧ IsAddend lined line a x := by
  cases a with
  | text e =>
    obtain ⟨w, _, rfl, found, -, -, rfl⟩ := read
    exact ⟨_, _, operand_text found following, _, rfl⟩
  | value e =>
    obtain ⟨w, _, rfl, found, spot, -, read⟩ := read
    obtain ⟨left, others, rfl, opens, -, -, read⟩ := read
    obtain ⟨thunk, others, rfl, inner, tail⟩ := read_append (a := thunkChunks [] e)
      (b := [.tight (.mark ","), .spaced (.quoted e), .tight (.mark ")")]) read
    obtain ⟨comma, _, rfl, separates, -, -, tail⟩ := tail
    obtain ⟨quoted, _, rfl, literal, -, -, tail⟩ := tail
    obtain ⟨right, _, rfl, closes, -, -, rfl⟩ := tail
    obtain ⟨f, before, parsed, isThunk⟩ :
        ∃ f before, assignment (n + 18) ⟨thunk ++ comma :: quoted :: right :: t :: rest, left, scopes,
          inside⟩ = .ok (f, ⟨comma :: quoted :: right :: t :: rest, before, scopes, inside⟩) ∧
          IsThunk e f := assignment_thunk inner legible.2 (.inr (.inl separates))
    obtain ⟨first, others, rfl, opening, -, -, -⟩ := inner
    have filled : first.isMark ")" = false := isMark_of_mark opening _
    have unfilled : quoted.isMark ")" = false := isMark_of_text literal _
    have second : assignment (n + 17) ⟨quoted :: right :: t :: rest, comma, scopes, inside⟩ = _ :=
      assignment_text literal (.inl closes)
    have args := arguments_more filled separates parsed (arguments_last unfilled closes second)
    have whole : operand (n + 22) ⟨w :: left :: first :: (others ++ comma :: quoted :: right :: t :: rest),
        last, scopes, inside⟩ = _ :=
      operand_of_word found (isWord_of_isName found isName_textHelperName (by decide)) following
        (called_call found isName_textHelperName opens following args)
    have tokens : w :: left :: (first :: others ++ [comma, quoted, right]) ++ t :: rest =
        w :: left :: first :: (others ++ comma :: quoted :: right :: t :: rest) := by simp
    rw [tokens]
    exact ⟨_, _, whole, _, _, _, _, _, isThunk, spot, rfl⟩

theorem ofBinary_addend {line : Nat} {a : Addend} {l r : Expr} (h : IsAddend lined line a r) (op : BinaryOp)
    (spot : Spot) : Expr.ofBinary op l r spot = .binary op l r spot := by
  unfold Expr.ofBinary
  split
  · cases a with
    | text t =>
      obtain ⟨_, value⟩ := h
      cases value
    | value e =>
      obtain ⟨_, _, _, _, _, -, -, value⟩ := h
      cases value
  · rfl

theorem following_more {line : Nat} {more : List Addend} {tokens : List Token} (rest : List Token)
    (read : Read lined line (moreChunks more) tokens) (closing : Closing t) :
    ∃ first others, tokens ++ t :: rest = first :: others ∧ Following first := by
  cases more with
  | nil =>
    cases read
    exact ⟨t, rest, rfl, .inl closing⟩
  | cons a more =>
    obtain ⟨plus, others, rfl, adds, -⟩ := read
    exact ⟨plus, others ++ t :: rest, rfl, .inr adds⟩

theorem lineBreaks_addendChunks (gap : Text) (a : Addend) : lineBreaks (addendChunks gap a) = 0 := by
  cases a <;> rfl

theorem addend_nonempty {gap : Text} {line : Nat} {a : Addend} {tokens : List Token}
    (read : Read lined line (addendChunks gap a) tokens) :
    ∃ head body, tokens = head :: body ∧ head.isMark ")" = false := by
  cases a with
  | text e =>
    obtain ⟨w, body, rfl, found, -⟩ := read
    exact ⟨w, body, rfl, isMark_of_text found _⟩
  | value e =>
    obtain ⟨w, body, rfl, found, -⟩ := read
    exact ⟨w, body, rfl, isMark_of_word found _⟩

theorem operation_right {s : ParseState} (following : Following t)
    (h : operand (n + 1) s = .ok (x, ⟨t :: rest, last, scopes, inside⟩)) :
    operation (n + 2) 4 s = .ok (x, ⟨t :: rest, last, scopes, inside⟩) := by
  obtain ⟨kind, spot, broke, here, after⟩ := t
  change Except.bind (operand (n + 1) s) _ = _
  rw [h]
  rcases following with (found | found | found | found) | found <;> cases found <;> rfl

theorem operationFrom_plus {left r : Expr} {plus head : Token} {body : List Token} {s : ParseState}
    (adds : plus.kind = .mark "+")
    (h : operation (n + 1) 4 ⟨head :: body, plus, scopes, inside⟩ = .ok (r, s)) :
    operationFrom (n + 2) 0 left ⟨plus :: head :: body, last, scopes, inside⟩ =
      operationFrom (n + 1) 0 (.ofBinary .add left r plus.spot) s := by
  obtain ⟨_, spot, broke, here, after⟩ := plus
  cases adds
  change Except.bind (operation (n + 1) 4 _) _ = _
  rw [h]
  rfl

theorem operationFrom_more {line : Nat} {sum more : List Addend} {tokens : List Token} {left : Expr}
    (read : Read lined line (moreChunks more) tokens) (legible : ∀ a ∈ more, Addend.Legible a)
    (closing : Closing t) (start : IsSum lined line sum left) :
    ∃ x last', operationFrom (n + more.length + 25) 0 left ⟨tokens ++ t :: rest, last, scopes,
      inside⟩ = .ok (x, ⟨t :: rest, last', scopes, inside⟩) ∧ IsSum lined line (sum ++ more) x := by
  induction more generalizing tokens sum left last with
  | nil =>
    cases read
    obtain ⟨_, spot, broke, here, after⟩ := t
    refine ⟨left, last, ?_, by rwa [List.append_nil]⟩
    rcases closing with found | found | found | found <;> cases found <;> rfl
  | cons a more ih =>
    have chunks : moreChunks (a :: more) =
        .spaced (.mark "+") :: (addendChunks [CodeUnit.ofChar ' '] a ++ moreChunks more) := rfl
    rw [chunks] at read
    obtain ⟨plus, others, rfl, adds, -, -, read⟩ := read
    obtain ⟨first, others, rfl, addend, behind⟩ := read_append read
    have same : line + (Chunk.spaced (.mark "+")).breaks +
        lineBreaks (addendChunks [CodeUnit.ofChar ' '] a) = line := by
      rw [lineBreaks_addendChunks]
      rfl
    rw [same] at behind
    obtain ⟨next, tail, follows, following⟩ := following_more rest behind closing
    obtain ⟨r, before, parsed, isAddend⟩ :
        ∃ r before, operand (n + more.length + 24) ⟨first ++ next :: tail, plus, scopes, inside⟩ =
          .ok (r, ⟨next :: tail, before, scopes, inside⟩) ∧ IsAddend lined line a r :=
      operand_addend addend (legible a List.mem_cons_self) following
    have right : operation (n + more.length + 25) 4 ⟨first ++ next :: tail, plus, scopes, inside⟩ =
        .ok (r, ⟨next :: tail, before, scopes, inside⟩) := operation_right following parsed
    obtain ⟨x, last', others', isSum⟩ := @ih before _ _ _ behind
      (fun b inside => legible b (List.mem_cons_of_mem a inside))
      (start.more isAddend : IsSum lined line (sum ++ [a]) (.binary .add left r plus.spot))
    rw [follows] at others'
    rw [List.append_assoc] at isSum
    obtain ⟨head, body, rfl, -⟩ := addend_nonempty addend
    refine ⟨x, last', ?_, isSum⟩
    have tokens : plus :: (head :: body ++ others) ++ t :: rest =
        plus :: head :: (body ++ next :: tail) := by
      rw [← follows]
      simp
    rw [tokens]
    refine (operationFrom_plus adds right).trans ?_
    rw [ofBinary_addend isAddend]
    exact others'

theorem operation_sum {line : Nat} {first : Addend} {more : List Addend} {tokens : List Token}
    (read : Read lined line (addendChunks [] first ++ moreChunks more) tokens)
    (legible : ∀ a ∈ first :: more, Addend.Legible a) (closing : Closing t) :
    ∃ x last', operation (n + more.length + 26) 0 ⟨tokens ++ t :: rest, last, scopes, inside⟩ =
      .ok (x, ⟨t :: rest, last', scopes, inside⟩) ∧ IsSum lined line (first :: more) x := by
  obtain ⟨front, others, rfl, addend, behind⟩ := read_append read
  rw [lineBreaks_addendChunks, Nat.add_zero] at behind
  obtain ⟨next, tail, follows, following⟩ := following_more rest behind closing
  obtain ⟨l, before, parsed, isAddend⟩ :
      ∃ l before, operand (n + more.length + 25) ⟨front ++ next :: tail, last, scopes, inside⟩ =
        .ok (l, ⟨next :: tail, before, scopes, inside⟩) ∧ IsAddend lined line first l :=
    operand_addend addend (legible first List.mem_cons_self) following
  obtain ⟨x, last', others', isSum⟩ :
      ∃ x last', operationFrom (n + more.length + 25) 0 l ⟨others ++ t :: rest, before, scopes,
        inside⟩ = .ok (x, ⟨t :: rest, last', scopes, inside⟩) ∧ IsSum lined line ([first] ++ more) x :=
    operationFrom_more behind (fun a inside => legible a (List.mem_cons_of_mem first inside)) closing
      (.one isAddend)
  rw [follows] at others'
  refine ⟨x, last', ?_, isSum⟩
  rw [List.append_assoc, follows]
  change Except.bind (operand (n + more.length + 25) _) _ = _
  rw [parsed]
  exact others'

theorem assignment_sum {line : Nat} {first : Addend} {more : List Addend} {tokens : List Token}
    (read : Read lined line (addendChunks [] first ++ moreChunks more) tokens)
    (legible : ∀ a ∈ first :: more, Addend.Legible a) (closing : Closing t) :
    ∃ x last', assignment (n + more.length + 29) ⟨tokens ++ t :: rest, last, scopes, inside⟩ =
      .ok (x, ⟨t :: rest, last', scopes, inside⟩) ∧ IsSum lined line (first :: more) x := by
  obtain ⟨x, last', parsed, isSum⟩ :
      ∃ x last', operation (n + more.length + 26) 0 ⟨tokens ++ t :: rest, last, scopes, inside⟩ =
        .ok (x, ⟨t :: rest, last', scopes, inside⟩) ∧ IsSum lined line (first :: more) x :=
    operation_sum read legible closing
  refine ⟨x, last', ?_, isSum⟩
  cases first with
  | text e =>
    obtain ⟨w, others, rfl, found, -⟩ := read
    exact assignment_of_text found closing parsed
  | value e =>
    obtain ⟨w, others, rfl, found, -, -, left, others, rfl, opens, -⟩ := read
    exact assignment_of_word found closing (isMark_of_mark opens _) parsed

theorem listedStatement_of_statement {w before : Token} {others : List Token} {sts : List Stmt}
    {s : ParseState}
    (noConst : w.isWord "const" = false) (noLet : w.isWord "let" = false)
    (noFunction : w.isWord "function" = false)
    (unlabelled : skipLabels (n + 1) ⟨w :: others, before, scopes, inside⟩ =
      .ok (false, ⟨w :: others, before, scopes, inside⟩))
    (h : statement (n + 1) ⟨w :: others, before, scopes, inside⟩ = .ok (sts, s)) :
    listedStatement (n + 2) ⟨w :: others, before, scopes, inside⟩ = .ok (sts, s) := by
  have kind : declarationKind? ⟨w :: others, before, scopes, inside⟩ =
      .ok (none, ⟨w :: others, before, scopes, inside⟩) := by
    change (if w.isWord "const" = true then _ else _ : Parse (Option Bool)) _ = _
    rw [if_neg (by simp [noConst])]
    change (if w.isWord "let" = true then _ else _ : Parse (Option Bool)) _ = _
    rw [if_neg (by simp [noLet])]
    rfl
  change Except.bind (declarationKind? _) _ = _
  rw [kind]
  change Except.bind (skipLabels (n + 1) _) _ = _
  rw [unlabelled]
  change (if w.isWord "function" = true then _ else _ : Parse (List Stmt)) _ = _
  rw [if_neg (by simp [noFunction])]
  exact h

theorem listedStatement_expression {w next semi before : Token} {others : List Token}
    (found : w.kind = .word e) (starts : e = outputName ∨ e = listHelperName)
    (unlabelled : next.isMark ":" = false) (ends : semi.kind = .mark ";")
    (h : assignment (n + 1) ⟨w :: next :: others, before, scopes, inside⟩ =
      .ok (x, ⟨semi :: t :: rest, last, scopes, inside⟩)) :
    listedStatement (n + 4) ⟨w :: next :: others, before, scopes, inside⟩ =
      .ok ([.expr x w.spot], ⟨t :: rest, semi, scopes, inside⟩) := by
  have name : isName e = true := by
    rcases starts with rfl | rfl
    · exact isName_outputName
    · exact isName_listHelperName
  have labels : skipLabels (n + 3) ⟨w :: next :: others, before, scopes, inside⟩ =
      .ok (false, ⟨w :: next :: others, before, scopes, inside⟩) := by
    obtain ⟨_, spot, broke, here, after⟩ := w
    cases found
    change (if (isName e && next.isMark ":") = true then _ else _ : Parse Bool) _ = _
    rw [if_neg (by simp [unlabelled])]
    rfl
  have whole : statement (n + 3) ⟨w :: next :: others, before, scopes, inside⟩ =
      .ok ([.expr x w.spot], ⟨t :: rest, semi, scopes, inside⟩) := by
    obtain ⟨_, spot, broke, here, after⟩ := w
    obtain ⟨_, spot', broke', here', after'⟩ := semi
    cases found
    cases ends
    rcases starts with rfl | rfl
    all_goals
      change Except.bind (Except.bind (assignment (n + 1) _) _) _ = _
      rw [h]
      rfl
  have noLet : w.isWord "let" = false := by
    rw [Token.isWord, found]
    rcases starts with rfl | rfl <;> decide
  exact listedStatement_of_statement (isWord_of_isName found name (by decide)) noLet
    (isWord_of_isName found name (by decide)) labels whole

def IsPush (lined : Prop) (line : Nat) (sum : List Addend) (st : Stmt) : Prop :=
  ∃ x name shown key call place, IsSum lined line sum x ∧
    st = .expr (.call (.member (.name outputName name shown) "push" key) [x] call) place

def IsListing (lined : Prop) (line : Nat) (e indent : Text) (st : Stmt) : Prop :=
  ∃ f helper shown out shown' spot spot' call place, IsThunk e f ∧ (lined → call.line = line) ∧
    st = .expr (.call (.name listHelperName helper shown)
      [.name outputName out shown', f, .literal (.text indent) spot, .literal (.text e) spot'] call) place

theorem listedStatement_push {gap : Text} {line breaks : Nat} {first : Addend} {more : List Addend}
    {tokens : List Token} (read : Read lined line (pushChunks gap breaks first more) tokens)
    (legible : ∀ a ∈ first :: more, Addend.Legible a) :
    ∃ st last', listedStatement (n + more.length + 40) ⟨tokens ++ t :: rest, last, scopes, inside⟩ =
      .ok ([st], ⟨t :: rest, last', scopes, inside⟩) ∧ IsPush lined (line + breaks) (first :: more) st := by
  have chunks : pushChunks gap breaks first more =
      ⟨gap, breaks, .word outputName⟩ :: .tight (.mark ".") :: .tight (.word "push") ::
        .tight (.mark "(") :: ((addendChunks [] first ++ moreChunks more) ++
          [.tight (.mark ")"), .tight (.mark ";")]) := by
    simp [pushChunks]
  rw [chunks] at read
  obtain ⟨w, _, rfl, found, -, -, read⟩ := read
  obtain ⟨dot, _, rfl, dots, -, -, read⟩ := read
  obtain ⟨key, _, rfl, member, -, -, read⟩ := read
  obtain ⟨left, _, rfl, opens, -, -, read⟩ := read
  obtain ⟨sum, _, rfl, inner, tail⟩ := read_append read
  obtain ⟨right, _, rfl, closes, -, -, tail⟩ := tail
  obtain ⟨semi, _, rfl, ends, -, -, rfl⟩ := tail
  obtain ⟨x, before, parsed, isSum⟩ :
      ∃ x before, assignment (n + more.length + 29) ⟨sum ++ right :: semi :: t :: rest, left, scopes,
        inside⟩ = .ok (x, ⟨right :: semi :: t :: rest, before, scopes, inside⟩) ∧
        IsSum lined (line + breaks) (first :: more) x := assignment_sum inner legible (.inl closes)
  obtain ⟨head, body, rfl, filled⟩ : ∃ head body, sum = head :: body ∧ head.isMark ")" = false := by
    obtain ⟨front, others, rfl, addend, -⟩ := read_append inner
    obtain ⟨head, body, rfl, filled⟩ := addend_nonempty addend
    exact ⟨head, body ++ others, rfl, filled⟩
  have args := arguments_last filled closes parsed
  have closing : Closing semi := .inr (.inr (.inl ends))
  have call : assignment (n + more.length + 37) ⟨w :: dot :: key :: left :: head ::
      (body ++ right :: semi :: t :: rest), last, scopes, inside⟩ = _ :=
    assignment_of_called found (isWord_of_isName found isName_outputName (by decide)) closing
      (isMark_of_mark dots _) (called_memberCall found isName_outputName dots member (by decide) opens
        (.inl closing) args)
  have whole := listedStatement_expression found (.inl rfl) (isMark_of_mark dots _) ends call
  have tokens : w :: dot :: key :: left :: (head :: body ++ [right, semi]) ++ t :: rest =
      w :: dot :: key :: left :: head :: (body ++ right :: semi :: t :: rest) := by simp
  rw [tokens]
  exact ⟨_, semi, whole, x, _, _, _, _, _, isSum, rfl⟩

theorem listedStatement_listing {gap : Text} {line breaks : Nat} {indent : Text} {tokens : List Token}
    (read : Read lined line (listChunks gap breaks e indent) tokens) (name : isName e = true) :
    ∃ st last', listedStatement (n + 40) ⟨tokens ++ t :: rest, last, scopes, inside⟩ =
      .ok ([st], ⟨t :: rest, last', scopes, inside⟩) ∧ IsListing lined (line + breaks) e indent st := by
  obtain ⟨w, _, rfl, found, spot, -, read⟩ := read
  obtain ⟨left, _, rfl, opens, -, -, read⟩ := read
  obtain ⟨out, _, rfl, outputs, -, -, read⟩ := read
  obtain ⟨comma, _, rfl, separates, -, -, read⟩ := read
  obtain ⟨thunk, _, rfl, inner, tail⟩ := read_append (a := thunkChunks [CodeUnit.ofChar ' '] e)
    (b := [.tight (.mark ","), .spaced (.quoted indent), .tight (.mark ","), .spaced (.quoted e),
      .tight (.mark ")"), .tight (.mark ";")]) read
  obtain ⟨second, _, rfl, separates₂, -, -, tail⟩ := tail
  obtain ⟨lead, _, rfl, literal, -, -, tail⟩ := tail
  obtain ⟨third, _, rfl, separates₃, -, -, tail⟩ := tail
  obtain ⟨quoted, _, rfl, literal₂, -, -, tail⟩ := tail
  obtain ⟨right, _, rfl, closes, -, -, tail⟩ := tail
  obtain ⟨semi, _, rfl, ends, -, -, rfl⟩ := tail
  obtain ⟨f, before, parsed, isThunk⟩ :
      ∃ f before, assignment (n + 28) ⟨thunk ++ second :: lead :: third :: quoted :: right :: semi ::
        t :: rest, comma, scopes, inside⟩ = .ok (f, ⟨second :: lead :: third :: quoted :: right ::
        semi :: t :: rest, before, scopes, inside⟩) ∧ IsThunk e f :=
    assignment_thunk inner name (.inr (.inl separates₂))
  obtain ⟨first, others, rfl, opening, -, -, -⟩ := inner
  have value : assignment (n + 26) ⟨quoted :: right :: semi :: t :: rest, third, scopes, inside⟩ = _ :=
    assignment_text literal₂ (.inl closes)
  have text : assignment (n + 27) ⟨lead :: third :: quoted :: right :: semi :: t :: rest, second,
      scopes, inside⟩ = _ := assignment_text literal (.inr (.inl separates₃))
  have output : assignment (n + 29) ⟨out :: comma :: first :: (others ++ second :: lead :: third ::
      quoted :: right :: semi :: t :: rest), left, scopes, inside⟩ = _ :=
    assignment_name outputs isName_outputName (.inr (.inl separates))
  have args := arguments_more (isMark_of_word outputs _) separates output
    (arguments_more (isMark_of_mark opening _) separates₂ parsed
      (arguments_more (isMark_of_text literal _) separates₃ text
        (arguments_last (isMark_of_text literal₂ _) closes value)))
  have closing : Closing semi := .inr (.inr (.inl ends))
  have call : assignment (n + 37) ⟨w :: left :: out :: comma :: first :: (others ++ second :: lead ::
      third :: quoted :: right :: semi :: t :: rest), last, scopes, inside⟩ = _ :=
    assignment_of_called found (isWord_of_isName found isName_listHelperName (by decide)) closing
      (isMark_of_mark opens _) (called_call found isName_listHelperName opens (.inl closing) args)
  have whole := listedStatement_expression found (.inr rfl) (isMark_of_mark opens _) ends call
  have tokens : w :: left :: out :: comma :: (first :: others ++ [second, lead, third, quoted, right,
      semi]) ++ t :: rest = w :: left :: out :: comma :: first :: (others ++ second :: lead :: third ::
      quoted :: right :: semi :: t :: rest) := by simp
  rw [tokens]
  exact ⟨_, semi, whole, f, _, _, _, _, _, _, _, _, isThunk, spot, rfl⟩

def IsStatement (lined : Prop) (line : Nat) (i : Instruction) (st : Stmt) : Prop :=
  match i, lineAddends i with
  | .list e indent, _ => IsListing lined line e indent st
  | _, some (first, more) => IsPush lined line (first :: more) st
  | _, none => False

theorem isStatement_iff {line : Nat} {i : Instruction} {st : Stmt} {first : Addend}
    {more : List Addend} (found : lineAddends i = some (first, more)) :
    IsStatement lined line i st ↔ IsPush lined line (first :: more) st := by
  cases i with
  | list | statement | marker => simp [lineAddends] at found
  | literal | fields => simp only [IsStatement, found]

theorem length_le_pushChunks (gap : Text) (breaks : Nat) (first : Addend) (more : List Addend) :
    more.length ≤ (pushChunks gap breaks first more).length := by
  have each : more.length ≤ (moreChunks more).length := by
    induction more with
    | nil => simp
    | cons a more ih =>
      have chunks : moreChunks (a :: more) =
          .spaced (.mark "+") :: (addendChunks [CodeUnit.ofChar ' '] a ++ moreChunks more) := rfl
      rw [chunks, List.length_cons, List.length_cons, List.length_append]
      omega
  rw [pushChunks, List.length_append, List.length_append]
  omega

theorem listedStatement_instruction {gap : Text} {line breaks : Nat} {i : Instruction}
    {tokens : List Token} (read : Read lined line (instructionChunks gap breaks i) tokens)
    (legible : i.Legible) (emits : ∀ boundary name, i ≠ .marker boundary name)
    (enough : tokens.length + 40 ≤ n) :
    ∃ st last', listedStatement n ⟨tokens ++ t :: rest, last, scopes, inside⟩ =
      .ok ([st], ⟨t :: rest, last', scopes, inside⟩) ∧ IsStatement lined (line + breaks) i st := by
  have count := read_length read
  rcases sum_or_list legible emits with ⟨first, more, found, chunks⟩ | ⟨e, indent, rfl⟩
  · rw [chunks] at read count
    have short := length_le_pushChunks gap breaks first more
    obtain ⟨k, rfl⟩ : ∃ k, n = k + more.length + 40 := ⟨n - more.length - 40, by omega⟩
    obtain ⟨st, last', parsed, isPush⟩ :=
      listedStatement_push read (legible_lineAddends found legible)
    exact ⟨st, last', parsed, (isStatement_iff found).2 isPush⟩
  · obtain ⟨k, rfl⟩ : ∃ k, n = k + 40 := ⟨n - 40, by omega⟩
    exact listedStatement_listing read legible.2

theorem not_over_of_word {w : Token} (found : w.kind = .word e) :
    (w.isMark "\x7d" || w.isFinish) = false := by
  rw [isMark_of_word found, Token.isFinish, found]
  rfl

theorem statements_over {w : Token} {others : List Token} (ended : (w.isMark "\x7d" || w.isFinish) = true) :
    statements (n + 1) ⟨w :: others, last, scopes, inside⟩ =
      .ok ([], ⟨w :: others, last, scopes, inside⟩) := by
  rw [statements]
  change (if (w.isMark "\x7d" || w.isFinish) = true then _ else _ : Parse (List Stmt)) _ = _
  rw [if_pos ended]
  rfl

theorem statements_cons {w : Token} {others : List Token} {first body : List Stmt} {s s' : ParseState}
    (more : (w.isMark "\x7d" || w.isFinish) = false)
    (parsed : listedStatement n ⟨w :: others, last, scopes, inside⟩ = .ok (first, s))
    (following : statements n s = .ok (body, s')) :
    statements (n + 1) ⟨w :: others, last, scopes, inside⟩ = .ok (first ++ body, s') := by
  rw [statements]
  change (if (w.isMark "\x7d" || w.isFinish) = true then _ else _ : Parse (List Stmt)) _ = _
  rw [if_neg (by rw [more]; decide)]
  change Except.bind (listedStatement n _) _ = _
  rw [parsed]
  change Except.bind (statements n s) _ = _
  rw [following]
  rfl

theorem statements_footer {gap : Text} {line breaks : Nat} {tokens : List Token}
    (read : Read lined line (footerChunks gap breaks) tokens) :
    ∃ last' spot shown place brace right, statements (n + 30) ⟨tokens ++ [t], last, scopes, true⟩ =
      .ok ([.return (.name outputName spot shown) place], ⟨[brace, right, t], last', scopes, true⟩) ∧
      brace.kind = .mark "\x7d" ∧ right.kind = .mark ")" := by
  obtain ⟨⟨_, s₁, b₁, h₁, a₁⟩, _, rfl, rfl, -, -, read⟩ := read
  obtain ⟨⟨_, s₂, b₂, h₂, a₂⟩, _, rfl, rfl, -, broke, read⟩ := read
  obtain ⟨⟨_, s₃, b₃, h₃, a₃⟩, _, rfl, rfl, -, -, read⟩ := read
  obtain ⟨⟨_, s₄, b₄, h₄, a₄⟩, _, rfl, rfl, -, -, read⟩ := read
  obtain ⟨right, _, rfl, closes, -, -, rfl⟩ := read
  cases broke
  exact ⟨_, s₂, s₂, s₁, _, right, rfl, rfl, closes⟩

/-- The chunks of an instruction that is no marker start with a name, and end the lines in front of
it only. -/
theorem instructionChunks_start (gap : Text) (breaks : Nat) (i : Instruction) (legible : i.Legible)
    (emits : ∀ boundary name, i ≠ .marker boundary name) :
    lineBreaks (instructionChunks gap breaks i) = breaks ∧
      ∃ e chunks, instructionChunks gap breaks i = ⟨gap, breaks, .word e⟩ :: chunks := by
  have more (addends : List Addend) : lineBreaks (moreChunks addends) = 0 := by
    induction addends with
    | nil => rfl
    | cons a addends ih =>
      have chunks : moreChunks (a :: addends) =
          .spaced (.mark "+") :: addendChunks [CodeUnit.ofChar ' '] a ++ moreChunks addends := rfl
      rw [chunks, lineBreaks_append, ih]
      simpa [lineBreaks, Chunk.spaced] using lineBreaks_addendChunks [CodeUnit.ofChar ' '] a
  rcases sum_or_list legible emits with ⟨first, rest, found, chunks⟩ | ⟨e, indent, rfl⟩
  · rw [chunks]
    refine ⟨?_, _, _, rfl⟩
    rw [pushChunks, lineBreaks_append, lineBreaks_append, lineBreaks_append, more,
      lineBreaks_addendChunks]
    rfl
  · exact ⟨rfl, _, _, rfl⟩

/-- The trees of the statements of some instructions, the first of which is on this line. Markers have
none. -/
def IsBody (lined : Prop) (line : Nat) : List Instruction → List Stmt → Prop
  | [], body => body = []
  | .marker _ _ :: rest, body => IsBody lined (line + 1) rest body
  | i :: rest, body => ∃ st others, body = st :: others ∧ IsStatement lined line i st ∧
      IsBody lined (line + 1) rest others

theorem isBody_cons {line : Nat} {i : Instruction} {rest : List Instruction} {body : List Stmt}
    (emits : ∀ boundary name, i ≠ .marker boundary name) :
    IsBody lined line (i :: rest) body ↔ ∃ st others, body = st :: others ∧
      IsStatement lined line i st ∧ IsBody lined (line + 1) rest others := by
  cases i with
  | marker boundary name => exact absurd rfl (emits boundary name)
  | literal | fields | list | statement => exact Iff.rfl

theorem statements_body {gap : Text} {line breaks : Nat} {instructions : List Instruction}
    {tokens : List Token} (read : Read lined line (bodyChunks gap breaks instructions) tokens)
    (legible : ∀ i ∈ instructions, i.Legible) (enough : tokens.length + 50 ≤ n) :
    ∃ body last' spot shown place brace right, statements n ⟨tokens ++ [t], last, scopes, true⟩ =
      .ok (body ++ [.return (.name outputName spot shown) place],
        ⟨[brace, right, t], last', scopes, true⟩) ∧
      IsBody lined (line + breaks) instructions body ∧ brace.kind = .mark "\x7d" ∧
      right.kind = .mark ")" := by
  induction instructions generalizing gap line breaks tokens n last with
  | nil =>
    obtain ⟨k, rfl⟩ : ∃ k, n = k + 30 := ⟨n - 30, by omega⟩
    obtain ⟨last', spot, shown, place, brace, right, parsed, closing⟩ := statements_footer read
    exact ⟨[], last', spot, shown, place, brace, right, parsed, rfl, closing⟩
  | cons i rest ih =>
    rcases i.marker_or with emits | ⟨boundary, name, rfl⟩
    · rw [bodyChunks_cons _ _ _ _ emits] at read
      obtain ⟨front, others, rfl, first, behind⟩ := read_append read
      have readable := legible i List.mem_cons_self
      obtain ⟨within, e, following, starts⟩ := instructionChunks_start gap breaks i readable emits
      rw [within] at behind
      obtain ⟨next, tail, follows⟩ : ∃ next tail, others ++ [t] = next :: tail :=
        List.exists_cons_of_ne_nil (by simp)
      rw [List.length_append] at enough
      obtain ⟨k, rfl⟩ : ∃ k, n = k + 1 := ⟨n - 1, by omega⟩
      obtain ⟨st, before, parsed, isStatement⟩ :
          ∃ st before, listedStatement k ⟨front ++ next :: tail, last, scopes, true⟩ =
            .ok ([st], ⟨next :: tail, before, scopes, true⟩) ∧ IsStatement lined (line + breaks) i st :=
        listedStatement_instruction first readable emits (by omega)
      rw [starts] at first
      obtain ⟨w, front, rfl, found, -⟩ := first
      rw [List.length_cons] at enough
      obtain ⟨body, last', spot, shown, place, brace, right, others', isBody, closing⟩ :=
        @ih k before _ _ _ _ behind (fun j inside => legible j (List.mem_cons_of_mem _ inside))
          (by omega)
      rw [follows] at others'
      refine ⟨st :: body, last', spot, shown, place, brace, right, ?_, ?_, closing⟩
      · rw [List.append_assoc, follows]
        have listed := statements_cons (not_over_of_word found) parsed others'
        exact listed
      · exact (isBody_cons emits).2 ⟨st, body, rfl, isStatement, isBody⟩
    -- A marker is a comment in front of the next statement.
    · obtain ⟨body, last', spot, shown, place, brace, right, parsed, isBody, closing⟩ := ih read
        (fun j inside => legible j (List.mem_cons_of_mem _ inside)) enough
      exact ⟨body, last', spot, shown, place, brace, right, parsed, isBody, closing⟩

def level : Nat → List Chunk → Option Nat
  | depth, [] => some depth
  | depth, c :: chunks =>
    match c.lexeme with
    | .mark m =>
      if m = "(" then level (depth + 1) chunks
      else if m = ")" then
        match depth with
        | 0 => none
        | depth + 1 => level depth chunks
      else level depth chunks
    | .word _ | .quoted _ => level depth chunks

theorem level_append (depth : Nat) (a b : List Chunk) :
    level depth (a ++ b) = (level depth a).bind fun depth => level depth b := by
  induction a generalizing depth with
  | nil => rfl
  | cons c a ih =>
    obtain ⟨gap, breaks, lexeme⟩ := c
    cases lexeme with
    | word | quoted => exact ih depth
    | mark m =>
      simp only [List.cons_append, level]
      split
      · exact ih (depth + 1)
      · split
        · cases depth with
          | zero => rfl
          | succ depth => exact ih depth
        · exact ih depth

theorem closesBeforeArrow_opening {depth : Nat} {others : List Token} (opens : t.isMark "(" = true) :
    closesBeforeArrow depth (t :: others) = closesBeforeArrow (depth + 1) others := by
  rw [closesBeforeArrow.eq_def]
  exact if_pos opens

theorem closesBeforeArrow_closing {depth : Nat} {others : List Token} (opens : t.isMark "(" = false)
    (closes : t.isMark ")" = true) :
    closesBeforeArrow (depth + 1) (t :: others) = closesBeforeArrow depth others := by
  rw [closesBeforeArrow.eq_def]
  exact (if_neg (by simp [opens])).trans (if_pos closes)

theorem closesBeforeArrow_other {depth : Nat} {others : List Token} (opens : t.isMark "(" = false)
    (closes : t.isMark ")" = false) :
    closesBeforeArrow depth (t :: others) = closesBeforeArrow depth others := by
  rw [closesBeforeArrow.eq_def]
  exact (if_neg (by simp [opens])).trans (if_neg (by simp [closes]))

theorem closesBeforeArrow_level {line depth after : Nat} {chunks : List Chunk} {tokens : List Token}
    (read : Read lined line chunks tokens) (h : level depth chunks = some after) :
    closesBeforeArrow depth (tokens ++ rest) = closesBeforeArrow after rest := by
  induction chunks generalizing line depth tokens with
  | nil =>
    cases read
    cases h
    rfl
  | cons c chunks ih =>
    obtain ⟨gap, breaks, lexeme⟩ := c
    obtain ⟨⟨_, spot, broke, here, after⟩, others, rfl, rfl, -, -, read⟩ := read
    cases lexeme with
    | word | quoted => exact (closesBeforeArrow_other rfl rfl).trans (ih read h)
    | mark m =>
      simp only [level] at h
      by_cases opens : m = "("
      · rw [if_pos opens] at h
        have found : (⟨.mark m, spot, broke, here, after⟩ : Token).isMark "(" = true := beq_iff_eq.2 opens
        exact (closesBeforeArrow_opening found).trans (ih read h)
      rw [if_neg opens] at h
      have unopened : (⟨.mark m, spot, broke, here, after⟩ : Token).isMark "(" = false :=
        beq_false_of_ne opens
      by_cases closes : m = ")"
      · rw [if_pos closes] at h
        cases depth with
        | zero => cases h
        | succ depth =>
          have found : (⟨.mark m, spot, broke, here, after⟩ : Token).isMark ")" = true :=
            beq_iff_eq.2 closes
          exact (closesBeforeArrow_closing unopened found).trans (ih read h)
      · rw [if_neg closes] at h
        have unclosed : (⟨.mark m, spot, broke, here, after⟩ : Token).isMark ")" = false :=
          beq_false_of_ne closes
        exact (closesBeforeArrow_other unopened unclosed).trans (ih read h)

theorem level_addendChunks (depth : Nat) (gap : Text) (a : Addend) :
    level depth (addendChunks gap a) = some depth := by
  cases a <;> rfl

theorem level_moreChunks (depth : Nat) (more : List Addend) :
    level depth (moreChunks more) = some depth := by
  induction more with
  | nil => rfl
  | cons a more ih =>
    have chunks : moreChunks (a :: more) =
        [.spaced (.mark "+")] ++ (addendChunks [CodeUnit.ofChar ' '] a ++ moreChunks more) := rfl
    have plus : level depth [.spaced (.mark "+")] = some depth := rfl
    rw [chunks, level_append, plus, Option.bind_some, level_append, level_addendChunks,
      Option.bind_some, ih]

theorem level_pushChunks (depth breaks : Nat) (gap : Text) (first : Addend) (more : List Addend) :
    level depth (pushChunks gap breaks first more) = some depth := by
  have start : level depth [⟨gap, breaks, .word outputName⟩, .tight (.mark "."),
      .tight (.word "push"), .tight (.mark "(")] = some (depth + 1) := rfl
  have finish : level (depth + 1) [.tight (.mark ")"), .tight (.mark ";")] = some depth := rfl
  rw [pushChunks, level_append, level_append, level_append, start, Option.bind_some,
    level_addendChunks, Option.bind_some, level_moreChunks, Option.bind_some, finish]

theorem level_instructionChunks (depth breaks : Nat) (gap : Text) (i : Instruction)
    (legible : i.Legible) (emits : ∀ boundary name, i ≠ .marker boundary name) :
    level depth (instructionChunks gap breaks i) = some depth := by
  rcases sum_or_list legible emits with ⟨first, more, found, chunks⟩ | ⟨e, indent, rfl⟩
  · rw [chunks]
    exact level_pushChunks depth breaks gap first more
  · rfl

theorem closesBeforeArrow_footer {gap : Text} {line breaks : Nat} {tokens : List Token}
    (read : Read lined line (footerChunks gap breaks) tokens) (ends : t.kind = .finish) :
    closesBeforeArrow 0 (tokens ++ [t]) = false := by
  obtain ⟨⟨_, s₁, b₁, h₁, a₁⟩, _, rfl, rfl, -, -, read⟩ := read
  obtain ⟨⟨_, s₂, b₂, h₂, a₂⟩, _, rfl, rfl, -, -, read⟩ := read
  obtain ⟨⟨_, s₃, b₃, h₃, a₃⟩, _, rfl, rfl, -, -, read⟩ := read
  obtain ⟨⟨_, s₄, b₄, h₄, a₄⟩, _, rfl, rfl, -, -, read⟩ := read
  obtain ⟨⟨_, s₅, b₅, h₅, a₅⟩, _, rfl, rfl, -, -, rfl⟩ := read
  obtain ⟨_, spot, broke, here, after⟩ := t
  cases ends
  rfl

theorem closesBeforeArrow_body {gap : Text} {line breaks : Nat} {instructions : List Instruction}
    {tokens : List Token} (read : Read lined line (bodyChunks gap breaks instructions) tokens)
    (legible : ∀ i ∈ instructions, i.Legible) (ends : t.kind = .finish) :
    closesBeforeArrow 0 (tokens ++ [t]) = false := by
  induction instructions generalizing gap line breaks tokens with
  | nil => exact closesBeforeArrow_footer read ends
  | cons i rest ih =>
    have others : ∀ j ∈ rest, j.Legible := fun j inside => legible j (List.mem_cons_of_mem i inside)
    rcases i.marker_or with emits | ⟨boundary, name, rfl⟩
    · rw [bodyChunks_cons _ _ _ _ emits] at read
      obtain ⟨front, tail, rfl, first, behind⟩ := read_append read
      rw [List.append_assoc, closesBeforeArrow_level first
        (level_instructionChunks 0 breaks gap i (legible i List.mem_cons_self) emits)]
      exact ih behind others
    · exact ih read others

def outputChunks : List Chunk :=
  [.spaced (.word "const"), .spaced (.word outputName), .spaced (.mark "="), .spaced (.mark "["),
    .tight (.mark "]"), .tight (.mark ";")]

theorem listedStatement_output {line : Nat} {tokens : List Token} (read : Read lined line outputChunks tokens) :
    ∃ spot spot' place last', listedStatement (n + 30) ⟨tokens ++ t :: rest, last, [[], []], true⟩ =
      .ok ([.declare false (.name outputName spot) (.array [] spot') place],
        ⟨t :: rest, last', [[(outputName, .lexical)], []], true⟩) := by
  obtain ⟨⟨_, s₁, b₁, h₁, a₁⟩, _, rfl, rfl, -, -, read⟩ := read
  obtain ⟨⟨_, s₂, b₂, h₂, a₂⟩, _, rfl, rfl, -, -, read⟩ := read
  obtain ⟨⟨_, s₃, b₃, h₃, a₃⟩, _, rfl, rfl, -, -, read⟩ := read
  obtain ⟨⟨_, s₄, b₄, h₄, a₄⟩, _, rfl, rfl, -, -, read⟩ := read
  obtain ⟨⟨_, s₅, b₅, h₅, a₅⟩, _, rfl, rfl, -, -, read⟩ := read
  obtain ⟨⟨_, s₆, b₆, h₆, a₆⟩, _, rfl, rfl, -, -, rfl⟩ := read
  exact ⟨s₂, s₄, s₄, ⟨.mark ";", s₆, b₆, h₆, a₆⟩, rfl⟩

/-- Tokens behind the making of the output that are parsed to some statements and the return of the output,
up to the end of the function. -/
def Completes (n : Nat) (isBody : List Stmt → Prop) (tokens : List Token) (t : Token) : Prop :=
  ∀ last, ∃ body last' spot shown place brace right,
    statements n ⟨tokens ++ [t], last, [[(outputName, .lexical)], []], true⟩ =
      .ok (body ++ [.return (.name outputName spot shown) place],
        ⟨[brace, right, t], last', [[(outputName, .lexical)], []], true⟩) ∧
    isBody body ∧ brace.kind = .mark "\x7d" ∧ right.kind = .mark ")"

theorem functionBody_output {line : Nat} {outs tokens : List Token} {brace before : Token}
    {isBody : List Stmt → Prop} (opens : brace.kind = .mark "\x7b")
    (output : Read lined line outputChunks outs) (completes : Completes (n + 30) isBody tokens t) :
    ∃ out array place body spot shown place' last' right,
      functionBody (n + 32) [] ⟨brace :: (outs ++ (tokens ++ [t])), before, [[]], false⟩ =
        .ok (.declare false (.name outputName out) (.array [] array) place ::
          (body ++ [.return (.name outputName spot shown) place']),
          ⟨[right, t], last', [[]], false⟩) ∧
      isBody body ∧ right.kind = .mark ")" := by
  obtain ⟨next, tail, follows⟩ : ∃ next tail, tokens ++ [t] = next :: tail :=
    List.exists_cons_of_ne_nil (by simp)
  obtain ⟨out, array, place, semi, first⟩ :
      ∃ out array place last', listedStatement (n + 30) ⟨outs ++ next :: tail, brace, [[], []], true⟩ =
        .ok ([.declare false (.name outputName out) (.array [] array) place],
          ⟨next :: tail, last', [[(outputName, .lexical)], []], true⟩) := listedStatement_output output
  obtain ⟨body, last', spot, shown, place', closing, right, others, inside, closes, ends⟩ := completes semi
  refine ⟨out, array, place, body, spot, shown, place', closing, right, ?_, inside, ends⟩
  rw [follows] at others
  rw [follows]
  have all : statements (n + 31) ⟨outs ++ next :: tail, brace, [[], []], true⟩ = .ok
      (.declare false (.name outputName out) (.array [] array) place ::
        (body ++ [.return (.name outputName spot shown) place']),
        ⟨[closing, right, t], last', [[(outputName, .lexical)], []], true⟩) := by
    obtain ⟨w, _, rfl, found, -⟩ := output
    exact statements_cons (not_over_of_word found) first others
  obtain ⟨w, more, rfl, -⟩ := output
  obtain ⟨_, spot', broke, here, after⟩ := brace
  obtain ⟨_, spot'', broke', here', after'⟩ := closing
  cases opens
  cases closes
  change Except.bind (statements (n + 31) ⟨w :: more ++ next :: tail,
    ⟨.mark "\x7b", spot', broke, here, after⟩, [[], []], true⟩) _ = _
  rw [all]
  rfl

/-- The tree of a function that makes an output, runs some statements and returns the output. -/
def IsOutputFunction (isBody : List Stmt → Prop) (x : Expr) : Prop :=
  ∃ head out array place body spot shown place', head.params = [] ∧ head.namesItself = false ∧
    isBody body ∧
    x = .function head (.declare false (.name outputName out) (.array [] array) place ::
      (body ++ [.return (.name outputName spot shown) place']))

theorem primary_output {line : Nat} {outs tokens : List Token} {w left right brace before : Token}
    {isBody : List Stmt → Prop} (found : w.kind = .word "function")
    (opens : left.kind = .mark "(") (closes : right.kind = .mark ")") (enters : brace.kind = .mark "\x7b")
    (output : Read lined line outputChunks outs) (completes : Completes (n + 30) isBody tokens t) :
    ∃ x last' closing,
      primary (n + 34) ⟨w :: left :: right :: brace :: (outs ++ (tokens ++ [t])), before, [[]], false⟩ =
        .ok (x, ⟨[closing, t], last', [[]], false⟩) ∧
      IsOutputFunction isBody x ∧ closing.kind = .mark ")" := by
  obtain ⟨out, array, place, body, spot, shown, place', last', closing, parsed, inside, ends⟩ :
      ∃ out array place body spot shown place' last' closing,
        functionBody (n + 32) [] ⟨brace :: (outs ++ (tokens ++ [t])), right, [[]], false⟩ =
          .ok (.declare false (.name outputName out) (.array [] array) place ::
            (body ++ [.return (.name outputName spot shown) place']),
            ⟨[closing, t], last', [[]], false⟩) ∧
        isBody body ∧ closing.kind = .mark ")" :=
    functionBody_output enters output completes
  refine ⟨_, last', closing, ?_, ⟨⟨[], false, false, [], w.spot, left.spot, w.here, last'.after⟩, out,
    array, place, body, spot, shown, place', rfl, rfl, inside, rfl⟩, ends⟩
  obtain ⟨_, s₁, b₁, h₁, a₁⟩ := w
  obtain ⟨_, s₂, b₂, h₂, a₂⟩ := left
  obtain ⟨_, s₃, b₃, h₃, a₃⟩ := right
  cases found
  cases opens
  cases closes
  have rest : functionRest (n + 33) ⟨.word "function", s₁, b₁, h₁, a₁⟩ [] false
      ⟨⟨.mark "(", s₂, b₂, h₂, a₂⟩ :: ⟨.mark ")", s₃, b₃, h₃, a₃⟩ :: brace :: (outs ++ (tokens ++ [t])),
        ⟨.word "function", s₁, b₁, h₁, a₁⟩, [[]], false⟩ = .ok
        ((⟨[], false, false, [], s₁, s₂, h₁, last'.after⟩,
          .declare false (.name outputName out) (.array [] array) place ::
            (body ++ [.return (.name outputName spot shown) place'])),
          ⟨[closing, t], last', [[]], false⟩) := by
    change Except.bind (functionBody (n + 32) [] _) _ = _
    rw [parsed]
    rfl
  change Except.bind (functionRest (n + 33) ⟨.word "function", s₁, b₁, h₁, a₁⟩ [] false
    ⟨⟨.mark "(", s₂, b₂, h₂, a₂⟩ :: ⟨.mark ")", s₃, b₃, h₃, a₃⟩ :: brace :: (outs ++ (tokens ++ [t])),
      ⟨.word "function", s₁, b₁, h₁, a₁⟩, [[]], false⟩) _ = _
  rw [rest]
  rfl

/-- Chunks behind the making of the output that end the function, with some statements in between. -/
structure Finishes (lined : Prop) (isBody : List Stmt → Prop) (chunks : List Chunk) : Prop where
  fits : Fits chunks []
  unbroken : lined → ∀ c ∈ chunks, c.lexeme.breaks = 0
  completes : ∀ {n tokens t}, Read lined 1 chunks tokens → t.kind = .finish → tokens.length + 50 ≤ n →
    Completes n isBody tokens t
  /-- The parenthesis around the function is followed by nothing. -/
  noArrow : ∀ {tokens t}, Read lined 1 chunks tokens → t.kind = .finish →
    closesBeforeArrow 0 (tokens ++ [t]) = false

theorem breaks_headerChunks : ∀ c ∈ headerChunks, c.lexeme.breaks = 0 := by
  simp [headerChunks, Chunk.spaced, Chunk.tight, Lexeme.breaks]

/-- The code of a function that makes an output and returns it is parsed to this function, as the value of
the one statement. -/
theorem parse_output {isBody : List Stmt → Prop} {chunks : List Chunk} (finishes : Finishes lined isBody chunks)
    {code : Text} (spells : spelled (headerChunks ++ chunks) = code) :
    ∃ x spot, parse code = .ok [.expr x spot] ∧ IsOutputFunction isBody x := by
  obtain ⟨tokens, finish, lexed, read, ends⟩ := lex_spelled (headerChunks ++ chunks)
    ((fits_append _ _ _).2 ⟨fits_headerChunks _, finishes.fits⟩)
    fun known => List.forall_mem_append.2 ⟨breaks_headerChunks, finishes.unbroken known⟩
  rw [spells] at lexed
  obtain ⟨outer, _, rfl, opens, -, -, read⟩ := read
  obtain ⟨w, _, rfl, found, -, -, read⟩ := read
  obtain ⟨left, _, rfl, opens', -, -, read⟩ := read
  obtain ⟨right, _, rfl, closes, -, -, read⟩ := read
  obtain ⟨brace, _, rfl, enters, -, -, read⟩ := read
  obtain ⟨outs, body, rfl, output, read⟩ := read_append (a := outputChunks) read
  have whole : outer :: w :: left :: right :: brace :: (outs ++ body) ++ [finish] =
      outer :: w :: left :: right :: brace :: (outs ++ (body ++ [finish])) := by simp
  obtain ⟨m, fuel, enough⟩ : ∃ m, 20 * (lex code).length + 40 = m + 52 ∧ body.length + 50 ≤ m + 30 := by
    refine ⟨20 * (lex code).length - 12, ?_⟩
    rw [lexed, whole]
    simp only [List.length_cons, List.length_append]
    omega
  obtain ⟨x, last', closing, parsed, isFunction, ends'⟩ :
      ∃ x last' closing,
        primary (m + 34) ⟨w :: left :: right :: brace :: (outs ++ (body ++ [finish])), outer, [[]],
          false⟩ = .ok (x, ⟨[closing, finish], last', [[]], false⟩) ∧
        IsOutputFunction isBody x ∧ closing.kind = .mark ")" :=
    primary_output found opens' closes enters output (finishes.completes read ends enough)
  have inner := assignment_of_called found (by rw [Token.isWord, found]; decide) (.inl ends')
    (isMark_of_mark opens' _) (called_of_primary (.inl (.inl ends')) parsed)
  have noArrow : closesBeforeArrow 0 (w :: left :: right :: brace :: (outs ++ (body ++ [finish]))) =
      false := by
    rw [closesBeforeArrow_other (isMark_of_word found _) (isMark_of_word found _),
      closesBeforeArrow_opening (isMark_of_mark opens' _),
      closesBeforeArrow_closing (isMark_of_mark closes _) (isMark_of_mark closes _),
      closesBeforeArrow_other (isMark_of_mark enters _) (isMark_of_mark enters _),
      closesBeforeArrow_level output (rfl : level 0 outputChunks = some 0)]
    exact finishes.noArrow read ends
  have outermost : assignment (m + 48) ⟨outer :: w :: left :: right :: brace ::
      (outs ++ (body ++ [finish])), .missing, [[]], false⟩ = _ :=
    assignment_of_parenthesis opens noArrow (.inr (.inr (.inr ends)))
      (primary_parenthesis opens ends' (isMark_of_word found _) inner)
  obtain ⟨_, s₂, b₂, h₂, a₂⟩ := finish
  cases ends
  have first : listedStatement (m + 51) ⟨outer :: w :: left :: right :: brace ::
      (outs ++ (body ++ [⟨.finish, s₂, b₂, h₂, a₂⟩])), .missing, [[]], false⟩ = .ok
      ([.expr x outer.spot], ⟨[⟨.finish, s₂, b₂, h₂, a₂⟩], closing, [[]], false⟩) := by
    obtain ⟨_, s₁, b₁, h₁, a₁⟩ := outer
    cases opens
    change Except.bind (Except.bind (assignment (m + 48) _) _) _ = _
    rw [outermost]
    rfl
  have more : (outer.isMark "\x7d" || outer.isFinish) = false := by
    rw [isMark_of_mark opens, Token.isFinish, opens]
    rfl
  have all : statements (m + 52) ⟨outer :: w :: left :: right :: brace ::
      (outs ++ (body ++ [⟨.finish, s₂, b₂, h₂, a₂⟩])), .missing, [[]], false⟩ = .ok
      ([.expr x outer.spot], ⟨[⟨.finish, s₂, b₂, h₂, a₂⟩], closing, [[]], false⟩) :=
    statements_cons more first (statements_over rfl)
  refine ⟨x, outer.spot, ?_, isFunction⟩
  change Except.map _ (Except.bind (statements (20 * (lex code).length + 40)
    ⟨lex code, .missing, [[]], false⟩) _) = _
  rw [fuel, lexed, whole, all]
  rfl

theorem breaks_of_mem (chunks : List Chunk)
    (only : ∀ d ∈ spelled chunks, d.isLineEnd = true → d = 0x0A ∨ d = 0x0D) :
    ∀ c ∈ chunks, c.lexeme.breaks = 0 := by
  rintro ⟨gap, breaks, lexeme⟩ member
  cases lexeme with
  | word | mark => rfl
  | quoted t =>
    refine List.countP_eq_zero.2 fun d inside ends => ?_
    have visible := Text.le_of_mem_quoted t d inside
    rcases only d (List.mem_flatMap.2 ⟨_, member, List.mem_append_right _ inside⟩) ends with rfl | rfl
    · exact absurd visible (by decide)
    · exact absurd visible (by decide)

/-- The code of a program is parsed to its function, as the value of the one statement. The lines of its
statements are known if each instruction keeps to one. -/
theorem parse_code (p : Program) (legible : ∀ i ∈ p.instructions, i.Legible) :
    ∃ x spot, parse p.code = .ok [.expr x spot] ∧
      IsOutputFunction (IsBody (∀ i ∈ p.instructions, i.OnOneLine) 2 p.instructions) x := by
  have code := spelled_programChunks p legible
  have finishes : Finishes (∀ i ∈ p.instructions, i.OnOneLine)
      (IsBody (∀ i ∈ p.instructions, i.OnOneLine) 2 p.instructions) (bodyChunks [0x0A] 1 p.instructions) := by
    refine ⟨fits_bodyChunks _ _ _ gap_newline legible, fun single c member => ?_,
      fun read _ enough _ => statements_body read legible enough,
      fun read ends => closesBeforeArrow_body read legible ends⟩
    refine breaks_of_mem (programChunks p) (fun d inside => ?_) c (List.mem_append_right _ member)
    rw [code] at inside
    exact Program.of_isLineEnd_of_mem_code single inside
  exact parse_output finishes code

end

end LineTemplate.Script
