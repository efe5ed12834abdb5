import LineTemplate.Template.Quoting

/-!
Fields inside a text line. The line is read from left to right as literal text, backslashes and a
token, over and over. A standard token runs from `$(` to the parenthesis that matches; an opening
whose parenthesis never closes is literal text, and the search goes on after it. An alternate token
runs from a left guillemet to the next right one.
-/

set_option autoImplicit false

namespace LineTemplate

inductive DelimiterStyle where
  | standard
  | alternate
deriving DecidableEq, Repr

/-- Literal text and the expression of the field after it. The expression is absent when the field
is empty or escaped; an escaped token is part of the text. -/
structure Segment where
  lead : Text
  expression : Option Text
deriving DecidableEq, Repr

structure TokenizedLine where
  segments : List Segment
  trailing : Text
deriving DecidableEq, Repr

namespace TokenizedLine

def matched (t : TokenizedLine) : Bool := !t.segments.isEmpty

end TokenizedLine

/-- A line cut at its first token: the text before it, its expression and the text after it. -/
structure TokenCut where
  before : Text
  expression : Text
  after : Text
deriving DecidableEq, Repr

namespace DelimiterStyle

def leftMark : CodeUnit := 0xAB

def rightMark : CodeUnit := 0xBB

def token : DelimiterStyle → Text → Text
  | .standard, e => ("$(" : Text) ++ e ++ (")" : Text)
  | .alternate, e => [leftMark] ++ e ++ [rightMark]

/-- Cuts a text at the parenthesis that closes the one before it, with `depth` more opened since. -/
def untilClosed? (depth : Nat) : Text → Option (Text × Text)
  | [] => none
  | c :: rest =>
    if c = '(' then (untilClosed? (depth + 1) rest).map fun (inner, after) => (c :: inner, after)
    else if c = ')' then
      match depth with
      | 0 => some ([], rest)
      | d + 1 => (untilClosed? d rest).map fun (inner, after) => (c :: inner, after)
    else (untilClosed? depth rest).map fun (inner, after) => (c :: inner, after)

def untilMark? : Text → Option (Text × Text)
  | [] => none
  | c :: rest =>
    if c = rightMark then some ([], rest)
    else (untilMark? rest).map fun (inner, after) => (c :: inner, after)

def tokenHere? : DelimiterStyle → Text → Option (Text × Text)
  | .standard, dollar :: opening :: rest =>
    if dollar = '$' ∧ opening = '(' then untilClosed? 0 rest else none
  | .alternate, c :: rest => if c = leftMark then untilMark? rest else none
  | _, _ => none

def cut? (style : DelimiterStyle) : Text → Option TokenCut
  | [] => none
  | c :: rest =>
    match style.tokenHere? (c :: rest) with
    | some (expression, after) => some ⟨[], expression, after⟩
    | none => (cut? style rest).map fun cut => { cut with before := c :: cut.before }

theorem untilClosed?_length (depth : Nat) (t inner after : Text)
    (h : untilClosed? depth t = some (inner, after)) : after.length < t.length := by
  induction t generalizing depth inner after with
  | nil => simp [untilClosed?] at h
  | cons c rest ih =>
    unfold untilClosed? at h
    split at h
    · obtain ⟨⟨i, a⟩, found, same⟩ := Option.map_eq_some_iff.1 h
      cases same
      exact Nat.lt_succ_of_lt (ih _ _ _ found)
    · split at h
      · cases depth with
        | zero => simp at h; simp [h.2]
        | succ d =>
          obtain ⟨⟨i, a⟩, found, same⟩ := Option.map_eq_some_iff.1 h
          cases same
          exact Nat.lt_succ_of_lt (ih _ _ _ found)
      · obtain ⟨⟨i, a⟩, found, same⟩ := Option.map_eq_some_iff.1 h
        cases same
        exact Nat.lt_succ_of_lt (ih _ _ _ found)

theorem untilMark?_length (t inner after : Text) (h : untilMark? t = some (inner, after)) :
    after.length < t.length := by
  induction t generalizing inner after with
  | nil => simp [untilMark?] at h
  | cons c rest ih =>
    unfold untilMark? at h
    split at h
    · simp at h; simp [h.2]
    · obtain ⟨⟨i, a⟩, found, same⟩ := Option.map_eq_some_iff.1 h
      cases same
      exact Nat.lt_succ_of_lt (ih _ _ found)

theorem tokenHere?_length (style : DelimiterStyle) (t inner after : Text)
    (h : style.tokenHere? t = some (inner, after)) : after.length < t.length := by
  cases style with
  | standard =>
    match t, h with
    | dollar :: opening :: rest, h =>
      simp only [tokenHere?] at h
      split at h
      · have := untilClosed?_length _ _ _ _ h
        simp only [List.length_cons]
        omega
      · simp at h
  | alternate =>
    match t, h with
    | c :: rest, h =>
      simp only [tokenHere?] at h
      split at h
      · exact Nat.lt_succ_of_lt (untilMark?_length _ _ _ h)
      · simp at h

theorem cut?_length (style : DelimiterStyle) (t : Text) (cut : TokenCut)
    (h : style.cut? t = some cut) : cut.after.length < t.length := by
  induction t generalizing cut with
  | nil => simp [cut?] at h
  | cons c rest ih =>
    unfold cut? at h
    split at h
    · rename_i found
      cases h
      exact tokenHere?_length style _ _ _ found
    · obtain ⟨inner, found, same⟩ := Option.map_eq_some_iff.1 h
      subst same
      exact Nat.lt_succ_of_lt (ih inner found)

end DelimiterStyle

/-- The segment of a cut: the backslashes before the token are halved, and an odd run of them turns
the token into text. -/
def Segment.ofCut (style : DelimiterStyle) (cut : TokenCut) : Segment :=
  let (literal, run) := Quoting.splitRun cut.before
  let quoting := Quoting.ofRun run
  if quoting.escaped then ⟨literal ++ quoting.literal ++ style.token cut.expression, none⟩
  else if cut.expression.isEmpty then ⟨literal ++ quoting.literal, none⟩
  else ⟨literal ++ quoting.literal, some cut.expression⟩

def TokenizedLine.ofText (style : DelimiterStyle) (line : Text) : TokenizedLine :=
  match h : style.cut? line with
  | none => ⟨[], line⟩
  | some cut =>
    have _shorter := DelimiterStyle.cut?_length style line cut h
    let rest := TokenizedLine.ofText style cut.after
    ⟨Segment.ofCut style cut :: rest.segments, rest.trailing⟩
termination_by line.length
decreasing_by exact _shorter

end LineTemplate
