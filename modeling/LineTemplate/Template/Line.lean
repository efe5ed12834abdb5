import LineTemplate.Template.Quoting
import LineTemplate.Text.Blank

/-!
The kinds of template lines. A line is a statement, an inclusion, a list or text; the first form
that fits decides. Inclusion and list tokens have to be alone on their line, and reach to the last
closing delimiter of the line.
-/

set_option autoImplicit false

namespace LineTemplate

inductive Line where
  /-- Blanks, `@`, then code. -/
  | statement (code : Text)
  /-- Blanks, backslashes, `$<name>`, blanks. -/
  | inclusion (indent backslashes name trailing : Text)
  /-- Blanks, backslashes, the expression between `$` and braces, blanks. -/
  | list (indent backslashes expression trailing : Text)
  /-- Anything else. -/
  | text (content : Text)
deriving DecidableEq, Repr

namespace Line

def inclusionToken (name : Text) : Text := ("$<" : Text) ++ name ++ (">" : Text)

def listToken (expression : Text) : Text := ("$\x7b" : Text) ++ expression ++ ("\x7d" : Text)

/-- The body and the trailing blanks of a text that consists of a body without line ends, the
closing delimiter and blanks. -/
def closedBody? (closing : CodeUnit) (t : Text) : Option (Text × Text) :=
  let (core, trailing) := t.splitEnd CodeUnit.isBlank
  match core.reverse with
  | [] => none
  | last :: body =>
    if last = closing && !body.any CodeUnit.isLineEnd then some (body.reverse, trailing) else none

def ofToken? (indent backslashes : Text) : Text → Option Line
  | dollar :: opening :: rest =>
    if dollar ≠ '$' then none
    else if opening = '<' then
      (closedBody? '>' rest).map fun (name, trailing) => .inclusion indent backslashes name trailing
    else if opening = '\x7b' then
      (closedBody? '\x7d' rest).map fun (expression, trailing) =>
        .list indent backslashes expression trailing
    else none
  | _ => none

def classify (line : Text) : Line :=
  let indent := line.takeWhile CodeUnit.isBlank
  let rest := line.dropWhile CodeUnit.isBlank
  match rest with
  | [] => .text line
  | c :: code =>
    if c = '@' then .statement code
    else
      let backslashes := rest.takeWhile CodeUnit.isBackslash
      (ofToken? indent backslashes (rest.dropWhile CodeUnit.isBackslash)).getD (.text line)

end Line

end LineTemplate
