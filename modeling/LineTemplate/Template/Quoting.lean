import LineTemplate.Text.Basic

/-!
Backslashes before a token. A run of `n` of them leaves `n / 2` in the text; an odd run escapes the
token, which is then copied as it stands. Backslashes before anything else are never touched.
-/

set_option autoImplicit false

namespace LineTemplate

namespace CodeUnit

def isBackslash (c : CodeUnit) : Bool := c == '\\'

end CodeUnit

/-- What a run of backslashes means for the token after it. -/
structure Quoting where
  /-- The backslashes that stay. -/
  literal : Text
  /-- Whether the token is copied instead of used. -/
  escaped : Bool
deriving DecidableEq, Repr

namespace Quoting

def backslashes (n : Nat) : Text := List.replicate n '\\'

/-- Only the length of the run counts. -/
def ofRun (run : Text) : Quoting where
  literal := backslashes (run.length / 2)
  escaped := run.length % 2 == 1

/-- The number of backslashes right before position `stop`, back to `start` at the furthest. -/
def runBefore (t : Text) (stop start : Nat) : Nat :=
  if t.length < stop then 0
  else (((t.take stop).drop start).reverse.takeWhile CodeUnit.isBackslash).length

def splitRun (t : Text) : Text × Text := t.splitEnd CodeUnit.isBackslash

end Quoting

end LineTemplate
