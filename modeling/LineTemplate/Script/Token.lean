import LineTemplate.Text.Basic

/-!
Tokens of the script language. A token knows its place and whether a line ends between it and the
token before it; both matter to the grammar and to error reports. It also keeps the code around it,
from which the text of a function is cut.
-/

set_option autoImplicit false

namespace LineTemplate.Script

inductive TokenKind where
  /-- A name or a reserved word. -/
  | word (name : Text)
  | number (value : Float)
  /-- A quoted text, with its escapes resolved. -/
  | text (value : Text)
  | mark (symbol : Text)
  /-- The first stretch of a text with expressions in it; `more` if an expression follows. -/
  | templateStart (value : Text) (more : Bool)
  /-- A later stretch of such a text. -/
  | templateNext (value : Text) (more : Bool)
  /-- Something that starts no token. Nothing after it is read. -/
  | invalid
  /-- The end of the code. -/
  | finish

/-- A place in code: a token by its number, and the line it starts on, counted from one. -/
structure Spot where
  token : Nat
  line : Nat
deriving DecidableEq, Repr, Inhabited

structure Token where
  kind : TokenKind
  spot : Spot
  afterBreak : Bool
  /-- The code from this token on. -/
  here : Text
  /-- The code after this token. -/
  after : Text

namespace Token

def missing : Token := ⟨.finish, ⟨0, 0⟩, false, [], []⟩

def isMark (t : Token) (symbol : Text) : Bool :=
  match t.kind with
  | .mark s => s == symbol
  | _ => false

def isWord (t : Token) (name : Text) : Bool :=
  match t.kind with
  | .word n => n == name
  | _ => false

def isFinish (t : Token) : Bool :=
  match t.kind with
  | .finish => true
  | _ => false

end Token

def reservedWords : List Text :=
  List.map Text.ofString ["break", "case", "catch", "class", "const", "continue", "debugger",
    "default", "delete", "do", "else", "enum", "export", "extends", "false", "finally", "for",
    "function", "if", "import", "in", "instanceof", "new", "null", "return", "super", "switch", "this",
    "throw", "true", "try", "typeof", "var", "void", "while", "with"]

def isName (word : Text) : Bool := !reservedWords.contains word

end LineTemplate.Script
