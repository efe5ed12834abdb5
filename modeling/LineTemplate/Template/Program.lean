import LineTemplate.Template.Field

/-!
Programs. A program lists the instructions of a template, one for each line of generated code, and
says of each instruction where it comes from: a line of the template itself, or the instruction of
an included template's own program.
-/

set_option autoImplicit false

namespace LineTemplate

inductive Boundary where
  | opening
  | closing
deriving DecidableEq, Repr

inductive Instruction where
  /-- Emits a fixed line. -/
  | literal (text : Text)
  /-- Emits one line of literal text and converted expressions. -/
  | fields (indent : Text) (segments : List Segment) (trailing : Text)
  /-- Emits a line for each element of a sequence. -/
  | list (expression indent : Text)
  /-- Code copied from the template. -/
  | statement (code : Text)
  /-- A comment at an end of a spliced template. -/
  | marker (boundary : Boundary) (name : Text)
deriving DecidableEq, Repr

/-- Where an instruction comes from. Line numbers and indices are integers, because a program may be
given from outside and its records may point anywhere. -/
inductive Origin where
  /-- A line of the program's own template, counted from one. -/
  | line (number : Int)
  /-- The inclusion record at this index. -/
  | included (name : Text) (inclusion : Int)
deriving DecidableEq, Repr

/-- One inclusion: its name, the line of the including template, the index of the first spliced
instruction, and the program of the included template. -/
structure Inclusion (P : Type) where
  name : Text
  program : P
  atLine : Int
  firstIndex : Int

structure Program where
  name : Text
  sourceLines : List Text
  instructions : List Instruction
  /-- One origin for each instruction. -/
  sourceMap : List Origin
  inclusions : List (Inclusion Program)
  /-- Whether the template ended with a newline; the last instruction is then its terminator. -/
  endsWithNewline : Bool

instance : Inhabited Program := ⟨[], [], [], [], [], false⟩

/-- The element at an index that may be negative. -/
def elementAt? {α : Type} (xs : List α) (i : Int) : Option α := if i < 0 then none else xs[i.toNat]?

def topLevelName : Text := "user template"

end LineTemplate
