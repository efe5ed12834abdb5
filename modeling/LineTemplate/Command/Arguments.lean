import LineTemplate.ErrorReport
import LineTemplate.Members

/-!
The arguments of the command. An option has a name of its own after two dashes, and may have a letter
after one; its value follows after an equals sign or as the next argument. The last of repeated
options counts.
-/

set_option autoImplicit false

namespace LineTemplate

structure Arguments where
  texts : Members Text
  flags : List Text

inductive ArgumentFault where
  /-- An option as it was written. -/
  | unknown (written : Text)
  | positional (argument : Text)
  | missing (name : Text)
  /-- A flag, by its names, has a value. -/
  | noValue (names : Text)
  /-- The value of an option looks like an option. -/
  | ambiguous (name : Text)
deriving DecidableEq, Repr

namespace ArgumentFault

def message : ArgumentFault → Text
  | .unknown written => ("Unknown option '" : Text) ++ written ++ ("'" : Text)
  | .positional argument =>
    ("Unexpected argument '" : Text) ++ argument ++
      ("'. This command does not take positional arguments" : Text)
  | .missing name =>
    ("Option '--" : Text) ++ name ++ (" <value>' argument missing" : Text)
  | .noValue names => ("Option '" : Text) ++ names ++ ("' does not take an argument" : Text)
  | .ambiguous name =>
    let quoted : Text := ("'--" : Text) ++ name ++ ("'" : Text)
    ("Option " : Text) ++ quoted ++ (" argument is ambiguous.\n" : Text) ++
      ("Did you forget to specify the option argument for " : Text) ++ quoted ++ ("?\n" : Text) ++
      ("To specify an option argument starting with a dash use '--" : Text) ++ name ++
      ("=-XYZ'." : Text)

end ArgumentFault

inductive ArgumentToken where
  | option (name written : Text) (value : Option Text) (attached : Bool)
  | positional (argument : Text)
deriving DecidableEq, Repr

namespace Arguments

def textOptions : List Text := List.map Text.ofString ["template", "dir", "vars", "indent"]

def flagOptions : List Text :=
  List.map Text.ofString ["alt-delimiters", "drop-blank-lines", "drop-empty-lines", "show-code",
    "no-color", "json", "help"]

def letters : List (CodeUnit × Text) := [(0x68, "help")]

def empty : Arguments := ⟨[], []⟩

def text? (a : Arguments) (name : Text) : Option Text := a.texts.get? name

def flag (a : Arguments) (name : Text) : Bool := a.flags.contains name

def letterToken (c : CodeUnit) : ArgumentToken :=
  .option ((letters.lookup c).getD [c]) ("-" ++ [c] : Text) none false

/-- An option with its value after the first equals sign. A lone equals sign at the start belongs to
the name. -/
def attachedToken? (name : Text) : Option ArgumentToken :=
  if (name.drop 1).contains '=' then
    let key := name.takeWhile fun (c : CodeUnit) => c != '='
    some (.option key (("--" : Text) ++ key) (some (name.drop (key.length + 1))) true)
  else none

/-- The tokens of the arguments. After two dashes alone, no option follows. -/
def tokens : List Text → List ArgumentToken
  | [] => []
  | argument :: rest =>
    match argument with
    | [] => .positional argument :: tokens rest
    | [_] => .positional argument :: tokens rest
    | a :: b :: after =>
      if a ≠ '-' then .positional argument :: tokens rest
      else if b ≠ '-' then (b :: after).map letterToken ++ tokens rest
      else if after.isEmpty then rest.map .positional
      else
        match attachedToken? after with
        | some token => token :: tokens rest
        | none =>
          if textOptions.contains after then
            match rest with
            | value :: rest => .option after argument (some value) false :: tokens rest
            | [] => [.option after argument none false]
          else .option after argument none false :: tokens rest

def looksLikeOption (value : Text) : Bool := 1 < value.length && value.head? == some '-'

def shownNames (name : Text) : Text :=
  match letters.find? fun l => l.2 = name with
  | some (c, _) => ("-" : Text) ++ [c] ++ (", --" : Text) ++ name
  | none => ("--" : Text) ++ name

def add (a : Arguments) : ArgumentToken → Except ArgumentFault Arguments
  | .positional argument => .error (.positional argument)
  | .option name written value attached =>
    if textOptions.contains name then
      match value with
      | none => .error (.missing name)
      | some t =>
        if !attached && looksLikeOption t then .error (.ambiguous name)
        else .ok { a with texts := a.texts.set name t }
    else if flagOptions.contains name then
      match value with
      | none => .ok { a with flags := a.flags ++ [name] }
      | some _ => .error (.noValue (shownNames name))
    else .error (.unknown written)

def parse (arguments : List Text) : Except ArgumentFault Arguments :=
  (tokens arguments).foldlM add empty

end Arguments

end LineTemplate
