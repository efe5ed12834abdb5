import LineTemplate.Text.Basic

/-!
The levels of log entries, from the least to the most urgent.
-/

set_option autoImplicit false

namespace LineTemplate

inductive LogLevel where
  | debug
  | info
  | warn
  | error
deriving DecidableEq, Repr

namespace LogLevel

def rank : LogLevel → Nat
  | .debug => 0
  | .info => 1
  | .warn => 2
  | .error => 3

def name : LogLevel → Text
  | .debug => "debug"
  | .info => "info"
  | .warn => "warn"
  | .error => "error"

def all : List LogLevel := [.debug, .info, .warn, .error]

def ofName? (t : Text) : Option LogLevel := all.find? fun level => level.name = t

end LogLevel

end LineTemplate
