import ChangeApply.Log.Event

set_option autoImplicit false

namespace ChangeApply.Log

inductive Verbosity where
  | off
  | error
  | warn
  | info
  | debug
  | trace
deriving DecidableEq

namespace Verbosity

def rank : Verbosity → Nat
  | .off => 0
  | .error => 1
  | .warn => 2
  | .info => 3
  | .debug => 4
  | .trace => 5

def name : Verbosity → String
  | .off => "off"
  | .error => "error"
  | .warn => "warn"
  | .info => "info"
  | .debug => "debug"
  | .trace => "trace"

def all : List Verbosity := [.off, .error, .warn, .info, .debug, .trace]

def parse (text : List Char) : Option Verbosity :=
  match Numeral.read? text with
  | some rank => all.find? fun verbosity => verbosity.rank = rank
  | none => all.find? fun verbosity => text.map Char.toLower = verbosity.name.toList

def admits (verbosity : Verbosity) (level : Level) : Bool := level.rank ≤ verbosity.rank

end Verbosity

end ChangeApply.Log
