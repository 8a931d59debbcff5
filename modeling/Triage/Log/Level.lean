/-!
# Levels of log messages
-/

namespace Triage.Log

/-- How important a message is, or from where on messages are shown. -/
inductive Level where
  | trace
  | debug
  | info
  | warn
  | error
  | off
deriving DecidableEq, Repr

namespace Level

/-- The name of the level. -/
def name : Level → String
  | trace => "trace"
  | debug => "debug"
  | info => "info"
  | warn => "warn"
  | error => "error"
  | off => "off"

/-- The level that repeated requests for more detail ask for. -/
def ofVerbosity (verbosity : Nat) : Level :=
  match verbosity with
  | 0 => warn
  | 1 => info
  | 2 => debug
  | _ => trace

/-- The place of the level among the others. -/
def rank : Level → Nat
  | trace => 0
  | debug => 1
  | info => 2
  | warn => 3
  | error => 4
  | off => 5

/-- A log at the first level shows messages of the second. -/
def shows (shown level : Level) : Bool := shown.rank ≤ level.rank

end Level

end Triage.Log
