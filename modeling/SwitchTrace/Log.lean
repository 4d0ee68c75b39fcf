/-!
# Log lines

Operations that have something to tell beside their answer return it as lines of a log, in the
order in which they arose.

## Main definitions

* `LogLevel`, `LogLine` — a line and how much it matters.
-/

namespace SwitchTrace

/-- How much a line of the log matters. -/
inductive LogLevel
  | debug
  | info
  | warning
  | error
deriving DecidableEq, Repr

namespace LogLevel

/-- The name of a level. -/
def name : LogLevel → String
  | .debug => "DEBUG"
  | .info => "INFO"
  | .warning => "WARNING"
  | .error => "ERROR"

/-- The levels as numbers, ten apart. -/
def rank : LogLevel → Nat
  | .debug => 10
  | .info => 20
  | .warning => 30
  | .error => 40

end LogLevel

/-- A line of the log. -/
structure LogLine where
  level : LogLevel
  text : String
deriving DecidableEq, Repr

end SwitchTrace
