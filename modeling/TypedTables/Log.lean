/-!
# Logs

What a batch tells while it runs.
-/

namespace TypedTables

/-- How important a line of a log is, most important first. -/
inductive LogLevel where
  | error
  | warn
  | info
  | debug
  | trace
deriving DecidableEq, Repr

namespace LogLevel

def name : LogLevel → String
  | error => "ERROR"
  | warn => "WARN"
  | info => "INFO"
  | debug => "DEBUG"
  | trace => "TRACE"

/-- The position of a level, counted from the most important. -/
def rank : LogLevel → Nat
  | error => 0
  | warn => 1
  | info => 2
  | debug => 3
  | trace => 4

end LogLevel

/-- A line of a log. -/
structure LogLine where
  level : LogLevel
  message : String
deriving DecidableEq, Repr

end TypedTables
