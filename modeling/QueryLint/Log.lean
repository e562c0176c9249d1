/-!
# Log entries

What the parts of the analysis note down while they work. Entries are values, in
the order in which they arise.
-/

namespace QueryLint

inductive LogLevel where
  | debug
  | info
  | warning
  | error
deriving DecidableEq

namespace LogLevel

def label : LogLevel → String
  | debug => "DEBUG"
  | info => "INFO"
  | warning => "WARNING"
  | error => "ERROR"

end LogLevel

/-- The part of the analysis that writes an entry. -/
inductive LogSource where
  | reading
  | resolution
  | grammar
  | rules
  | engine
deriving DecidableEq

structure LogEntry where
  level : LogLevel
  source : LogSource
  message : String
deriving DecidableEq

end QueryLint
