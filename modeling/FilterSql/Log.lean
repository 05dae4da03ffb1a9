/-!
# Log entries

What the compiler and the engine tell an operator while they work.
-/

namespace FilterSql

/-- How much an entry matters. -/
inductive Level where
  | trace
  | debug
  | info
  | warn
  | error
  deriving DecidableEq, Repr

def Level.name : Level → String
  | trace => "TRACE"
  | debug => "DEBUG"
  | info => "INFO"
  | warn => "WARN"
  | error => "ERROR"

/-- One entry of the log. -/
structure LogEntry where
  level : Level
  message : String
  /-- The statement that the entry is about. -/
  sql : Option String := none
  deriving DecidableEq, Repr

end FilterSql
