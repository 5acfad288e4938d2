/-!
# Log entries

What an operation tells a log: a level, a message, and fields in order.
-/

namespace Tether.Log

/-- The levels of a log. -/
inductive Level
  | trace
  | debug
  | info
  | warn
  deriving DecidableEq, Repr

/-- The name of a level. -/
def Level.name : Level → String
  | trace => "TRACE"
  | debug => "DEBUG"
  | info => "INFO"
  | warn => "WARN"

/-- An entry of a log. -/
structure Entry where
  level : Level
  message : String
  fields : List (String × String)
  deriving DecidableEq, Repr

namespace Entry

/-- An entry for what is usual. -/
def trace (message : String) (fields : List (String × String)) : Entry := ⟨.trace, message, fields⟩

/-- An entry for what explains a behaviour. -/
def debug (message : String) (fields : List (String × String)) : Entry := ⟨.debug, message, fields⟩

/-- An entry for what an operator wants to know. -/
def info (message : String) (fields : List (String × String)) : Entry := ⟨.info, message, fields⟩

/-- An entry for what went wrong. -/
def warn (message : String) (fields : List (String × String)) : Entry := ⟨.warn, message, fields⟩

/-- The line of an entry. -/
def line (e : Entry) : String :=
  e.fields.foldl (fun line f => s!"{line} {f.1}={f.2}") s!"{e.level.name} {e.message}"

end Entry

end Tether.Log
