/-!
# PathSeal.Log

Structured log events. An event has a level, the part of the program it comes
from, a message and named fields. It may happen within spans, which stand for
operations under way and have names and fields of their own.
-/

namespace PathSeal.Log

/-- How grave an event is, the gravest first. -/
inductive Level where
  | error
  | warn
  | info
  | debug
  | trace
deriving DecidableEq

namespace Level

/-- The name of a level in the log. -/
def name : Level → String
  | error => "ERROR"
  | warn => "WARN"
  | info => "INFO"
  | debug => "DEBUG"
  | trace => "TRACE"

/-- The position in the order of gravity, the gravest lowest. -/
def rank : Level → Nat
  | error => 1
  | warn => 2
  | info => 3
  | debug => 4
  | trace => 5

end Level

/-- The value of a field: a number, or a text. -/
inductive Value where
  | count (n : Nat)
  | text (s : String)
deriving DecidableEq

/-- An operation under way. -/
structure Span where
  name : String
  level : Level
  /-- The part of the program that does it. -/
  target : String
  fields : List (String × Value)
deriving DecidableEq

/-- A log event. -/
structure Event where
  level : Level
  /-- The part of the program that the event comes from. -/
  target : String
  message : String
  fields : List (String × Value)
  /-- The operations that the event is part of. -/
  within : List Span := []
deriving DecidableEq

end PathSeal.Log
