/-!
# How much is logged

* `Level.ofName?` reads the name of a level in any case; `warning` is a second name of `warn`.
* `Level.covers` says which events a level lets through.
-/

namespace Roster.Log

/-- The weight of an event, from the lightest on. -/
inductive Level
  | trace
  | debug
  | info
  | warn
  | error
deriving DecidableEq

namespace Level

/-- The rank of a level. -/
def rank : Level → Nat
  | trace => 0
  | debug => 1
  | info => 2
  | warn => 3
  | error => 4

/-- Whether events of the level `event` are let through. -/
def covers (least event : Level) : Bool := least.rank ≤ event.rank

/-- The name of a level as it is logged. -/
def name : Level → String
  | trace => "TRACE"
  | debug => "DEBUG"
  | info => "INFO"
  | warn => "WARN"
  | error => "ERROR"

/-- The level with a name. -/
def ofName? (text : String) : Option Level :=
  match text.toLower with
  | "trace" => some trace
  | "debug" => some debug
  | "info" => some info
  | "warn" => some warn
  | "warning" => some warn
  | "error" => some error
  | _ => none

/-- What is wrong with a text that names no level. -/
def unknown (text : String) : String := s!"Invalid log level: {text}"

end Level

end Roster.Log
