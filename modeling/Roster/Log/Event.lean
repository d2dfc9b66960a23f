import Roster.Json.Value
import Roster.Log.Level

/-!
# Events that are logged

An event has a level, says where in the program it arose, and carries a message and details.

* `Event.jsonLine` writes an event as one flat JSON object, the details sorted by name.
* `Event.plainLine` writes it as words, the details in the order in which they were given.
* `Event.coloredLine` is the same with colors, for a terminal.
-/

namespace Roster.Log

/-- What a detail of an event can be. -/
inductive Detail
  | text (s : String)
  | number (n : Nat)
deriving DecidableEq

/-- The text of a detail. -/
def Detail.word : Detail → String
  | text s => s
  | number n => String.ofList (Text.decimal n)

/-- The data of a detail. -/
def Detail.json : Detail → Json.Value
  | text s => .ofString s
  | number n => .ofNat n

/-- Something worth noting. -/
structure Event where
  level : Level
  /-- The part of the program where it arose. -/
  target : String
  message : String
  details : List (String × Detail)
deriving DecidableEq

namespace Event

/-- Whether one name stands in front of another. -/
def byName (x y : String × Detail) : Bool := !decide (y.1 < x.1)

/-- The data of an event that was noted at a time, which is written as it is given. -/
def json (e : Event) (time : String) : Json.Value :=
  let details := (("message", Detail.text e.message) :: e.details).mergeSort byName
  .table (("timestamp".toList, .ofString time) :: ("level".toList, .ofString e.level.name) ::
    (details.map fun d => (d.1.toList, d.2.json)) ++ [("target".toList, .ofString e.target)])

/-- An event as a JSON object. -/
def jsonLine (e : Event) (time : String) : String := String.ofList (e.json time).compact

/-- The name of a level at the width of the longest one. -/
def paddedLevel (l : Level) : String := if l.name.length < 5 then s!" {l.name}" else l.name

/-- The details of an event in words. -/
def words (e : Event) : List String :=
  e.details.map fun (name, d) => s!"{name}={d.word}"

/-- An event in words, without its time. -/
def plainText (e : Event) : String :=
  " ".intercalate (paddedLevel e.level :: e.message :: e.words)

/-- An event in words. -/
def plainLine (e : Event) (time : String) : String := s!"{time} {e.plainText}"

/-- The color of a level on a terminal. -/
def color : Level → String
  | .trace => "35"
  | .debug => "34"
  | .info => "32"
  | .warn => "33"
  | .error => "31"

/-- A text on a terminal in a color or style. -/
def styled (style text : String) : String := s!"\x1b[{style}m{text}\x1b[0m"

/-- An event in words and colors. -/
def coloredLine (e : Event) (time : String) : String :=
  let level := styled (color e.level) (paddedLevel e.level)
  let words := e.details.map fun (name, d) => styled "3" name ++ styled "2" "=" ++ d.word
  " ".intercalate (styled "2" time :: level :: e.message :: words)

end Event

end Roster.Log
