import Roster.Log.Filter
import Roster.Settings.Basic
import Roster.Settings.Environment

/-!
# How events are logged

A setup is made from settings: which events are logged, where, and in which layout.

* `Setup.ofSettings` is the setup of some settings. A variable may replace their level.
* `Setup.line?` is the line that is logged for an event, if it is let through.
-/

namespace Roster.Log

/-- How an event is written. -/
inductive Layout
  /-- As one JSON object. -/
  | json
  /-- In words. -/
  | plain
  /-- In words and colors. -/
  | colored
deriving DecidableEq

/-- An event that was noted at a time, which is written as it is given. -/
def Layout.line (layout : Layout) (time : String) (e : Event) : String :=
  match layout with
  | json => e.jsonLine time
  | plain => e.plainLine time
  | colored => e.coloredLine time

/-- How events are logged. -/
structure Setup where
  filter : Filter
  layout : Layout
  /-- The file to which lines are added; without one, they are printed. -/
  path : Option String
deriving DecidableEq

namespace Setup

/-- The variable that says which events are logged. -/
def levelVariable : String := "RUST_LOG"

/-- The layout of some settings. There are no colors in a file. -/
def layoutOf (s : LoggingSettings) : Layout :=
  if s.format = "json" then .json else if s.filePath.isSome then .plain else .colored

/-- The setup of some settings, if they name a level. A variable that can be read replaces it. -/
def ofSettings? (env : Settings.Environment) (s : LoggingSettings) : Option Setup :=
  (Level.ofName? s.level).map fun level =>
    let asked := (env.get? levelVariable).bind Filter.ofText?
    ⟨asked.getD (.ofLevel level), layoutOf s, s.filePath⟩

/-- The line that is logged for an event that was noted at a time. -/
def line? (s : Setup) (time : String) (e : Event) : Option String :=
  if s.filter.lets e then some (s.layout.line time e) else none

end Setup

end Roster.Log
