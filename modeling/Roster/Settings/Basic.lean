import Roster.Duration
import Roster.Selector

/-!
# Settings

The settings of a program that keeps a pool: how it finds and watches the members of a cluster,
and how it logs. Every setting has a default.
-/

namespace Roster

/-- How the members of a cluster are found and watched. -/
structure ClusterSettings where
  /-- The addresses to start from. -/
  seeds : List String := []
  /-- How long one answer may take, in milliseconds. -/
  requestTimeoutMs : Nat := 5000
  /-- The time from one pass of the watch to the next, in milliseconds. -/
  watchIntervalMs : Nat := 30000
  /-- Whether members are learned from what other members list. -/
  discover : Bool := true
  /-- Whether the watch runs. -/
  watch : Bool := true
  /-- How old a report may be that vouches for a member, in seconds; without one, reports are
  not asked for. -/
  gossipMaxAgeSecs : Option Nat := none
  /-- How the member to ask is picked. -/
  selection : Strategy := .random
deriving DecidableEq

namespace ClusterSettings

/-- How long one answer may take. -/
def requestTimeout (s : ClusterSettings) : Duration := .ofMillis s.requestTimeoutMs

/-- The time from one pass of the watch to the next. -/
def watchInterval (s : ClusterSettings) : Duration := .ofMillis s.watchIntervalMs

/-- How old a report may be that vouches for a member. -/
def gossipMaxAge? (s : ClusterSettings) : Option Duration :=
  s.gossipMaxAgeSecs.map .ofSeconds

end ClusterSettings

/-- How the program logs. -/
structure LoggingSettings where
  level : String := "info"
  format : String := "pretty"
  filePath : Option String := none
deriving DecidableEq

/-- The settings of the program. -/
structure Settings where
  cluster : ClusterSettings := {}
  logging : LoggingSettings := {}
deriving DecidableEq

end Roster
