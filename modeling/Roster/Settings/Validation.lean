import Roster.Settings.Basic
import Roster.Address.Seed
import Roster.Log.Level

/-!
# Checking settings

`Settings.problems` lists everything that is wrong with settings, in a fixed order: the times,
the seeds one by one, then the logging.
-/

namespace Roster

/-- What can be wrong with settings. -/
inductive Problem
  | zeroTimeout
  | zeroInterval
  | zeroGossipAge
  | badSeed (seed : String) (fault : Address.Fault)
  | unknownLevel (level : String)
  | unknownFormat (format : String)
deriving DecidableEq

/-- The text that explains a problem. -/
def Problem.message : Problem → String
  | zeroTimeout => "cluster.request_timeout_ms must be greater than zero"
  | zeroInterval => "cluster.watch_interval_ms must be greater than zero"
  | zeroGossipAge => "cluster.gossip_max_age_secs must be greater than zero when set"
  | badSeed seed fault =>
    let reason := fault.message
    s!"cluster.seeds: invalid address '{seed}': {reason}"
  | unknownLevel level => s!"logging.level: unknown level '{level}'"
  | unknownFormat format => s!"logging.format must be 'json' or 'pretty', got '{format}'"

/-- What is wrong with one seed. -/
def seedProblem? (seed : String) : Option Problem :=
  match Address.readSeed seed with
  | .ok _ => none
  | .error f => some (.badSeed seed f)

/-- What is wrong with the settings of a cluster. -/
def ClusterSettings.problems (s : ClusterSettings) : List Problem :=
  (if s.requestTimeoutMs = 0 then [.zeroTimeout] else []) ++
    (if s.watchIntervalMs = 0 then [.zeroInterval] else []) ++
    (if s.gossipMaxAgeSecs = some 0 then [.zeroGossipAge] else []) ++
    s.seeds.filterMap seedProblem?

/-- What is wrong with the settings of the logging. -/
def LoggingSettings.problems (s : LoggingSettings) : List Problem :=
  (if (Log.Level.ofName? s.level).isNone then [.unknownLevel s.level] else []) ++
    (if s.format = "json" ∨ s.format = "pretty" then [] else [.unknownFormat s.format])

/-- Everything that is wrong with settings. -/
def Settings.problems (s : Settings) : List Problem := s.cluster.problems ++ s.logging.problems

end Roster
