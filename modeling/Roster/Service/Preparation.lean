import Roster.CommandLine
import Roster.Settings.Loading

/-!
# What a service needs before it starts

* `Settings.withSeeds` adds addresses to start from.
* `Service.prepare` finds the settings of a run.
* `Service.Trouble` is what can end a run early.
-/

namespace Roster

namespace Service

/-- What ends a run early. -/
inductive Trouble
  | settings (fault : Settings.StartFault)
  | badSeed (seed : String) (fault : Address.Fault)
  | noSeeds
  | unknownLevel (level : String)
  | noLog (path reason : String)
  | noPool (failure : Failure)
deriving DecidableEq

/-- The text that explains what ended a run. -/
def Trouble.message : Trouble → String
  | settings fault => fault.message
  | badSeed seed fault =>
    let reason := fault.message
    s!"Invalid --seed '{seed}': {reason}"
  | noSeeds => "No seeds configured; pass --seed or set cluster.seeds / STRATA_CLUSTER__SEEDS"
  | unknownLevel level => Log.Level.unknown level
  | noLog path reason => s!"Failed to open log file {path}: {reason}"
  | noPool failure =>
    let reason := failure.message
    s!"Bootstrap failed: {reason}"

end Service

namespace Settings

/-- Adds an address to start from, unless it is there in the same words. -/
def withSeed (s : Settings) (seed : String) : Except Service.Trouble Settings :=
  match Address.readSeed seed with
  | .error f => .error (.badSeed seed f)
  | .ok _ =>
    if s.cluster.seeds.contains seed then .ok s
    else .ok { s with cluster := { s.cluster with seeds := s.cluster.seeds ++ [seed] } }

/-- Adds addresses to start from, in their order. -/
def withSeeds (s : Settings) (seeds : List String) : Except Service.Trouble Settings :=
  seeds.foldlM withSeed s

end Settings

namespace Service

/-- What is told before a run starts, and the settings of the run. -/
structure Preparation where
  told : List String
  result : Except Trouble Settings

/-- The settings with which a run can start: there is an address to start from. -/
def requireSeeds (s : Settings) : Except Trouble Settings :=
  if s.cluster.seeds.isEmpty then .error .noSeeds else .ok s

/-- Finds the settings of a run. -/
def prepare (s : Settings.Surroundings) (o : Options) : Preparation :=
  let found := Settings.find s o.config
  ⟨found.told, do
    let settings ← found.result.mapError Trouble.settings
    requireSeeds (← settings.withSeeds o.seeds)⟩

end Service

end Roster
