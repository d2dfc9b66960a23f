import Roster.Http.Client
import Roster.Log.Setup
import Roster.Pool
import Roster.Record.Json
import Roster.Service.Preparation
import Roster.Text.Visible
import Roster.Watch.Loop

/-!
# A service that watches a cluster

A run finds its settings, sets up a pool, and either lists the members or watches them until it
is interrupted, reporting how many there are.

The watch and the reports are two loops that share nothing but the pool. Here they take turns: a
pass is made as a whole when its tick is due, and a report or an interruption that falls into a pass
waits for its end.

* `Machine` is what a run needs of the machine that it is on.
* `Service.start` is a run up to the moment at which it has a pool.
* `Service.once` lists the members; `Running.beginWatch`, `Running.attend` and `Running.finish`
  are what is done by a run that watches them, `attend` again and again.
-/

namespace Roster

open Log (Event Detail)
open Watch (Timer Loop)

/-- What a run needs of the machine that it is on. -/
structure Machine (m : Type → Type) where
  surroundings : Settings.Surroundings
  /-- The time. -/
  now : m Instant
  /-- The time as it is written into a log. -/
  stamp : m String
  /-- Prints a line. -/
  print : String → m Unit
  /-- Tells a line to whoever started the program. -/
  tell : String → m Unit
  /-- Makes sure that lines can be added to a file, or tells why they cannot. -/
  openLog : String → m (Except String Unit)
  /-- Adds a line to a file. -/
  append : String → String → m Unit
  /-- Asks an address. -/
  fetch : Address → m Http.Outcome

namespace Service

/-! ### What is noted -/

/-- An event of a service. -/
def serviceEvent (level : Log.Level) (message : String) (details : List (String × Detail)) :
    Event :=
  ⟨level, "strata", message, details⟩

/-- What is noted when a service starts. -/
def starting (s : ClusterSettings) : Event :=
  serviceEvent .info "Strata starting" [("seeds", .text (Text.shownList s.seeds))]

/-- What is noted if there is no pool. -/
def noPool (f : Failure) : Event :=
  serviceEvent .error "Failed to bootstrap node pool" [("error", .text f.message)]

/-- What is noted if the members are not watched. -/
def unwatched : Event :=
  serviceEvent .warn
    "Health watch disabled, node status will only change on reported failures" []

/-- What is noted about the members from time to time. -/
def membership (reg : Registry) : List Event :=
  let (active, inactive) := reg.partition
  serviceEvent .info "Cluster membership"
      [("active", .number active.length), ("inactive", .number inactive.length)] ::
    if active.isEmpty then [serviceEvent .warn "No active nodes" []] else []

/-- What is noted when a service is interrupted. -/
def shuttingDown : Event := serviceEvent .info "Shutting down..." []

/-- What is noted last. -/
def stopped : Event := serviceEvent .info "Strata stopped" []

/-! ### What is printed -/

/-- The members as JSON: the active ones and the others. -/
def listing (reg : Registry) : String :=
  let (active, inactive) := reg.partition
  Json.Value.pretty (.table [("active".toList, .list (active.map Record.toJson)),
    ("inactive".toList, .list (inactive.map Record.toJson))])

/-! ### Runs -/

/-- A run that has a pool. -/
structure Running where
  settings : Settings
  log : Log.Setup
  pool : Pool
  ledger : Ledger
  /-- When the members are reported. -/
  reports : Timer
  /-- The loop of the watch, if there is one. -/
  loop : Option Loop

variable {m : Type → Type} [Monad m]

/-- Logs an event. -/
def write (k : Machine m) (log : Log.Setup) (e : Event) : m Unit := do
  match log.line? (← k.stamp) e, log.path with
  | some line, some path => k.append path line
  | some line, none => k.print line
  | none, _ => pure ()

/-- Performs an activity and logs what is noted on the way. Nobody is served by calls. -/
def perform {α : Type} (k : Machine m) (log : Log.Setup) (a : Activity Unit α) :
    StateT Ledger m α :=
  a.runWriting (Http.client k.fetch (write k log) fun _ => pure (.ok ())) (write k log)

/-- Sets up the pool of a run, and notes if that fails. -/
def bootstrap (s : ClusterSettings) : Activity Unit (Except Failure Pool) := do
  Activity.note (starting s)
  match ← Pool.connect s with
  | .ok pool => return .ok pool
  | .error f =>
    Activity.note (noPool f)
    return .error f

/-- The setup of the log of a run, which can be written to. -/
def openLog (k : Machine m) (s : Settings) : m (Except Trouble Log.Setup) := do
  match Log.Setup.ofSettings? k.surroundings.environment s.logging with
  | none => return .error (.unknownLevel s.logging.level)
  | some log =>
    match log.path with
    | none => return .ok log
    | some path =>
      match ← k.openLog path with
      | .ok () => return .ok log
      | .error reason => return .error (.noLog path reason)

/-- A run with some settings up to the moment at which it has a pool. -/
def startWith (k : Machine m) (s : Settings) : m (Except Trouble Running) := do
  match ← openLog k s with
  | .error t => return .error t
  | .ok log =>
    let (r, ledger) ← perform k log (bootstrap s.cluster) (.start (← k.now) s.cluster.selection)
    match r with
    | .error f => return .error (.noPool f)
    | .ok pool => return .ok ⟨s, log, pool, ledger, .start (← k.now) pool.watch.interval, none⟩

/-- A run up to the moment at which it has a pool. -/
def start (k : Machine m) (o : Options) : m (Except Trouble Running) := do
  let preparation := prepare k.surroundings o
  preparation.told.forM k.tell
  match preparation.result with
  | .error t => return .error t
  | .ok s => startWith k s

/-- Tells what ended a run. -/
def complain (k : Machine m) (t : Trouble) : m Unit :=
  let reason := t.message
  k.tell s!"Error: {reason}"

/-- Lists the members. -/
def once (k : Machine m) (r : Running) : m Unit := k.print (listing r.ledger.registry)

/-! ### Watching -/

/-- Notes events. -/
def Running.note (k : Machine m) (r : Running) (es : List Event) : m Running := do
  es.forM (write k r.log)
  return r

/-- Begins to watch the members, if the settings say so. -/
def Running.beginWatch (k : Machine m) (r : Running) : m Running := do
  let now ← k.now
  let interval := r.pool.watch.interval
  let r := { r with reports := .start now interval }
  if r.settings.cluster.watch then
    Running.note k { r with loop := some (.start now interval) } [Watch.started interval]
  else Running.note k r [unwatched]

/-- The moment at which there is something to do. -/
def Running.due (r : Running) : Instant :=
  match r.loop with
  | some loop => min loop.timer.deadline r.reports.deadline
  | none => r.reports.deadline

/-- Reports the members, if that is due. -/
def Running.report (k : Machine m) (r : Running) : m Running := do
  let now ← k.now
  if r.reports.isDue now then
    Running.note k { r with reports := r.reports.tick now } (membership r.ledger.registry)
  else return r

/-- Makes a pass, if that is due. -/
def Running.pass (k : Machine m) (r : Running) : m Running := do
  let now ← k.now
  match r.loop with
  | some loop =>
    if loop.timer.isDue now then
      let (_, ledger) ← perform k r.log r.pool.watch.notedPass { r.ledger with now := now }
      return { r with ledger := ledger, loop := some (loop.beginPass now) }
    else return r
  | none => return r

/-- Does what is due. -/
def Running.attend (k : Machine m) (r : Running) : m Running := do
  Running.pass k (← Running.report k r)

/-- Ends a run that was interrupted. -/
def Running.finish (k : Machine m) (r : Running) : m Unit := do
  let ending := if r.loop.isSome then [Watch.shuttingDown] else []
  let _ ← Running.note k r (shuttingDown :: ending ++ [stopped])

end Service

end Roster
