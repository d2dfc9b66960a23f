import Roster.Log.Stamp
import Roster.Service.Running
import Std.Time.DateTime.Timestamp

/-!
# The program

Runs what the command line asks for on this machine. The machine has no network of its own, so
that requests are never answered.
-/

open Roster

namespace Roster.Program

/-- The variables of the process. -/
def environment : IO Settings.Environment := do
  let bytes ← IO.FS.readBinFile "/proc/self/environ"
  let text := (Text.Utf8.decode bytes.toList).getD []
  return (Text.pieces (· == '\x00') text).filterMap fun v =>
    let (name, value) := Text.cutAt (· == '=') v
    if value.isEmpty then none else some (String.ofList name, String.ofList (value.drop 1))

/-- The text of a file, if it can be read. -/
def contents? (path : String) : IO (Option String) := do
  try
    let bytes ← IO.FS.readBinFile path
    return (Text.Utf8.decode bytes.toList).map String.ofList
  catch _ => return none

/-- What the program finds where it is started. -/
def surroundings (o : Options) : IO Settings.Surroundings := do
  let env ← environment
  let paths := o.config.toList ++ Settings.candidates env
  let files ← paths.filterMapM fun path => do
    return (← contents? path).map fun text => (path, text)
  return ⟨toString (← IO.currentDir), files, env⟩

/-- Why a file cannot be written. -/
def reason : IO.Error → String
  | .noFileOrDirectory _ code text => s!"{text} (os error {code})"
  | .permissionDenied _ code text => s!"{text} (os error {code})"
  | .inappropriateType _ code text => s!"{text} (os error {code})"
  | e => toString e

/-- Opens a file to which lines are added. -/
def openLog (path : String) : IO (Except String Unit) := do
  try
    let _ ← IO.FS.Handle.mk path .append
    return .ok ()
  catch e => return .error (reason e)

/-- Adds a line to a file. -/
def append (path line : String) : IO Unit := do
  (← IO.FS.Handle.mk path .append).putStrLn line

/-- The time as it is written into a log. -/
def stamp : IO String := do
  return Log.stamp (← Std.Time.Timestamp.now).toNanosecondsSinceUnixEpoch.val.toNat

/-- This machine. -/
def machine (o : Options) : IO (Machine IO) := do
  return {
    surroundings := ← surroundings o
    now := IO.monoNanosNow
    stamp := stamp
    print := IO.println
    tell := IO.eprintln
    openLog := openLog
    append := append
    fetch := fun _ => return .silence false }

/-- Watches the members for good. -/
def watch (k : Machine IO) (r : Service.Running) : IO Unit := do
  let mut r ← r.beginWatch k
  repeat
    let now ← k.now
    IO.sleep (UInt32.ofNat ((r.due - now) / 1000000 + 1))
    r ← r.attend k

/-- Runs with some options. -/
def run (o : Options) : IO UInt32 := do
  let k ← machine o
  match ← Service.start k o with
  | .error t =>
    Service.complain k t
    return 1
  | .ok r =>
    if o.once then Service.once k r else watch k r
    return 0

end Roster.Program

/-- Runs what the command line asks for. -/
def main (args : List String) : IO UInt32 := do
  match Command.ofWords? args with
  | none =>
    IO.eprintln Command.misuseText
    return 2
  | some .help =>
    IO.println Command.helpText
    return 0
  | some .version =>
    IO.println Command.versionText
    return 0
  | some (.run o) => Roster.Program.run o
