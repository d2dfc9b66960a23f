import Roster.Document.Format
import Roster.Settings.Reading
import Roster.Settings.Surroundings
import Roster.Settings.Validation

/-!
# Loading settings

Variables count more than a file, a file more than the defaults, each setting for itself.

* `Settings.load` takes the settings from a file and from variables.
* `Settings.find` looks for the file, and checks the settings.
-/

namespace Roster.Settings

open Document (Data Format)

/-- Why settings cannot be loaded. -/
inductive LoadFault
  /-- Documents are not written in the way in which this file is. -/
  | unsupported (file : String)
  /-- The file breaks the rules of its format. -/
  | unreadable (file : String)
  /-- A setting cannot be used. -/
  | unsuitable (m : Mismatch)
deriving DecidableEq

/-- The text that explains why settings cannot be loaded. -/
def LoadFault.message : LoadFault → String
  | unsupported file => s!"configuration file \"{file}\" is not of a supported file format"
  | unreadable file => s!"configuration file \"{file}\" cannot be read"
  | unsuitable m => m.message

/-- The text of a document without the mark that may stand in front of it. -/
def withoutMark : List Char → List Char
  | '\uFEFF' :: cs => cs
  | cs => cs

/-- The settings of a file. -/
def fileSettings (s : Surroundings) (path content : String) :
    Except LoadFault (List (String × Tree)) :=
  match Format.ofExtension? (extension path) with
  | none => .error (.unsupported (s.fullName path))
  | some format =>
    match (format.read? (withoutMark content.toList)).bind Data.members? with
    | none => .error (.unreadable (s.fullName path))
    | some ms => .ok (Tree.ofMembers (some (s.shortName path)) ms)

/-- Loads settings from a file, if there is one under the name, and from variables. -/
def load (s : Surroundings) (path : Option String) : Except LoadFault Settings := do
  let ofFile ← match path.bind fun p => (s.file? p).map fun content => (p, content) with
    | some (p, content) => fileSettings s p content
    | none => .ok []
  let root := (Tree.empty.putAll ofFile).putAll s.environment.settings
  (Settings.ofTree root).mapError .unsuitable

/-! ### Looking for settings -/

/-- Why there are no settings to start with. -/
inductive StartFault
  /-- There is no file under the name. -/
  | noFile (path : String)
  /-- They cannot be loaded. -/
  | unloadable (path : Option String) (fault : LoadFault)
  /-- There is something wrong with them. -/
  | invalid (problems : List Problem)
deriving DecidableEq

/-- The text that explains why there are no settings. -/
def StartFault.message : StartFault → String
  | noFile path => s!"Config file not found: {path}"
  | unloadable path fault =>
    let what := path.getD "config"
    let reason := fault.message
    s!"Failed to load {what}: {reason}"
  | invalid problems =>
    let reasons := "; ".intercalate (problems.map Problem.message)
    s!"Configuration validation failed with {problems.length} error(s): {reasons}"

/-- The variable that names the file. -/
def pathVariable : String := "STRATA_CONFIG_PATH"

/-- Where the file is looked for if nothing names it. -/
def usualPaths : List String := ["strata.yaml", "/etc/strata/strata.yaml"]

/-- Where a file is looked for if none is asked for. -/
def candidates (env : Environment) : List String := (env.get? pathVariable).toList ++ usualPaths

/-- The file to load: the one that is asked for, or else the first one that is there of those that
the variable names and of the usual ones. -/
def locate? (s : Surroundings) (asked : Option String) : Option String :=
  asked <|> (candidates s.environment).find? fun p => (s.file? p).isSome

/-- What is told while settings are looked for, and the settings. -/
structure Findings where
  told : List String
  result : Except StartFault Settings

/-- Checks settings that have been loaded. -/
def checked (told : List String) (s : Settings) : Findings :=
  match s.problems with
  | [] => ⟨told, .ok s⟩
  | problems =>
    ⟨told ++ problems.map (fun p => "Config validation error: " ++ p.message),
      .error (.invalid problems)⟩

/-- Looks for a file, loads it, and checks the settings. -/
def find (s : Surroundings) (asked : Option String) : Findings :=
  match locate? s asked with
  | some path =>
    if (s.file? path).isNone then ⟨[], .error (.noFile path)⟩
    else
      let told := [s!"Loading config from {path}"]
      match load s (some path) with
      | .ok settings => checked told settings
      | .error f => ⟨told, .error (.unloadable (some path) f)⟩
  | none =>
    let told := ["No config file found, using environment variables"]
    match load s none with
    | .ok settings => checked told settings
    | .error f => ⟨told, .error (.unloadable none f)⟩

end Roster.Settings
