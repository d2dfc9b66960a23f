/-!
# The command line

A command line is a list of words. A switch with a value has it behind an equals sign, directly
behind its letter, or as the next word.

* `Command.ofWords?` is what a command line asks for; it fails on words that mean nothing, on
  missing values, and on switches that are given too often.
-/

namespace Roster

/-- What a run is asked to do. -/
structure Options where
  /-- The file with the settings. -/
  config : Option String := none
  /-- Addresses to start from, besides those in the settings. -/
  seeds : List String := []
  /-- Whether to list the members and end. -/
  once : Bool := false
deriving DecidableEq

/-- What a command line asks for. -/
inductive Command
  | help
  | version
  | run (options : Options)
deriving DecidableEq

namespace Command

/-- The name of the program and its version. -/
def versionText : String := "strata 0.1.0"

/-- What the program does, and its switches. -/
def helpText : String := "\n".intercalate [
  "Discover a cluster from its seeds and watch node health",
  "",
  "Usage: strata [OPTIONS]",
  "",
  "Options:",
  "  -c, --config <CONFIG>  Config file path (overrides STRATA_CONFIG_PATH and the default locations)",
  "  -s, --seed <ADDR>      Seed address, may be repeated; added to the configured seeds",
  "      --once             Bootstrap, print the active and inactive nodes as JSON, and exit",
  "  -h, --help             Print help",
  "  -V, --version          Print version"]

/-- What is told when a command line asks for nothing that there is. -/
def misuseText : String := "\n".intercalate [
  "error: unexpected arguments",
  "",
  "Usage: strata [OPTIONS]",
  "",
  "For more information, try '--help'."]

/-! ### Words -/

/-- A switch with a value. -/
inductive Switch
  | config
  | seed
deriving DecidableEq

/-- What a word is. -/
inductive Word
  /-- A switch, perhaps together with its value. -/
  | switch (s : Switch) (value : Option String)
  | once
  | help
  | version
  /-- No switches follow. -/
  | finish
  /-- It means nothing. -/
  | unknown
deriving DecidableEq

namespace Word

/-- The value behind an equals sign. -/
def attached? : List Char → Option String
  | '=' :: cs => some (String.ofList cs)
  | _ => none

/-- The switch with a name, and what stands behind the name. -/
def ofName (name rest : List Char) : Word :=
  match String.ofList name, attached? rest with
  | "config", value => switch .config value
  | "seed", value => switch .seed value
  | "once", none => once
  | "help", none => help
  | "version", none => version
  | _, _ => unknown

/-- What stands behind the letter of a switch is its value. -/
def letterValue : List Char → Option String
  | [] => none
  | '=' :: cs => some (String.ofList cs)
  | cs => some (String.ofList cs)

/-- The switch with a letter, and what stands behind the letter. -/
def ofLetter (letter : Char) (rest : List Char) : Word :=
  match letter with
  | 'c' => switch .config (letterValue rest)
  | 's' => switch .seed (letterValue rest)
  | 'h' => help
  | 'V' => version
  | _ => unknown

/-- What a word is. -/
def ofText (text : String) : Word :=
  match text.toList with
  | ['-', '-'] => finish
  | '-' :: '-' :: cs => ofName (cs.takeWhile (· != '=')) (cs.dropWhile (· != '='))
  | '-' :: c :: cs => ofLetter c cs
  | _ => unknown

/-- Whether a word can be the value of the switch before it. -/
def isValue (text : String) : Bool := text.toList == ['-'] || text.toList.head? != some '-'

end Word

/-! ### Command lines -/

end Command

/-- Gives a switch its value, unless it was given one and can have only one. -/
def Options.give? (o : Options) (s : Command.Switch) (value : String) : Option Options :=
  match s with
  | .config => if o.config.isSome then none else some { o with config := some value }
  | .seed => some { o with seeds := o.seeds ++ [value] }

namespace Command

/-- What the words ask for, after those that asked for `o`. -/
def readFrom? (o : Options) : List String → Option Command
  | [] => some (run o)
  | w :: ws =>
    match Word.ofText w, ws with
    | .help, _ => some help
    | .version, _ => some version
    | .once, ws => if o.once then none else readFrom? { o with once := true } ws
    | .switch s (some value), ws => (o.give? s value).bind fun o => readFrom? o ws
    | .switch s none, value :: ws =>
      if Word.isValue value then (o.give? s value).bind fun o => readFrom? o ws else none
    | .finish, [] => some (run o)
    | _, _ => none

/-- What a command line asks for. -/
def ofWords? (words : List String) : Option Command := readFrom? {} words

end Command

end Roster
