import Roster.Settings.Environment
import Roster.Text.Pieces

/-!
# Files and variables

What a program finds where it is started: a directory with files, and variables.

* `Surroundings.file?` is the text of a file, and `Surroundings.fullName` and
  `Surroundings.shortName` are two ways to write where it is.
* `Surroundings.fileFault?` is the reason for which a file cannot be written.
* `extension` is the part of the name of a file that tells its format.
-/

namespace Roster.Settings

/-- Where a program is started. -/
structure Surroundings where
  /-- The directory. -/
  directory : String
  /-- The files that can be read, each under one of its names. -/
  files : List (String × String)
  environment : Environment

/-- Whether a name begins at the root of all directories. -/
def isAbsolute (path : String) : Bool := path.toList.head? == some '/'

/-- The parts of a name, without those that lead nowhere. -/
def pathParts (path : String) : List (List Char) :=
  (Text.pieces (· == '/') path.toList).filter fun w => !w.isEmpty && w != ['.']

/-- Whether two names are those of one file. -/
def isSamePath (p q : String) : Bool :=
  isAbsolute p == isAbsolute q && pathParts p == pathParts q

/-- The extension of the last part of a name, empty if there is none. -/
def extension (path : String) : String :=
  match (pathParts path).getLast? with
  | none => ""
  | some name =>
    let (back, front) := (name.reverse.span (· != '.'))
    if front.length ≤ 1 then "" else String.ofList back.reverse

/-- The name of a file as it is seen from a directory. -/
def partsFrom : List (List Char) → List (List Char) → List (List Char)
  | d :: ds, p :: ps =>
    if d = p then partsFrom ds ps else (d :: ds).map (fun _ => ['.', '.']) ++ p :: ps
  | ds, ps => ds.map (fun _ => ['.', '.']) ++ ps

namespace Surroundings

/-- The text of a file. -/
def file? (s : Surroundings) (path : String) : Option String :=
  if path.isEmpty then none else (s.files.find? fun f => isSamePath f.1 path).map Prod.snd

/-- Whether there is a directory under a name: the one in which the program is started, one that
leads to it, or one that leads to a file. -/
def isDirectory (s : Surroundings) (path : String) : Bool :=
  if isAbsolute path then (pathParts path).isPrefixOf (pathParts s.directory)
  else (pathParts path).isEmpty ||
    s.files.any fun f => !isAbsolute f.1 && (pathParts path).isPrefixOf (pathParts f.1) &&
      pathParts path != pathParts f.1

/-- The name of the directory that a file is in. -/
def parent (path : String) : String :=
  let parts := Text.joined '/' (pathParts path).dropLast
  String.ofList (if isAbsolute path then '/' :: parts else parts)

/-- Why there can be no file under a name, if there can be none. -/
def fileFault? (s : Surroundings) (path : String) : Option String :=
  if path.isEmpty then some "No such file or directory (os error 2)"
  else if s.isDirectory path || path.toList.getLast? == some '/' then
    some "Is a directory (os error 21)"
  else if s.isDirectory (parent path) then none
  else if (s.file? (parent path)).isSome then some "Not a directory (os error 20)"
  else some "No such file or directory (os error 2)"

/-- The name of a file from the root on. -/
def fullName (s : Surroundings) (path : String) : String :=
  if isAbsolute path then path else s!"{s.directory}/{path}"

/-- The name of a file from the directory on. -/
def shortName (s : Surroundings) (path : String) : String :=
  let parts := if isAbsolute path then partsFrom (pathParts s.directory) (pathParts path)
    else pathParts path
  String.ofList (Text.joined '/' parts)

end Surroundings

end Roster.Settings
