import Roster.Address.Basic
import Roster.Domain.Name
import Roster.Text.Percent
import Roster.Text.Trim

/-!
# Reading addresses

`Address.read` follows the URL Standard: white space and controls at the ends are ignored and
so are tabs and line ends anywhere, characters that a part cannot hold are written as percent
triplets, hosts are brought into canonical form, and dot segments are resolved.

* `Fault.message` is the text of each reason for which a text is no address.
* `Address.add` adds segments to the path of an address.
-/

namespace Roster.Address

/-- Why a text is not an address. -/
inductive Fault
  /-- There is no host where one is needed. -/
  | emptyHost
  /-- The host is no name. -/
  | invalidName
  /-- The port is no number, or too large. -/
  | invalidPort
  /-- The host looks like four bytes and is not. -/
  | invalidIpv4
  /-- The host stands in brackets and is not eight groups. -/
  | invalidIpv6
  /-- The host of a scheme without rules of its own has a character that no host has. -/
  | invalidCharacter
  /-- There is no scheme. -/
  | noScheme
deriving DecidableEq

/-- The text that explains a fault. -/
def Fault.message : Fault → String
  | .emptyHost => "empty host"
  | .invalidName => "invalid international domain name"
  | .invalidPort => "invalid port number"
  | .invalidIpv4 => "invalid IPv4 address"
  | .invalidIpv6 => "invalid IPv6 address"
  | .invalidCharacter => "invalid domain character"
  | .noScheme => "relative URL without a base"

/-- Tabs and line ends, which are ignored everywhere. -/
def isIgnored (c : Char) : Bool := c == '\t' || c == '\n' || c == '\r'

/-- Whether a character separates segments. -/
def isSlash (kind : Kind) (c : Char) : Bool := c == '/' || (kind != .plain && c == '\\')

/-! ### Scheme -/

/-- Whether a character may stand in a scheme. -/
def isSchemeChar (c : Char) : Bool := c.isAlphanum || c == '+' || c == '-' || c == '.'

/-- The scheme in lower case, and what follows its colon. -/
def readScheme? (cs : List Char) : Option (String × List Char) :=
  match cs with
  | [] => none
  | c :: _ =>
    if c.isAlpha then
      match cs.dropWhile isSchemeChar with
      | ':' :: rest => some (String.ofList ((cs.takeWhile isSchemeChar).map Char.toLower), rest)
      | _ => none
    else none

/-! ### Authority -/

/-- The user and the password, which the first colon separates. -/
def readUser (cs : List Char) : String × String :=
  let (user, rest) := Text.cutAt (· == ':') cs
  (String.ofList (Text.Percent.encode Text.Percent.userInfo user),
    String.ofList (Text.Percent.encode Text.Percent.userInfo (rest.drop 1)))

/-- The text in front of the last at sign, if there is one, and the text behind it. -/
def cutUser (cs : List Char) : Option (List Char) × List Char :=
  if cs.contains '@' then
    let back := cs.reverse.takeWhile (· != '@')
    (some (cs.take (cs.length - back.length - 1)), back.reverse)
  else (none, cs)

/-- The host text: up to the first colon outside brackets. -/
def cutHost : Bool → List Char → List Char × List Char
  | _, [] => ([], [])
  | inside, c :: cs =>
    if c == ':' && !inside then ([], c :: cs)
    else
      let (h, rest) := cutHost (if c == '[' then true else if c == ']' then false else inside) cs
      (c :: h, rest)

/-- A host in brackets. -/
def readBrackets (cs : List Char) : Except Fault Host :=
  if cs.getLast? = some ']' then
    match Ipv6.read? (cs.drop 1).dropLast with
    | some a => .ok (.v6 a)
    | none => .error .invalidIpv6
  else .error .invalidIpv6

/-- The host of a scheme with rules of its own. -/
def readSpecialHost (cs : List Char) : Except Fault Host :=
  if cs.head? = some '[' then readBrackets cs
  else match Domain.Name.ofBytes? (Text.Percent.decode cs) with
    | none => .error .invalidName
    | some name =>
      if name.isEmpty then .error .emptyHost
      else if Ipv4.endsInNumber name then
        match Ipv4.read? name with
        | some a => .ok (.v4 a)
        | none => .error .invalidIpv4
      else .ok (.name (String.ofList name))

/-- Whether a character ends or confuses the host of any scheme. -/
def neverInHost (c : Char) : Bool := c.toNat == 0 || "\t\n\r #/:<>?@[\\]^|".toList.contains c

/-- The host of any other scheme; none if the text is empty. -/
def readPlainHost (cs : List Char) : Except Fault (Option Host) :=
  if cs.head? = some '[' then some <$> readBrackets cs
  else if cs.any neverInHost then .error .invalidCharacter
  else if cs.isEmpty then .ok none
  else .ok (some (.name (String.ofList (Text.Percent.encode Text.Percent.controls cs))))

/-- The host of a service; none only for a scheme without rules of its own. -/
def readHost (kind : Kind) (cs : List Char) : Except Fault (Option Host) :=
  if kind = .special then
    if cs.isEmpty then .error .emptyHost else some <$> readSpecialHost cs
  else readPlainHost cs

/-- A port, unless it is the usual one of the scheme, and what follows the digits. -/
def readPort (scheme : String) (cs : List Char) : Except Fault (Option Nat × List Char) :=
  let digits := cs.takeWhile Char.isDigit
  let rest := cs.dropWhile Char.isDigit
  let n := (Text.value? 10 digits).getD 0
  if 65535 < n then .error .invalidPort
  else if !(rest.isEmpty || rest.head? = some '\\') then .error .invalidPort
  else if digits.isEmpty || some n = usualPort? scheme then .ok (none, rest)
  else .ok (some n, rest)

/-- An authority, and what is left of its text. `more` says whether the address goes on. -/
def readAuthority (scheme : String) (kind : Kind) (cs : List Char) (more : Bool) :
    Except Fault (Authority × List Char) := do
  let (userText, place) := cutUser cs
  let (user, password) := readUser (userText.getD [])
  if userText = some [] ∧ place = [] ∧ more then throw .emptyHost
  let (hostText, rest) := cutHost false place
  let host ← readHost kind hostText
  if host = none ∧ rest ≠ [] then throw .emptyHost
  let (port, rest) ←
    match rest with
    | ':' :: rest => readPort scheme rest
    | _ => pure (none, rest)
  if host = none ∧ ¬ (user = "" ∧ password = "") then throw .emptyHost
  return (⟨user, password, host, port⟩, rest)

/-! ### Path -/

/-- Whether a segment, as it is written, stands for the directory itself. -/
def isSingleDot (s : List Char) : Bool :=
  [".", "%2e"].contains (String.ofList (s.map Char.toLower))

/-- Whether a segment, as it is written, stands for the directory above. -/
def isDoubleDot (s : List Char) : Bool :=
  ["..", ".%2e", "%2e.", "%2e%2e"].contains (String.ofList (s.map Char.toLower))

/-- Whether a segment names a disk. -/
def isDrive (s : List Char) : Bool :=
  match s with
  | [c, d] => c.isAlpha && (d == ':' || d == '|')
  | _ => false

/-- The path without its last segment; a disk is not left. -/
def shorten (kind : Kind) (path : List (List Char)) : List (List Char) :=
  match kind, path with
  | .file, [[c, ':']] => if c.isAlpha then path else []
  | _, _ => path.dropLast

/-- Appends a segment; the name of a disk at the front of a file path gets its colon. -/
def push (kind : Kind) (path : List (List Char)) (s : List Char) : List (List Char) :=
  if kind = .file ∧ path = [] ∧ isDrive s then [s.take 1 ++ [':']] else path ++ [s]

/-- Appends segments as they are written and resolves the dot segments among them. One that
comes last leaves an empty segment. -/
def walk (kind : Kind) (path : List (List Char)) : List (List Char) → List (List Char)
  | [] => path
  | [s] =>
    if isDoubleDot s then shorten kind path ++ [[]]
    else if isSingleDot s then path ++ [[]]
    else push kind path s
  | s :: rest =>
    if isDoubleDot s then walk kind (shorten kind path) rest
    else if isSingleDot s then walk kind path rest
    else walk kind (push kind path s) rest

/-- The segments of a path text, encoded and resolved. -/
def segments (kind : Kind) (cs : List Char) : List (List Char) :=
  walk kind [] ((Text.pieces (isSlash kind) cs).map (Text.Percent.encode Text.Percent.path))

/-- The path behind an authority. -/
def readPath (kind : Kind) (cs : List Char) : List (List Char) :=
  match cs with
  | [] => if kind = .plain then [] else [[]]
  | c :: rest => if isSlash kind c then segments kind rest else segments kind cs

/-! ### Query and fragment -/

/-- The path text in front of the first question mark or hash sign, and the rest. -/
def cutPath (cs : List Char) : List Char × List Char := Text.cutAt (fun c => c == '?' || c == '#') cs

/-- The query and the fragment of what follows a path. -/
def readTail (kind : Kind) (cs : List Char) : Option String × Option String :=
  let (front, back) := Text.cutAt (· == '#') cs
  let query :=
    match front with
    | '?' :: q =>
      let set := if kind = .plain then Text.Percent.query else Text.Percent.specialQuery
      some (String.ofList (Text.Percent.encode set q))
    | _ => none
  let fragment :=
    match back with
    | '#' :: f => some (String.ofList (Text.Percent.encode Text.Percent.fragment f))
    | _ => none
  (query, fragment)

/-- The address with a path of segments and a tail still to be read. -/
def build (scheme : String) (kind : Kind) (authority : Option Authority)
    (path : List (List Char)) (tail : List Char) : Address :=
  let (query, fragment) := readTail kind tail
  ⟨scheme, authority, .segments (path.map String.ofList), query, fragment⟩

/-! ### Addresses -/

/-- Reads what follows the two slashes in front of an authority. -/
def readService (scheme : String) (kind : Kind) (cs : List Char) : Except Fault Address := do
  let (place, rest) := Text.cutAt (fun c => isSlash kind c || c == '?' || c == '#') cs
  let (authority, left) ← readAuthority scheme kind place (!rest.isEmpty)
  let (pathText, tail) := cutPath (left ++ rest)
  return build scheme kind (some authority) (readPath kind pathText) tail

/-- The host of a local file; this machine's own name is left out. -/
def readFileHost (cs : List Char) : Except Fault (Option Host) := do
  if cs.isEmpty then return none
  let host ← readSpecialHost cs
  return if host = .name "localhost" then none else some host

/-- A file path, without empty segments at its front. -/
def trimFront : List (List Char) → List (List Char)
  | [] :: s :: rest => trimFront (s :: rest)
  | path => path

/-- Reads what follows the scheme of a local file. -/
def readFile (cs : List Char) : Except Fault Address := do
  let (host, rest) ←
    match cs with
    | c :: d :: rest =>
      if isSlash .file c && isSlash .file d then
        let (place, left) :=
          Text.cutAt (fun c => isSlash .file c || c == '?' || c == '#') rest
        if isDrive place then pure (none, rest)
        else do
          let host ← readFileHost place
          pure (host, left)
      else pure (none, cs)
    | _ => pure (none, cs)
  let (pathText, tail) := cutPath rest
  let path := trimFront (readPath .file pathText)
  let hasDrive := (path.head?.map isDrive).getD false
  let host := if hasDrive then none else host
  return build "file" .file (some (.ofHost host none)) path tail

/-- Reads what follows the scheme of an address without an authority. -/
def readRootless (scheme : String) (cs : List Char) : Address :=
  let (pathText, tail) := cutPath cs
  match pathText with
  | '/' :: rest => build scheme .plain none (segments .plain rest) tail
  | _ =>
    let (query, fragment) := readTail .plain tail
    ⟨scheme, none, .whole (String.ofList (Text.Percent.encode Text.Percent.controls pathText)),
      query, fragment⟩

/-- Reads an address. -/
def readChars (text : List Char) : Except Fault Address :=
  let cs := (Text.trimBy Text.isControlOrSpace text).filter fun c => !isIgnored c
  match readScheme? cs with
  | none => .error .noScheme
  | some (scheme, rest) =>
    match Kind.ofScheme scheme with
    | .file => readFile rest
    | .special => readService scheme .special (rest.dropWhile (isSlash .special))
    | .plain =>
      match rest with
      | '/' :: '/' :: rest => readService scheme .plain rest
      | _ => .ok (readRootless scheme rest)

/-- Reads an address. -/
def read (text : String) : Except Fault Address := readChars text.toList

/-! ### Adding segments -/

/-- A text as one segment of a path. -/
def segmentOf (kind : Kind) (text : List Char) : List Char :=
  Text.Percent.encode
    (if kind = .plain then Text.Percent.segment else Text.Percent.specialSegment)
    (text.filter fun c => !isIgnored c)

/-- Adds one segment; an empty one at the end of a path of one segment is filled. The texts
that stand for directories add nothing. -/
def addSegment (kind : Kind) (path : List (List Char)) (text : List Char) : List (List Char) :=
  if text = ['.'] ∨ text = ['.', '.'] then path
  else walk kind (if path = [[]] then [] else path) [segmentOf kind text]

/-- The path without an empty last segment, unless that is all there is. -/
def popEmpty (path : List (List Char)) : List (List Char) :=
  if 1 < path.length ∧ path.getLast? = some [] then path.dropLast else path

/-- The address with segments added to its path, if its path has segments. -/
def add? (a : Address) (texts : List String) : Option Address :=
  match a.path with
  | .whole _ => none
  | .segments ps =>
    let kind := Kind.ofScheme a.scheme
    let path := texts.foldl (fun p t => addSegment kind p t.toList)
      (popEmpty (ps.map String.toList))
    some { a with path := .segments (path.map String.ofList) }

end Roster.Address
