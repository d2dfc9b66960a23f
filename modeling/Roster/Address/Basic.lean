import Roster.Address.Ipv4
import Roster.Address.Ipv6

/-!
# Addresses

An address names a place on the network: a scheme, an authority with a host, a path, and
perhaps a query and a fragment. All parts are kept in the form in which they are written, so
two addresses are equal exactly if their texts are.

* `Address.text` is the text of an address.
* `Address.hostText?` is its host as the text shows it.
-/

namespace Roster

namespace Address

/-- Where an address points to. -/
inductive Host
  /-- A registered name. -/
  | name (text : String)
  /-- A network address of four bytes. -/
  | v4 (address : UInt32)
  /-- A network address of eight groups. -/
  | v6 (address : Ipv6)
deriving DecidableEq

/-- The host as it is written; eight groups stand in brackets. -/
def Host.chars : Host → List Char
  | .name t => t.toList
  | .v4 a => Ipv4.text a
  | .v6 a => '[' :: Ipv6.text a ++ [']']

/-- Who is asked for: a user, a password, a host, and a port unless it is the usual one. -/
structure Authority where
  user : String
  password : String
  host : Option Host
  port : Option Nat
deriving DecidableEq

/-- The authority of a host alone. -/
def Authority.ofHost (host : Option Host) (port : Option Nat) : Authority := ⟨"", "", host, port⟩

/-- The user and the password as they are written, up to and including the at sign. -/
def Authority.userChars (a : Authority) : List Char :=
  if a.user.isEmpty && a.password.isEmpty then []
  else a.user.toList ++ (if a.password.isEmpty then [] else ':' :: a.password.toList) ++ ['@']

/-- The authority as it is written. -/
def Authority.chars (a : Authority) : List Char :=
  a.userChars ++ (a.host.map Host.chars).getD [] ++
    match a.port with
    | some p => ':' :: Text.decimal p
    | none => []

/-- The path of an address. -/
inductive Path
  /-- A text without structure, to which nothing can be added. -/
  | whole (text : String)
  /-- Segments, each with a slash in front of it. -/
  | segments (parts : List String)
deriving DecidableEq

/-- The path as it is written. -/
def Path.chars : Path → List Char
  | .whole t => t.toList
  | .segments ps => ps.flatMap fun p => '/' :: p.toList

end Address

/-- A network address in the form in which it is written. -/
structure Address where
  scheme : String
  authority : Option Address.Authority
  path : Address.Path
  query : Option String
  fragment : Option String
deriving DecidableEq

namespace Address

/-- What stands between the scheme and the path. Without an authority, a path that starts with
an empty segment would read as one, and two characters keep them apart. -/
def frontChars (a : Address) : List Char :=
  match a.authority, a.path with
  | some au, _ => '/' :: '/' :: au.chars
  | none, .segments ("" :: _ :: _) => ['/', '.']
  | none, _ => []

/-- The characters of an address. -/
def chars (a : Address) : List Char :=
  a.scheme.toList ++ ':' :: (a.frontChars ++ a.path.chars ++
    (match a.query with
      | some q => '?' :: q.toList
      | none => []) ++
    (match a.fragment with
      | some f => '#' :: f.toList
      | none => []))

/-- The text of an address. -/
def text (a : Address) : String := String.ofList a.chars

instance : ToString Address := ⟨text⟩

/-- The host of an address. -/
def host? (a : Address) : Option Host := a.authority.bind Authority.host

/-- The host as it is written. -/
def hostText? (a : Address) : Option String := a.host?.map fun h => String.ofList h.chars

/-- The port, unless it is the usual one of the scheme. -/
def port? (a : Address) : Option Nat := a.authority.bind Authority.port

/-- The user, empty if there is none. -/
def user (a : Address) : String := (a.authority.map Authority.user).getD ""

/-- The password, if there is one. -/
def password? (a : Address) : Option String :=
  match a.authority with
  | some au => if au.password.isEmpty then none else some au.password
  | none => none

/-- The address without user and password. -/
def withoutUser (a : Address) : Address :=
  { a with authority := a.authority.map fun au => { au with user := "", password := "" } }

/-- How the syntax treats the addresses of a scheme. -/
inductive Kind
  /-- Local files. -/
  | file
  /-- Services with a host that is looked up. -/
  | special
  /-- Everything else. -/
  | plain
deriving DecidableEq

/-- How the syntax treats a scheme. -/
def Kind.ofScheme (scheme : String) : Kind :=
  if scheme = "file" then .file
  else if ["http", "https", "ws", "wss", "ftp"].contains scheme then .special
  else .plain

/-- The port that a scheme uses if none is written. -/
def usualPort? (scheme : String) : Option Nat :=
  if scheme = "http" ∨ scheme = "ws" then some 80
  else if scheme = "https" ∨ scheme = "wss" then some 443
  else if scheme = "ftp" then some 21
  else none

end Address

end Roster
