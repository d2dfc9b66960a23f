import Roster.Json.Number
import Roster.Json.Reader
import Roster.Address.Reader

/-!
# Reading records of a fixed form

A form is a list of named fields, each with the kind of data that it holds. A text matches
as a table that has these names, in any order and among others, or as a list of the data in
the order of the form. Data is read and judged in the order in which it stands, so the first
fault of the text decides.

* `Form.read` reads one record, `Form.readAll` a list of records; both take the front of a
  text, and `whole` asks that nothing follows.
-/

namespace Roster.Json

/-- The kinds of data that a field may hold. -/
inductive Kind
  /-- A text. -/
  | text
  /-- A text or nothing. -/
  | optionalText
  /-- A network address. -/
  | address
  /-- A whole number below `2 ^ 16`. -/
  | port
  /-- Such a number or nothing. -/
  | optionalPort
  /-- Any number. -/
  | number
deriving DecidableEq

/-- The data of a field. -/
inductive Datum
  | text (s : String)
  | optionalText (s : Option String)
  | address (a : Address)
  | port (n : Nat)
  | optionalPort (n : Option Nat)
  | number (x : Binary64)
deriving DecidableEq

/-- A field: its name, what it holds, what it holds if a table leaves it out, and what it
holds if a list does. -/
structure Field where
  name : String
  kind : Kind
  inTable : Option Datum
  inList : Option Datum

/-- A form is its fields, in order. -/
abbrev Form := List Field

/-- The fault of data of another kind than the one that is asked for. A text or a number is
read first, and may be faulty itself. -/
def wrongKind (cs : List Char) : Fault :=
  match cs with
  | [] => .incomplete
  | c :: _ =>
    if c == '[' || c == '\x7b' then .unsuitable
    else match readScalar true cs with
      | .ok (.number n, _) => if n.number?.isSome then .unsuitable else .malformed
      | .ok _ => .unsuitable
      | .error f => f

/-- Reads a text. -/
def readPlainText (cs : List Char) : Reading String :=
  match skipSpace cs with
  | '"' :: rest => (readText true rest).map fun (t, rest) => (String.ofList t, rest)
  | rest => .error (wrongKind rest)

/-- Reads a number. -/
def readNumber (cs : List Char) : Reading Number :=
  match skipSpace cs with
  | [] => .error .incomplete
  | c :: rest =>
    if c == '-' || c.isDigit then
      match readNumeral (c :: rest) with
      | .ok (n, rest) =>
        match n.number? with
        | some x => .ok (x, rest)
        | none => .error .malformed
      | .error f => .error f
    else .error (wrongKind (c :: rest))

/-- Reads a port. -/
def readPortNumber (cs : List Char) : Reading Nat :=
  match readNumber cs with
  | .ok (.natural n, rest) => if n < Nat.pow 2 16 then .ok (n, rest) else .error .unsuitable
  | .ok _ => .error .unsuitable
  | .error f => .error f

/-- Reads data or nothing. -/
def readOptional {α : Type} (read : List Char → Reading α) (cs : List Char) :
    Reading (Option α) :=
  match skipSpace cs with
  | 'n' :: rest => (readWord ['u', 'l', 'l'] rest).map (none, ·)
  | rest => (read rest).map fun (a, rest) => (some a, rest)

/-- Reads an address. -/
def readAddress (cs : List Char) : Reading Address :=
  match readPlainText cs with
  | .ok (t, rest) =>
    match Address.read t with
    | .ok a => .ok (a, rest)
    | .error _ => .error .unsuitable
  | .error f => .error f

/-- Reads data of a kind. -/
def Kind.read (kind : Kind) (cs : List Char) : Reading Datum :=
  match kind with
  | .text => (readPlainText cs).map fun (t, rest) => (.text t, rest)
  | .optionalText => (readOptional readPlainText cs).map fun (t, rest) => (.optionalText t, rest)
  | .address => (readAddress cs).map fun (a, rest) => (.address a, rest)
  | .port => (readPortNumber cs).map fun (n, rest) => (.port n, rest)
  | .optionalPort => (readOptional readPortNumber cs).map fun (n, rest) => (.optionalPort n, rest)
  | .number => (readNumber cs).map fun (x, rest) => (.number x.toBinary, rest)

namespace Form

/-- The fields of a form with the data found so far. -/
abbrev Filling := List (Field × Option Datum)

/-- Fills the field with a name. -/
def fill (name : String) (d : Datum) (filling : Filling) : Filling :=
  filling.map fun (f, old) => (f, if f.name = name then some d else old)

/-- The data of all fields of a table, if none lacks. -/
def finish (filling : Filling) : Except Fault (List Datum) :=
  match filling.mapM fun (f, d) => d <|> f.inTable with
  | some ds => .ok ds
  | none => .error .unsuitable

/-- Reads one member, behind its name: data of a known field, or anything. -/
def readMember (name : String) (filling : Filling) (cs : List Char) : Reading Filling :=
  match filling.find? fun (f, _) => f.name = name with
  | some (f, _) => (f.kind.read cs).map fun (d, rest) => (fill name d filling, rest)
  | none => (skipValue cs).map (filling, ·)

/-- Reads the members of a table up to its closing brace. A field that is already filled is
refused as soon as its name is read. -/
def readTable : Nat → Filling → List Char → Reading (List Datum)
  | 0, _, _ => .error .malformed
  | fuel + 1, filling, cs =>
    match skipSpace cs with
    | '"' :: rest =>
      match readText true rest with
      | .error f => .error f
      | .ok (k, rest) =>
        let name := String.ofList k
        if (filling.find? fun (f, d) => f.name = name && d.isSome).isSome then
          .error .unsuitable
        else match skipSpace rest with
          | ':' :: rest =>
            match readMember name filling rest with
            | .error f => .error f
            | .ok (filling, rest) =>
              match skipSpace rest with
              | ',' :: rest => readTable fuel filling rest
              | '\x7d' :: rest => (finish filling).map (·, rest)
              | rest => .error (faultAt rest)
          | rest => .error (faultAt rest)
    | rest => .error (faultAt rest)

/-- Reads the data of the fields as the items of a list up to its closing bracket; `first`
says whether no item has been read. -/
def readList (first : Bool) : Form → List Char → Reading (List Datum)
  | [], cs =>
    match skipSpace cs with
    | ']' :: rest => .ok ([], rest)
    | rest => .error (faultAt rest)
  | f :: fs, cs =>
    match skipSpace cs with
    | ']' :: rest =>
      match (f :: fs).mapM Field.inList with
      | some ds => .ok (ds, rest)
      | none => .error .unsuitable
    | ',' :: rest =>
      if first then .error .malformed
      else match skipSpace rest with
        | ']' :: _ => .error .malformed
        | rest => item f fs rest
    | [] => .error .incomplete
    | rest => if first then item f fs rest else .error .malformed
where
  /-- Reads the data of the field `f` and those of the fields behind it. -/
  item (f : Field) (fs : Form) (cs : List Char) : Reading (List Datum) :=
    match f.kind.read cs with
    | .error e => .error e
    | .ok (d, rest) => (readList false fs rest).map fun (ds, rest) => (d :: ds, rest)

/-- Reads one record. -/
def read (form : Form) (cs : List Char) : Reading (List Datum) :=
  match skipSpace cs with
  | '\x7b' :: rest =>
    match skipSpace rest with
    | '\x7d' :: rest => (finish (form.map (·, none))).map (·, rest)
    | rest => readTable (rest.length + 1) (form.map (·, none)) rest
  | '[' :: rest => readList true form rest
  | rest => .error (wrongKind rest)

/-- Reads records up to the closing bracket of their list. -/
def readRecords (form : Form) : Nat → List Char → Reading (List (List Datum))
  | 0, _ => .error .malformed
  | fuel + 1, cs =>
    match form.read cs with
    | .error f => .error f
    | .ok (ds, rest) =>
      match skipSpace rest with
      | ',' :: rest =>
        match skipSpace rest with
        | ']' :: _ => .error .malformed
        | rest => (readRecords form fuel rest).map fun (rs, rest) => (ds :: rs, rest)
      | ']' :: rest => .ok ([ds], rest)
      | rest => .error (faultAt rest)

/-- Reads a list of records. -/
def readAll (form : Form) (cs : List Char) : Reading (List (List Datum)) :=
  match skipSpace cs with
  | '[' :: rest =>
    match skipSpace rest with
    | ']' :: rest => .ok ([], rest)
    | rest => readRecords form (rest.length + 1) rest
  | rest => .error (wrongKind rest)

end Form

/-- What a reader reads, if nothing but white space follows. -/
def whole {α : Type} (reading : Reading α) : Except Fault α :=
  match reading with
  | .ok (a, rest) => if (skipSpace rest).isEmpty then .ok a else .error .malformed
  | .error f => .error f

end Roster.Json
