import Roster.Json.Form
import Roster.Record

/-!
# Records as JSON

* `Record.toJson` is the data of a record, `Record.jsonText` its text.
* `Record.ofJsonText` reads a record; data that it does not know is ignored.
-/

namespace Roster.Record

open Json

/-- The data of a record. -/
def toJson (r : Record) : Value :=
  .table [("address".toList, .ofString r.address.text),
    ("identifier".toList, .ofString? r.identifier),
    ("topology_hash".toList, .ofString? r.topologyHash)]

/-- The text of a record. -/
def jsonText (r : Record) : String := String.ofList r.toJson.compact

/-- The form of a record. Only a table may leave out what need not be known. -/
def form : Form :=
  [⟨"address", .address, none, none⟩,
    ⟨"identifier", .optionalText, some (.optionalText none), none⟩,
    ⟨"topology_hash", .optionalText, some (.optionalText none), none⟩]

/-- The record with the data of the form. -/
def ofData : List Datum → Except Fault Record
  | [.address a, .optionalText id, .optionalText hash] => .ok ⟨a, id, hash⟩
  | _ => .error .unsuitable

/-- Reads a record that is all of a text. -/
def ofJsonText (text : String) : Except Fault Record :=
  whole (form.read text.toList) >>= ofData

end Roster.Record
