import Roster.Failure
import Roster.Record

/-!
# The registry of members

A registry holds every member ever heard of, in the order in which they were first heard of.
Each entry stands under a key and is active or not; the entry also tells since when. Nothing
is ever given up: an entry only leaves when the member that it stood for turns out to have an
entry under its identifier.

* `add`, `activate`, `deactivate`, `resolve`, `mergeMember` and `updateHash` are the changes.
* `active`, `inactive` and `partition` list the members.
* `check` says whether every entry stands under the key of its record.
-/

namespace Roster

/-- A moment, counted in nanoseconds from a fixed one. -/
abbrev Instant := Nat

/-- A member in the registry. -/
structure Entry where
  key : Key
  record : Record
  active : Bool
  since : Instant
deriving DecidableEq

/-- An entry for a member that is new. -/
def Entry.fresh (record : Record) (active : Bool) (now : Instant) : Entry :=
  ⟨record.key, record, active, now⟩

/-- Every member ever heard of. -/
structure Registry where
  entries : List Entry
deriving DecidableEq

namespace Registry

/-- The registry without members. -/
def empty : Registry := ⟨[]⟩

/-- The entry under a key. -/
def find? (reg : Registry) (k : Key) : Option Entry := reg.entries.find? fun e => e.key == k

/-- Whether there is an entry under a key. -/
def contains (reg : Registry) (k : Key) : Bool := reg.entries.any fun e => e.key == k

/-- Changes the entry under a key, if there is one. -/
def modify (reg : Registry) (k : Key) (f : Entry → Entry) : Registry :=
  ⟨reg.entries.map fun e => if e.key = k then f e else e⟩

/-- Takes the entry under a key out. -/
def erase (reg : Registry) (k : Key) : Registry := ⟨reg.entries.filter fun e => e.key ≠ k⟩

/-- Puts a new entry at the end. -/
def push (reg : Registry) (e : Entry) : Registry := ⟨reg.entries ++ [e]⟩

/-- Enters one record as inactive. An entry under its key takes the record over and keeps its
status. -/
def addOne (now : Instant) (reg : Registry) (record : Record) : Registry :=
  if reg.contains record.key then
    reg.modify record.key fun e => { e with record := record }
  else reg.push (.fresh record false now)

/-- Enters records as inactive. -/
def add (now : Instant) (records : List Record) (reg : Registry) : Registry :=
  records.foldl (addOne now) reg

/-- Gives one entry a status and counts whether that changed anything. -/
def setOne (now : Instant) (active : Bool) (acc : Nat × Registry) (k : Key) : Nat × Registry :=
  match acc.2.find? k with
  | some e =>
    if e.active = active then acc
    else (acc.1 + 1, acc.2.modify k fun e => { e with active := active, since := now })
  | none => acc

/-- The first of some records that has no entry. -/
def missing? (records : List Record) (reg : Registry) : Option Key :=
  (records.map Record.key).find? fun k => !reg.contains k

/-- What is wrong with a record without an entry. -/
def notRegistered (k : Key) : Failure :=
  .invariantViolation s!"node {k.text} is not registered"

/-- Gives the entries of some records a status, and counts those for which it changed. If one
of them has no entry, nothing changes. -/
def setStatus (now : Instant) (active : Bool) (records : List Record) (reg : Registry) :
    Except Failure Nat × Registry :=
  match reg.missing? records with
  | some k => (.error (notRegistered k), reg)
  | none =>
    let (n, reg) := (records.map Record.key).foldl (setOne now active) (0, reg)
    (.ok n, reg)

/-- Makes members active. -/
def activate (now : Instant) (records : List Record) (reg : Registry) :
    Except Failure Nat × Registry :=
  reg.setStatus now true records

/-- Makes members inactive. -/
def deactivate (now : Instant) (records : List Record) (reg : Registry) :
    Except Failure Nat × Registry :=
  reg.setStatus now false records

/-- The records of the entries with a status. -/
def withStatus (active : Bool) (reg : Registry) : List Record :=
  (reg.entries.filter fun e => e.active == active).map Entry.record

/-- The active members, in the order of the registry. -/
def active (reg : Registry) : List Record := reg.withStatus true

/-- The inactive members, in the order of the registry. -/
def inactive (reg : Registry) : List Record := reg.withStatus false

/-- The active and the inactive members. -/
def partition (reg : Registry) : List Record × List Record :=
  let (yes, no) := reg.entries.partition Entry.active
  (yes.map Entry.record, no.map Entry.record)

/-- The record under an identifier. -/
def get? (id : String) (reg : Registry) : Option Record :=
  (reg.find? (.identifier id)).map Entry.record

/-- Whether the member under a key is active, if there is one. -/
def isActive? (k : Key) (reg : Registry) : Option Bool := (reg.find? k).map Entry.active

/-- The number of members. -/
def size (reg : Registry) : Nat := reg.entries.length

/-- The number of active members. -/
def activeCount (reg : Registry) : Nat := reg.entries.countP Entry.active

/-- What became of an entry whose member told its identifier. -/
inductive Resolution
  /-- It now stands under the identifier. -/
  | resolved (record : Record)
  /-- It left, since the identifier has an entry already. -/
  | merged (record : Record)
deriving DecidableEq

/-- The record under the identifier. -/
def Resolution.record : Resolution → Record
  | resolved r | merged r => r

/-- What is wrong if no member without an identifier is registered at an address. -/
def notUnresolved (a : Address) : Failure :=
  .invariantViolation s!"no unresolved entry registered for {a.text}"

/-- The record that an entry gets with its identifier. -/
def identified (e : Entry) (id : String) (hash : Option String) : Entry :=
  { e with key := .identifier id
           record := { e.record with identifier := some id, topologyHash := hash } }

/-- Gives the member at an address the identifier that it told. Its entry is taken out; if the
identifier has no entry, it is put back at the same place under the identifier, with the
status that it had. -/
def resolve (a : Address) (id : String) (hash : Option String) (reg : Registry) :
    Except Failure Resolution × Registry :=
  match reg.entries.findIdx? (fun e => e.key == .address a), reg.find? (.address a) with
  | some i, some e =>
    let rest : Registry := ⟨reg.entries.eraseIdx i⟩
    match rest.find? (.identifier id) with
    | some owner =>
      let record := { owner.record with topologyHash := hash <|> owner.record.topologyHash }
      (.ok (.merged record), rest.modify owner.key fun e => { e with record := record })
    | none =>
      let e := identified e id hash
      (.ok (.resolved e.record), ⟨rest.entries.insertIdx i e⟩)
  | _, _ => (.error (notUnresolved a), reg)

/-- What became of a member that another one listed. -/
inductive MergeOutcome
  /-- It was new and is active now. -/
  | added
  /-- It was known at another address. -/
  | relocated
  /-- It was known. -/
  | unchanged
deriving DecidableEq

/-- Takes over one member that another one listed. A new one becomes active and takes the place
of an entry that stands under its address; a known one gets the address and keeps its status. -/
def mergeMember (now : Instant) (id : String) (a : Address) (hash : Option String)
    (reg : Registry) : MergeOutcome × Registry :=
  match reg.find? (.identifier id) with
  | some e =>
    if e.record.address = a then (.unchanged, reg)
    else
      (.relocated, reg.modify (.identifier id) fun e =>
        { e with record := { e.record with address := a, topologyHash := hash } })
  | none =>
    (.added, (reg.erase (.address a)).push (.fresh (.resolved a id hash) true now))

/-- Notes which list of members a member uses. -/
def updateHash (id hash : String) (reg : Registry) : Registry :=
  reg.modify (.identifier id) fun e =>
    { e with record := { e.record with topologyHash := some hash } }

/-- What is wrong with an entry that does not stand under the key of its record. -/
def misplaced (e : Entry) : Failure :=
  .invariantViolation s!"entry {e.record.text} stored under key {e.key.text}"

/-- Checks that every entry stands under the key of its record. -/
def check (reg : Registry) : Except Failure Unit :=
  match reg.entries.find? fun e => e.key ≠ e.record.key with
  | some e => .error (misplaced e)
  | none => .ok ()

/-! ### The entries of a change -/

@[simp]
theorem entries_empty : empty.entries = [] := rfl

@[simp]
theorem entries_push (reg : Registry) (e : Entry) : (reg.push e).entries = reg.entries ++ [e] :=
  rfl

theorem contains_iff {reg : Registry} {k : Key} :
    reg.contains k = true ↔ ∃ e ∈ reg.entries, e.key = k := by simp [contains]

theorem find?_eq_none_iff {reg : Registry} {k : Key} :
    reg.find? k = none ↔ reg.contains k = false := by
  simp [find?, contains]

theorem key_of_find? {reg : Registry} {k : Key} {e : Entry} (h : reg.find? k = some e) :
    e.key = k := by
  simpa using List.find?_some h

theorem mem_of_find? {reg : Registry} {k : Key} {e : Entry} (h : reg.find? k = some e) :
    e ∈ reg.entries := List.mem_of_find?_eq_some h

/-- A change that keeps keys keeps the list of keys. -/
theorem keys_modify {reg : Registry} {k : Key} {f : Entry → Entry} (h : ∀ e, (f e).key = e.key) :
    (reg.modify k f).entries.map Entry.key = reg.entries.map Entry.key := by
  simp only [modify, List.map_map]
  refine List.map_congr_left fun e _ => ?_
  by_cases he : e.key = k <;> simp [he, h]

end Registry

end Roster
