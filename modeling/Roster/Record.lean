import Roster.Address.Basic

/-!
# Members of a cluster

A record is what is known of one member: where it is, under which identifier it goes once it
has told, and which list of members it last used.

* `Record.key` is what tells members apart; keys of the two kinds are never equal.
-/

namespace Roster

/-- What tells members apart. -/
inductive Key
  /-- The identifier of a member that has told it. -/
  | identifier (id : String)
  /-- The address of a member that has not. -/
  | address (a : Address)
deriving DecidableEq

/-- The text of a key. -/
def Key.text : Key → String
  | .identifier id => id
  | .address a => a.text

/-- What is known of one member. -/
structure Record where
  address : Address
  identifier : Option String
  topologyHash : Option String
deriving DecidableEq

namespace Record

/-- A member of which only the address is known. -/
def unresolved (address : Address) : Record := ⟨address, none, none⟩

/-- A member that has told its identifier. -/
def resolved (address : Address) (id : String) (hash : Option String) : Record :=
  ⟨address, some id, hash⟩

/-- Whether a member has told its identifier. -/
def isResolved (r : Record) : Bool := r.identifier.isSome

/-- What tells a member apart: its identifier if it is known, else its address. -/
def key (r : Record) : Key :=
  match r.identifier with
  | some id => .identifier id
  | none => .address r.address

/-- The text of a record. -/
def text (r : Record) : String :=
  match r.identifier with
  | some id => s!"{id}@{r.address.text}"
  | none => s!"<unresolved>@{r.address.text}"

@[simp]
theorem key_unresolved (a : Address) : (unresolved a).key = .address a := rfl

@[simp]
theorem key_resolved (a : Address) (id : String) (h : Option String) :
    (resolved a id h).key = .identifier id := rfl

theorem key_eq_identifier_iff {r : Record} {id : String} :
    r.key = .identifier id ↔ r.identifier = some id := by
  unfold key
  split <;> simp_all

theorem key_eq_address_iff {r : Record} {a : Address} :
    r.key = .address a ↔ r.identifier = none ∧ r.address = a := by
  unfold key
  split <;> simp_all

theorem isResolved_iff {r : Record} : r.isResolved = true ↔ ∃ id, r.key = .identifier id := by
  simp [isResolved, key_eq_identifier_iff, Option.isSome_iff_exists]

end Record

end Roster
