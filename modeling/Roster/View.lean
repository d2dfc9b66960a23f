import Roster.Address.Basic
import Roster.Duration

/-!
# What members tell about the cluster

* A `TopologyView` is the list of members that one member uses.
* A `GossipView` says how long ago one member last heard from others.
-/

namespace Roster

/-- One member as another lists it. -/
structure Listing where
  identifier : String
  address : Address
deriving DecidableEq

/-- What a member tells about itself and about the others. -/
structure TopologyView where
  identifier : String
  topologyHash : String
  members : List Listing
deriving DecidableEq

/-- Whether a view lists an identifier. -/
def TopologyView.contains (v : TopologyView) (id : String) : Bool :=
  v.members.any fun m => m.identifier == id

/-- How long ago a member was heard from. -/
structure GossipEntry where
  identifier : String
  age : Duration
deriving DecidableEq

/-- What a member has heard from the others. -/
structure GossipView where
  reporter : String
  entries : List GossipEntry
deriving DecidableEq

/-- How long ago the reporter heard from a member; its first entry counts. -/
def GossipView.ageOf? (v : GossipView) (id : String) : Option Duration :=
  (v.entries.find? fun e => e.identifier == id).map GossipEntry.age

end Roster
