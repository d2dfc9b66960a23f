import Roster.Proofs.Tracking.Placement

/-!
# Clusters

A cluster gives each of its members one address. While some of its members are up, those answer
under their identifiers and list the whole cluster, and nobody else answers.

* `Cluster`, and `Cluster.placement`: which members there are, and where.
* `Cluster.Answers`: what an address answers while some members are up.
-/

namespace Roster

open Discovery

/-- Which members there are, and where. -/
structure Cluster where
  members : List Listing
  identifiers_nodup : (members.map Listing.identifier).Nodup
  addresses_nodup : (members.map Listing.address).Nodup

namespace Cluster

variable {M : Cluster} {i j : String} {a b : Address}

/-- The identifiers of the members. -/
def identifiers (M : Cluster) : Finset String := (M.members.map Listing.identifier).toFinset

lemma mem_identifiers : i ∈ M.identifiers ↔ ∃ a, ⟨i, a⟩ ∈ M.members := by
  simp only [identifiers, List.mem_toFinset, List.mem_map]
  exact ⟨fun ⟨m, hm, hi⟩ => ⟨m.address, hi ▸ hm⟩, fun ⟨a, ha⟩ => ⟨_, ha, rfl⟩⟩

/-- A member has one address. -/
lemma address_unique (ha : ⟨i, a⟩ ∈ M.members) (hb : ⟨i, b⟩ ∈ M.members) : a = b :=
  congrArg Listing.address (List.inj_on_of_nodup_map M.identifiers_nodup ha hb rfl)

/-- There is one member at an address. -/
lemma identifier_unique (hi : ⟨i, a⟩ ∈ M.members) (hj : ⟨j, a⟩ ∈ M.members) : i = j :=
  congrArg Listing.identifier (List.inj_on_of_nodup_map M.addresses_nodup hi hj rfl)

/-- Where the members are. -/
def placement (M : Cluster) : Placement where
  sites := {m | m ∈ M.members}
  address_unique := M.address_unique
  identifier_unique := M.identifier_unique

instance : Coe Cluster Placement := ⟨placement⟩

/-- What comes of asking an address while some members are up: the member there answers under its
identifier and lists the cluster if it is up, and otherwise there is no answer. -/
def Answers (M : Cluster) (up : Finset String) (a : Address) :
    Except Failure TopologyView → Prop
  | .ok v => v.identifier ∈ up ∧ ⟨v.identifier, a⟩ ∈ M.members ∧
      ∀ m, m ∈ v.members ↔ m ∈ M.members
  | .error _ => ∀ i ∈ up, ⟨i, a⟩ ∉ M.members

/-- A view that lists the cluster lists the identifiers of its members. -/
lemma contains_iff_mem_identifiers {v : TopologyView}
    (hv : ∀ m, m ∈ v.members ↔ m ∈ M.members) : v.contains i = true ↔ i ∈ M.identifiers := by
  rw [mem_identifiers, TopologyView.contains, List.any_eq_true]
  constructor
  · rintro ⟨m, hm, hi⟩
    exact ⟨m.address, by rw [← beq_iff_eq.mp hi]; exact (hv m).mp hm⟩
  · rintro ⟨a, ha⟩
    exact ⟨_, (hv _).mpr ha, beq_self_eq_true i⟩

variable {up : Finset String} {xs : List (Record × Except Failure TopologyView)}

/-- Who answers is the member that is placed at the address. -/
lemma placed_of_answers (hanswers : ∀ x ∈ xs, M.Answers up x.1.address x.2) :
    ∀ x ∈ xs, ∀ v, x.2 = .ok v → ⟨v.identifier, x.1.address⟩ ∈ M.members := by
  intro x hx v hv
  have hanswer := hanswers x hx
  rw [hv] at hanswer
  exact hanswer.2.1

/-- Who is listed is a member. -/
lemma listed_of_answers (hanswers : ∀ x ∈ xs, M.Answers up x.1.address x.2) :
    ∀ v, Viewed xs v → ∀ m ∈ v.members, m ∈ M.members := by
  rintro v ⟨r, hr⟩ m hm
  exact ((hanswers _ hr).2.2 m).mp hm

end Cluster

end Roster

