import Roster.Proofs.Discovery.Refreshing

/-!
# Members that make way

A member that is new takes the place of an entry that stands under its address. Which entries
without an identifier are left after the active members answered is told by what was listed: an
entry makes way exactly if somebody is new and is listed at its address before being listed
anywhere else.

* `Displaced`: somebody new is listed first at an address.
* `Absorbs`: what becomes of the keys when listed members are taken over.
* `contains_identifier_takeRefresh`, `contains_address_takeRefresh`: the keys after all answers.
-/

namespace Roster

namespace Registry

variable {reg reg' reg'' : Registry} {a : Address} {i : String} {ms ms' : List Listing}

/-- Somebody who is not registered is listed, and for the first time at an address. -/
def Displaced (reg : Registry) (ms : List Listing) (a : Address) : Prop :=
  ∃ i, reg.contains (.identifier i) = false ∧ (ms.find? fun m => m.identifier == i) = some ⟨i, a⟩

lemma displaced_singleton_iff {m : Listing} :
    Displaced reg [m] a ↔ m.address = a ∧ reg.contains (.identifier m.identifier) = false := by
  obtain ⟨j, b⟩ := m
  simp only [Displaced, List.find?_singleton]
  constructor
  · rintro ⟨i, hi, hfind⟩
    split_ifs at hfind with hj
    obtain ⟨rfl, rfl⟩ : j = i ∧ b = a := by simpa using hfind
    exact ⟨rfl, hi⟩
  · rintro ⟨rfl, hj⟩
    exact ⟨j, hj, by simp⟩

/-- Who is new to those that are listed later is new at all, and was not listed before. -/
lemma displaced_append_iff (h : ∀ i, reg'.contains (.identifier i) = true ↔
      reg.contains (.identifier i) = true ∨ ∃ m ∈ ms, m.identifier = i) :
    Displaced reg (ms ++ ms') a ↔ Displaced reg ms a ∨ Displaced reg' ms' a := by
  have hnew : ∀ i, reg'.contains (.identifier i) = false ↔
      reg.contains (.identifier i) = false ∧ (ms.find? fun m => m.identifier == i) = none := by
    intro i
    rw [← Bool.not_eq_true, h]
    simp
  simp only [Displaced, hnew, List.find?_append, Option.or_eq_some_iff]
  constructor
  · rintro ⟨i, hi, hfirst | ⟨hnone, hfirst⟩⟩
    · exact Or.inl ⟨i, hi, hfirst⟩
    · exact Or.inr ⟨i, ⟨hi, hnone⟩, hfirst⟩
  · rintro (⟨i, hi, hfirst⟩ | ⟨i, ⟨hi, hnone⟩, hfirst⟩)
    · exact ⟨i, hi, Or.inl hfirst⟩
    · exact ⟨i, hi, Or.inr ⟨hnone, hfirst⟩⟩

/-- What becomes of the keys when listed members are taken over: their identifiers are added, and
addresses make way for those that are new. -/
structure Absorbs (ms : List Listing) (reg reg' : Registry) : Prop where
  identifier : ∀ i, reg'.contains (.identifier i) = true ↔
    reg.contains (.identifier i) = true ∨ ∃ m ∈ ms, m.identifier = i
  address : ∀ a, reg'.contains (.address a) = true ↔
    reg.contains (.address a) = true ∧ ¬ Displaced reg ms a

namespace Absorbs

lemma refl (reg : Registry) : Absorbs [] reg reg :=
  ⟨fun i => by simp, fun a => by simp [Displaced]⟩

lemma single (now : Instant) (m : Listing) (hash : Option String) :
    Absorbs [m] reg (reg.mergeMember now m.identifier m.address hash).2 := by
  refine ⟨fun i => ?_, fun a => ?_⟩
  · rw [contains_mergeMember]
    simp [eq_comm (a := i), or_comm]
  · rw [contains_mergeMember, displaced_singleton_iff]
    simp [eq_comm (a := a)]

/-- Members that are listed later find those registered that were listed before. -/
lemma trans (h : Absorbs ms reg reg') (h' : Absorbs ms' reg' reg'') :
    Absorbs (ms ++ ms') reg reg'' := by
  refine ⟨fun i => ?_, fun a => ?_⟩
  · rw [h'.identifier, h.identifier, or_assoc]
    simp [or_and_right, exists_or]
  · rw [h'.address, h.address, displaced_append_iff h.identifier]
    tauto

/-- Changes afterwards that leave the keys as they are do not matter. -/
lemma to_contains_eq (h : Absorbs ms reg reg')
    (hkeys : ∀ k, reg''.contains k = reg'.contains k) : Absorbs ms reg reg'' :=
  ⟨fun i => by rw [hkeys, h.identifier], fun a => by rw [hkeys, h.address]⟩

end Absorbs

end Registry

namespace Discovery

open Registry

variable {merges : Bool} {l : Ledger} {xs : List (Record × Except Failure TopologyView)}

/-- What is listed is what some view lists. -/
lemma mem_listings_iff {m : Listing} : m ∈ listings xs ↔ ∃ v, Viewed xs v ∧ m ∈ v.members := by
  simp only [listings, List.mem_flatMap]
  constructor
  · rintro ⟨⟨r, answer⟩, hx, hm⟩
    cases answer with
    | error f => exact absurd hm (by simp)
    | ok v => exact ⟨v, ⟨r, hx⟩, hm⟩
  · rintro ⟨v, ⟨r, hx⟩, hm⟩
    exact ⟨_, hx, hm⟩

/-- Somebody is listed if some view lists it. -/
lemma exists_mem_listings_iff {i : String} :
    (∃ m ∈ listings xs, m.identifier = i) ↔ ∃ v, Viewed xs v ∧ v.contains i = true := by
  simp only [mem_listings_iff, TopologyView.contains, List.any_eq_true, beq_iff_eq]
  constructor
  · rintro ⟨m, ⟨v, hv, hm⟩, hi⟩
    exact ⟨v, hv, m, hm, hi⟩
  · rintro ⟨v, hv, m, hm, hi⟩
    exact ⟨m, ⟨v, hv, hm⟩, hi⟩

/-- The keys after all answers, if listed members are taken over. -/
lemma absorbs_takeRefresh :
    Absorbs (listings xs) l.registry (takeRefresh true xs l).2.registry :=
  takeRefresh_listings_induction true xs l (P := fun ms _ _ reg => Absorbs ms l.registry reg)
    (fun _ _ _ _ id hash hP => hP.to_contains_eq fun _ => contains_updateHash id hash)
    (fun _ v _ m _ _ _ _ _ now hP => hP.trans (Absorbs.single now m (some v.topologyHash)))
    (Absorbs.refl _)

/-- Without taking listed members over, the answers leave the keys as they are. -/
lemma contains_takeRefresh_false (k : Key) :
    (takeRefresh false xs l).2.registry.contains k = l.registry.contains k :=
  takeRefresh_induction (P := fun _ _ reg => reg.contains k = l.registry.contains k)
    (fun _ _ _ id hash hP => (contains_updateHash id hash).trans hP)
    (fun hmerges => absurd hmerges (by simp)) rfl

/-- Who is registered after all answers: who was before, and who was listed, if listed members are
taken over. -/
lemma contains_identifier_takeRefresh {i : String} :
    (takeRefresh merges xs l).2.registry.contains (.identifier i) = true ↔
      l.registry.contains (.identifier i) = true ∨
        merges = true ∧ ∃ v, Viewed xs v ∧ v.contains i = true := by
  cases merges with
  | false => simp [contains_takeRefresh_false]
  | true => simp [absorbs_takeRefresh.identifier, exists_mem_listings_iff]

/-- An entry without an identifier is left after all answers unless it makes way for somebody who is
new. -/
lemma contains_address_takeRefresh (a : Address) :
    (takeRefresh merges xs l).2.registry.contains (.address a) = true ↔
      l.registry.contains (.address a) = true ∧
        ¬ (merges = true ∧ Displaced l.registry (listings xs) a) := by
  cases merges with
  | false => simp [contains_takeRefresh_false]
  | true => simpa using absorbs_takeRefresh.address a

end Discovery

end Roster
