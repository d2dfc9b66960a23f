import Mathlib.Data.Set.Card
import Roster.Proofs.Tracking.Placement

/-!
# Landscapes of members that list one another

Each member has its place, and if it answers, it lists some members; these may be a part of all,
and some of them may not answer. Who is found by asking again and again is told by the ways along
which members list one another.

* `Landscape`, and `Landscape.Answers`: what an address answers.
* `Landscape.Way`: a way of some length along which each member answers and lists the next one.
* `Landscape.Within`, `Landscape.AtDistance`: who is reached from the addresses to start from by at
  most so many steps, and by no fewer.
* `within_succ_iff`, `atDistance_eq_empty`: one round more, and rounds after one in which nobody is
  new.
-/

namespace Roster

/-- Members at their places, and whom each of them lists if it answers. -/
structure Landscape extends Placement where
  lists : String → Option (List Listing)
  sites_of_listed : ∀ {i ms m}, lists i = some ms → m ∈ ms → m ∈ sites

namespace Landscape

variable {L : Landscape} {seeds : List Address} {k n : ℕ} {i j : String}

/-- What comes of asking an address: a member that is placed there and answers does so under its
identifier, with the members that it lists, in any order; one that does not answer does not. -/
def Answers (L : Landscape) (a : Address) (answer : Except Failure TopologyView) : Prop :=
  ∀ i, ⟨i, a⟩ ∈ L.sites →
    match L.lists i with
    | some ms => ∃ v, answer = .ok v ∧ v.identifier = i ∧ ∀ m, m ∈ v.members ↔ m ∈ ms
    | none => ∃ f, answer = .error f

/-- A member answers. -/
def Up (L : Landscape) (i : String) : Prop := (L.lists i).isSome = true

/-- A member answers, and lists another one. -/
def Lists (L : Landscape) (i j : String) : Prop :=
  ∃ ms, L.lists i = some ms ∧ ∃ m ∈ ms, m.identifier = j

/-- A member is placed at one of the addresses to start from, and answers. -/
def Starts (L : Landscape) (seeds : List Address) (i : String) : Prop :=
  (∃ a ∈ seeds, ⟨i, a⟩ ∈ L.sites) ∧ L.Up i

/-- A way of some length, on which each member answers and lists the next one. -/
inductive Way (L : Landscape) : ℕ → String → String → Prop
  | here (i : String) : Way L 0 i i
  | step {n : ℕ} {i j k : String} (h : Way L n i j) (hj : L.Lists j k) : Way L (n + 1) i k

/-- A member is reached by a way of some length from a member to start from. -/
def Reached (L : Landscape) (seeds : List Address) (n : ℕ) (i : String) : Prop :=
  ∃ s, L.Starts seeds s ∧ L.Way n s i

/-- A member is reached by at most so many steps. -/
def Within (L : Landscape) (seeds : List Address) (k : ℕ) (i : String) : Prop :=
  ∃ n ≤ k, L.Reached seeds n i

/-- A member is reached by so many steps and by no fewer. -/
def AtDistance (L : Landscape) (seeds : List Address) (k : ℕ) (i : String) : Prop :=
  L.Reached seeds k i ∧ ∀ n < k, ¬ L.Reached seeds n i

/-! ### What is answered -/

lemma answer_of_up {a : Address} {answer : Except Failure TopologyView} (h : L.Answers a answer)
    (ha : ⟨i, a⟩ ∈ L.sites) {ms : List Listing} (hms : L.lists i = some ms) :
    ∃ v, answer = .ok v ∧ v.identifier = i ∧ ∀ m, m ∈ v.members ↔ m ∈ ms := by
  have hanswer := h i ha
  rwa [hms] at hanswer

/-- Who answers at the place of a member is this one. -/
lemma up_of_answer {a : Address} {v : TopologyView} (h : L.Answers a (.ok v))
    (ha : ⟨i, a⟩ ∈ L.sites) :
    v.identifier = i ∧ ∃ ms, L.lists i = some ms ∧ ∀ m, m ∈ v.members ↔ m ∈ ms := by
  have hanswer := h i ha
  cases hms : L.lists i with
  | none =>
      rw [hms] at hanswer
      obtain ⟨f, hf⟩ := hanswer
      exact absurd hf (by simp)
  | some ms =>
      rw [hms] at hanswer
      obtain ⟨v', hv, hvi, hmembers⟩ := hanswer
      cases hv
      exact ⟨hvi, ms, rfl, hmembers⟩

/-! ### Rounds -/

lemma way_succ_iff : L.Way (n + 1) i j ↔ ∃ k, L.Way n i k ∧ L.Lists k j := by
  constructor
  · intro h
    cases h with
    | step h hj => exact ⟨_, h, hj⟩
  · rintro ⟨k, h, hj⟩
    exact .step h hj

lemma within_zero_iff : L.Within seeds 0 i ↔ L.Starts seeds i := by
  constructor
  · rintro ⟨n, hn, s, hs, hway⟩
    obtain rfl : n = 0 := Nat.le_zero.mp hn
    cases hway with
    | here => exact hs
  · exact fun hs => ⟨0, le_rfl, i, hs, .here i⟩

/-- One round more reaches those that are listed by one that is reached already. -/
lemma within_succ_iff :
    L.Within seeds (k + 1) j ↔ L.Within seeds k j ∨ ∃ i, L.Within seeds k i ∧ L.Lists i j := by
  constructor
  · rintro ⟨n, hn, s, hs, hway⟩
    rcases Nat.lt_or_eq_of_le hn with hn | rfl
    · exact Or.inl ⟨n, Nat.le_of_lt_succ hn, s, hs, hway⟩
    · obtain ⟨i, hi, hij⟩ := way_succ_iff.mp hway
      exact Or.inr ⟨i, ⟨k, le_rfl, s, hs, hi⟩, hij⟩
  · rintro (⟨n, hn, hreached⟩ | ⟨i, ⟨n, hn, s, hs, hway⟩, hij⟩)
    · exact ⟨n, Nat.le_succ_of_le hn, hreached⟩
    · exact ⟨n + 1, Nat.succ_le_succ hn, s, hs, .step hway hij⟩

lemma atDistance_succ_iff :
    L.AtDistance seeds (k + 1) i ↔ L.Within seeds (k + 1) i ∧ ¬ L.Within seeds k i := by
  constructor
  · rintro ⟨hreached, hno⟩
    exact ⟨⟨k + 1, le_rfl, hreached⟩, fun ⟨n, hn, h⟩ => hno n (Nat.lt_succ_of_le hn) h⟩
  · rintro ⟨⟨n, hn, hreached⟩, hno⟩
    rcases Nat.lt_or_eq_of_le hn with hn | rfl
    · exact absurd ⟨n, Nat.le_of_lt_succ hn, hreached⟩ hno
    · exact ⟨hreached, fun n hn h => hno ⟨n, Nat.le_of_lt_succ hn, h⟩⟩

/-- If one round reaches nobody who is new, no later one does. -/
lemma within_of_closed (hclosed : ∀ i, L.Within seeds (k + 1) i → L.Within seeds k i) (hn : k ≤ n) :
    L.Within seeds n i ↔ L.Within seeds k i := by
  induction n, hn using Nat.le_induction generalizing i with
  | base => exact Iff.rfl
  | succ n _ ih =>
      -- Those who are listed by one that is reached are reached by one more step, and so already.
      simp only [within_succ_iff, ih]
      exact ⟨fun h => hclosed i (within_succ_iff.mpr h), Or.inl⟩

/-- If nobody is one step further away, nobody is further away than that. -/
lemma atDistance_eq_empty (h : {i | L.AtDistance seeds (k + 1) i} = ∅) (hn : k ≤ n) :
    {i | L.AtDistance seeds (n + 1) i} = ∅ := by
  have hclosed : ∀ i, L.Within seeds (k + 1) i → L.Within seeds k i := by
    intro i hi
    by_contra hno
    exact Set.eq_empty_iff_forall_notMem.mp h i (atDistance_succ_iff.mpr ⟨hi, hno⟩)
  refine Set.eq_empty_iff_forall_notMem.mpr fun i hi => ?_
  obtain ⟨hlater, hno⟩ := atDistance_succ_iff.mp hi
  rw [within_of_closed hclosed (Nat.le_succ_of_le hn)] at hlater
  exact hno ((within_of_closed hclosed hn).mpr hlater)

end Landscape

end Roster
