import Roster.Proofs.Discovery.Counting
import Roster.Proofs.Discovery.Run

/-!
# What a refresh comes to

A refresh asks the active members once and takes over whom they list. Its report and the members that
are registered afterwards are told here by the answers. Views may list a member repeatedly and
contradict each other, and they count even if they come from a member that answered in place of
another one.

* `lastListed?`: the address at which an identifier is listed last.
* `address_takeRefresh`: this is where a member is registered.
* `added_takeRefresh`: how many members are counted as new.
* `Refreshed`: all that the answers make of the report and of the registry.
* `refresh_outcome`: every refresh comes to this, and every answers make one.
-/

namespace Roster

namespace Discovery

open Activity Registry

variable {τ : Type} {d : Discovery} {l : Ledger} {i : String} {ms : List Listing} {m : Listing}
  {xs : List (Record × Except Failure TopologyView)} {x : Record × Except Failure TopologyView}

/-! ### Members with and without a fault -/

/-- An answer is without a fault if it is given by a member that had no identifier, or under the one
that it had. -/
lemma fault?_eq_none_iff : fault? x = none ↔
    ∃ v, x.2 = .ok v ∧ (x.1.identifier = none ∨ x.1.identifier = some v.identifier) := by
  obtain ⟨r, answer⟩ := x
  cases answer with
  | error f => simp [fault?]
  | ok v =>
      cases hr : r.identifier with
      | none => simp [fault?, hr]
      | some id => simp [fault?, hr]

/-- What is wrong with an answer: there is none, or it is given under another identifier. -/
lemma fault?_eq_some_iff {f : Failure} : fault? x = some f ↔ x.2 = .error f ∨
    ∃ v id, x.2 = .ok v ∧ x.1.identifier = some id ∧ id ≠ v.identifier ∧ f = impostor x.1 v := by
  obtain ⟨r, answer⟩ := x
  cases answer with
  | error f => simp [fault?]
  | ok v =>
      cases hr : r.identifier with
      | none => simp [fault?, hr]
      | some id => simp [fault?, hr, eq_comm (a := f)]

/-! ### Where listed members are registered -/

/-- The address at which an identifier is listed last. -/
def lastListed? (ms : List Listing) (i : String) : Option Address :=
  ((ms.filter fun m => m.identifier == i).getLast?).map Listing.address

lemma lastListed?_concat (ms : List Listing) (m : Listing) (i : String) :
    lastListed? (ms ++ [m]) i = if m.identifier = i then some m.address else lastListed? ms i := by
  by_cases hi : m.identifier = i <;> simp [lastListed?, hi]

/-- Whoever is listed is registered where it is listed last, and the others where they were. -/
lemma address_takeRefresh (i : String) :
    ((takeRefresh true xs l).2.registry.get? i).map Record.address =
      (lastListed? (listings xs) i).or ((l.registry.get? i).map Record.address) := by
  refine takeRefresh_listings_induction true xs l
    (P := fun ms _ _ reg => (reg.get? i).map Record.address =
      (lastListed? ms i).or ((l.registry.get? i).map Record.address))
    (fun ms _ _ reg id hash hP => ?_) (fun _ v _ m _ ms _ _ reg now hP => ?_) rfl
  · rw [← hP, ← map_fst_outline, ← map_fst_outline, outline_of_unhashed (unhashed_updateHash id hash)]
  · rw [← map_fst_outline, outline_mergeMember, lastListed?_concat]
    by_cases hi : m.identifier = i
    · simp [hi]
    · rw [if_neg hi, if_neg (by simpa using Ne.symm hi), if_neg (by simp), map_fst_outline]
      exact hP

/-! ### How many members are new -/

/-- The identifiers that are listed and were not registered. -/
def unknown (reg : Registry) (ms : List Listing) : Finset String :=
  (ms.map Listing.identifier).toFinset.filter fun i => reg.contains (.identifier i) = false

lemma mem_unknown_iff {reg : Registry} :
    i ∈ unknown reg ms ↔ (∃ m ∈ ms, m.identifier = i) ∧ reg.contains (.identifier i) = false := by
  simp [unknown]

/-- One more listed member is counted if it is not registered by then. -/
lemma card_unknown_concat {reg reg' : Registry} (h : Absorbs ms reg reg') (m : Listing) :
    (unknown reg (ms ++ [m])).card =
      (unknown reg ms).card + if reg'.contains (.identifier m.identifier) = false then 1 else 0 := by
  split_ifs with hc
  · -- It was neither registered before nor listed so far.
    rw [← Bool.not_eq_true, h.identifier, not_or] at hc
    have hout : m.identifier ∉ unknown reg ms := fun hm => hc.2 (mem_unknown_iff.mp hm).1
    have hinsert : unknown reg (ms ++ [m]) = insert m.identifier (unknown reg ms) := by
      ext i
      simp only [mem_unknown_iff, Finset.mem_insert, List.mem_append, List.mem_singleton, or_and_right,
        exists_or, exists_eq_left]
      by_cases hi : i = m.identifier
      · simp [hi, Bool.not_eq_true _ ▸ hc.1]
      · simp [hi, Ne.symm hi]
    rw [hinsert, Finset.card_insert_of_notMem hout]
  · -- It is no newcomer, or it has been counted.
    rw [Bool.not_eq_false, h.identifier] at hc
    rw [Nat.add_zero]
    refine congrArg Finset.card (Finset.ext fun i => ?_)
    simp only [mem_unknown_iff, List.mem_append, List.mem_singleton, or_and_right, exists_or,
      exists_eq_left]
    refine or_iff_left_of_imp ?_
    rintro ⟨rfl, hi⟩
    exact ⟨hc.resolve_left (by simp [hi]), hi⟩

/-- All who are listed and were not registered are counted as new, each of them once. -/
lemma added_takeRefresh :
    (takeRefresh true xs l).1.added = (unknown l.registry (listings xs)).card := by
  refine (takeRefresh_listings_induction true xs l
    (P := fun ms added _ reg => Absorbs ms l.registry reg ∧ added = (unknown l.registry ms).card)
    (fun ms _ _ reg id hash hP => ⟨hP.1.to_contains_eq fun _ => contains_updateHash id hash, hP.2⟩)
    (fun _ v _ m _ ms _ _ reg now hP => ⟨hP.1.trans (Absorbs.single now m _), ?_⟩)
    ⟨Absorbs.refl _, rfl⟩).2
  rw [card_unknown_concat hP.1, hP.2]
  simp only [added_mergeMember_iff]

/-! ### The whole refresh -/

/-- What the answers of the active members come to, if listed members are taken over: the report, and
the members that are registered then. -/
structure Refreshed (reg : Registry) (answers : List (Except Failure TopologyView))
    (report : RefreshReport) (reg' : Registry) : Prop where
  split : (report.reached ++ report.failed.map Prod.fst).Perm reg.active
  reached_sublist : report.reached.Sublist reg.active
  failed_sublist : (report.failed.map Prod.fst).Sublist reg.active
  mem_reached_iff : ∀ r, r ∈ report.reached ↔ ∃ v, (r, .ok v) ∈ asked reg answers ∧
    (r.identifier = none ∨ r.identifier = some v.identifier)
  mem_failed_iff : ∀ r f, (r, f) ∈ report.failed ↔ (r, .error f) ∈ asked reg answers ∨
    ∃ v id, (r, .ok v) ∈ asked reg answers ∧ r.identifier = some id ∧ id ≠ v.identifier ∧
      f = impostor r v
  mem_seen_iff : ∀ i, i ∈ report.seen ↔ ∃ v, Viewed (asked reg answers) v ∧ v.contains i = true
  sawTopology_iff : report.sawTopology = true ↔
    ∃ v, Viewed (asked reg answers) v ∧ v.members ≠ []
  added_eq : report.added =
    (report.seen.toFinset.filter fun i => reg.contains (.identifier i) = false).card
  contains_iff : ∀ i, reg'.contains (.identifier i) = true ↔
    reg.contains (.identifier i) = true ∨ i ∈ report.seen
  status : ∀ i, reg'.isActive? (.identifier i) =
    (reg.isActive? (.identifier i)).or (if i ∈ report.seen then some true else none)
  address : ∀ i, (reg'.get? i).map Record.address =
    (lastListed? (listings (asked reg answers)) i).or ((reg.get? i).map Record.address)

lemma refreshed_takeRefresh {answers : List (Except Failure TopologyView)}
    (hlength : answers.length = l.registry.active.length) :
    Refreshed l.registry answers (takeRefresh true (asked l.registry answers) l).1
      (takeRefresh true (asked l.registry answers) l).2.registry := by
  have hactive : (asked l.registry answers).map Prod.fst = l.registry.active := map_fst_asked hlength
  have hseen : ∀ i, i ∈ (takeRefresh true (asked l.registry answers) l).1.seen ↔
      ∃ v, Viewed (asked l.registry answers) v ∧ v.contains i = true := by
    intro i
    rw [mem_seen_takeRefresh, and_iff_right rfl]
  refine ⟨?_, ?_, ?_, fun r => ?_, fun r f => ?_, hseen, ?_, ?_, fun i => ?_,
    fun i => isActive?_takeRefresh, fun i => address_takeRefresh i⟩
  · rw [reached_takeRefresh, map_fst_failed_takeRefresh, ← List.map_append, ← hactive]
    exact (List.filter_append_perm _ _).map Prod.fst
  · rw [reached_takeRefresh, ← hactive]
    exact List.filter_sublist.map Prod.fst
  · rw [map_fst_failed_takeRefresh, ← hactive]
    exact List.filter_sublist.map Prod.fst
  · simp [reached_takeRefresh, fault?_eq_none_iff]
  · simp [failed_takeRefresh, fault?_eq_some_iff, and_or_left, exists_or]
  · rw [sawTopology_takeRefresh, and_iff_right rfl]
  · rw [added_takeRefresh]
    congr 1
    ext i
    rw [mem_unknown_iff, exists_mem_listings_iff, Finset.mem_filter, List.mem_toFinset, hseen]
  · rw [contains_identifier_takeRefresh, hseen, and_iff_right rfl]

/-- **What a refresh comes to.** Let listed members be taken over, and let nobody else change the
registry. Whatever the active members answer, a refresh ends with a report, after one round of
questions; and every refresh is of this kind, with what its answers come to:

* Those that were reached and those that failed split the active members, in their order. A member
  failed if it gave no answer, or had an identifier and answered under another one.
* All identifiers are seen that some view lists, also if it came from another member than was asked.
* Those seen that were not registered are counted as new, each of them once. They are active then,
  and nobody else is registered in addition.
* Whoever is seen is registered where it was listed last, views being taken in the order of the
  active members. The others stay where they were, and whoever was registered keeps its status. -/
theorem refresh_outcome (hmerges : d.merges = true) (l : Ledger) :
    (∀ answers : List (Except Failure TopologyView), answers.length = l.registry.active.length →
      ∃ report l', Runs Ledger.Later (d.refresh : Activity τ RefreshReport) l
        [.probed l.registry (l.registry.active.map Record.address) answers] report l') ∧
    ∀ t report l', Runs Ledger.Later (d.refresh : Activity τ RefreshReport) l t report l' →
      ∃ answers, answers.length = l.registry.active.length ∧
        t = [.probed l.registry (l.registry.active.map Record.address) answers] ∧
        Refreshed l.registry answers report l'.registry := by
  refine ⟨fun answers hlength => ?_, fun t report l' hrun => ?_⟩
  · exact ⟨_, _, runs_refresh_iff.mpr ⟨answers, l, hlength, Ledger.Later.refl l, rfl, rfl, rfl⟩⟩
  · obtain ⟨answers, l₁, hlength, hwait, rfl, rfl, rfl⟩ := runs_refresh_iff.mp hrun
    refine ⟨answers, hlength, rfl, ?_⟩
    rw [← hwait.registry_eq] at hlength
    rw [hmerges, ← hwait.registry_eq]
    exact refreshed_takeRefresh hlength

/-- Two views disagree about a new member, and the later one is that of a member that answered in
place of another one: the new member is active and registered where it was listed last. -/
lemma refresh_outcome_disputed :
    let place (name : String) : Address := ⟨"http", none, .whole name, none, none⟩
    let a := Record.resolved (place "a") "a" none
    let b := Record.resolved (place "b") "b" none
    let l : Ledger := ⟨0, ⟨[.fresh a true 0, .fresh (.unresolved (place "c")) false 0,
      .fresh b true 0]⟩, .new .first, []⟩
    let d : Discovery := ⟨⟨1⟩, true⟩
    let own : TopologyView := ⟨"a", "h", [⟨"c", place "c"⟩]⟩
    let other : TopologyView := ⟨"z", "h", [⟨"c", place "e"⟩]⟩
    d.merges = true ∧ ∃ (report : RefreshReport) (l' : Ledger),
      Runs Ledger.Later (d.refresh : Activity Unit RefreshReport) l
        [.probed l.registry [a.address, b.address] [.ok own, .ok other]] report l' ∧
      a ∈ report.reached ∧ (b, impostor b other) ∈ report.failed ∧
      (l'.registry.get? "c").map Record.address = some (place "e") ∧
      l'.registry.isActive? (.identifier "c") = some true := by
  intro place a b l d own other
  obtain ⟨hexists, hall⟩ := refresh_outcome (τ := Unit) (d := d) rfl l
  obtain ⟨report, l', hrun⟩ := hexists [.ok own, .ok other] rfl
  obtain ⟨answers, -, ht, h⟩ := hall _ _ _ hrun
  obtain rfl : [.ok own, .ok other] = answers := by simpa using ht
  have hasked : asked l.registry [.ok own, .ok other] = [(a, .ok own), (b, .ok other)] := rfl
  have hseen : "c" ∈ report.seen := (h.mem_seen_iff "c").mpr ⟨own, ⟨a, by simp [hasked]⟩, rfl⟩
  refine ⟨rfl, report, l', hrun, ?_, ?_, ?_, ?_⟩
  · exact (h.mem_reached_iff a).mpr ⟨own, by simp [hasked], Or.inr rfl⟩
  · exact (h.mem_failed_iff b _).mpr
      (Or.inr ⟨other, "b", by simp [hasked], rfl, by decide, rfl⟩)
  · rw [h.address]
    rfl
  · rw [h.status, if_pos hseen]
    rfl

end Discovery

end Roster
