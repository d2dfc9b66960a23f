import Mathlib.Data.List.Forall2
import Roster.Discovery
import Roster.Proofs.Activity.Run
import Roster.Proofs.Discovery.Probing
import Roster.Proofs.Discovery.Refreshing

/-!
# Runs of the search for members

The runs of `probeNodes`, `refresh` and `bootstrap`, each as the one round of questions that it
asks and what its answers do.

* `runs_probeNodes_bind_iff`, `runs_refresh_bind_iff`: the round comes first, and what follows goes
  on with the report; `runs_probeNodes_iff` and `runs_refresh_iff` if nothing follows.
* `runs_bootstrap_bind_iff`: the members to start from are entered, and then asked.
* `active_iff_asked`: a refresh asks the active members, each of them once.
-/

namespace Roster

namespace Discovery

open Activity Registry

variable {τ α : Type} {others : Ledger → Ledger → Prop} {d : Discovery} {l l' : Ledger}
  {t : List (Exchange τ)} {r : α}

/-- The members that are asked by `refresh`, with their answers. -/
def asked (reg : Registry) (answers : List (Except Failure TopologyView)) :
    List (Record × Except Failure TopologyView) :=
  reg.active.zip answers

lemma runs_probeNodes_bind_iff {records : List Record}
    {k : Except Failure ProbeReport → Activity τ α} :
    Runs others ((d.probeNodes records).bind k) l t r l' ↔
      ∃ answers l₁ t', answers.length = records.length ∧ others l l₁ ∧
        t = .probed l.registry (records.map Record.address) answers :: t' ∧
        Runs others (k (takeProbes (records.zip answers) {} l₁).1)
          (takeProbes (records.zip answers) {} l₁).2 t' r l' := by
  rw [probeNodes, bind_eq, bind_assoc, runs_probeAll_bind_iff]
  simp only [runs_change_bind_iff, List.length_map]

lemma runs_refresh_bind_iff {k : RefreshReport → Activity τ α} :
    Runs others (d.refresh.bind k) l t r l' ↔
      ∃ answers l₁ t', answers.length = l.registry.active.length ∧ others l l₁ ∧
        t = .probed l.registry (l.registry.active.map Record.address) answers :: t' ∧
        Runs others (k (takeRefresh d.merges (asked l.registry answers) l₁).1)
          (takeRefresh d.merges (asked l.registry answers) l₁).2 t' r l' := by
  rw [refresh, bind_eq, bind_assoc, runs_look_bind_iff, bind_eq, bind_assoc,
    runs_probeAll_bind_iff]
  simp only [runs_change_bind_iff, List.length_map, asked]

lemma runs_bootstrap_bind_iff {seeds : List Address} (hne : seeds ≠ [])
    {k : Except Failure Nat → Activity τ α} :
    Runs others ((d.bootstrap seeds).bind k) l t r l' ↔
      ∃ answers l₁ t', answers.length = seeds.length ∧
        others (l.add (seeds.map Record.unresolved)) l₁ ∧
        t = .probed (l.add (seeds.map Record.unresolved)).registry seeds answers :: t' ∧
        Runs others
          (k (bootstrapResult seeds.length
            (takeProbes ((seeds.map Record.unresolved).zip answers) {} l₁).1
            (takeProbes ((seeds.map Record.unresolved).zip answers) {} l₁).2).1)
          (bootstrapResult seeds.length
            (takeProbes ((seeds.map Record.unresolved).zip answers) {} l₁).1
            (takeProbes ((seeds.map Record.unresolved).zip answers) {} l₁).2).2 t' r l' := by
  have hempty : seeds.isEmpty = false := by simpa using hne
  have haddress : (seeds.map Record.unresolved).map Record.address = seeds := by
    rw [List.map_map]
    exact List.map_id seeds
  simp only [bootstrap, hempty, Bool.false_eq_true, if_false, bind_eq, bind_assoc]
  rw [runs_change_bind_iff, runs_probeNodes_bind_iff]
  simp only [runs_change_bind_iff, List.length_map, haddress]

lemma runs_probeNodes_iff {records : List Record} {r : Except Failure ProbeReport} :
    Runs others (d.probeNodes records : Activity τ (Except Failure ProbeReport)) l t r l' ↔
      ∃ answers l₁, answers.length = records.length ∧ others l l₁ ∧
        t = [.probed l.registry (records.map Record.address) answers] ∧
        r = (takeProbes (records.zip answers) {} l₁).1 ∧
        l' = (takeProbes (records.zip answers) {} l₁).2 := by
  rw [← bind_done (d.probeNodes records), runs_probeNodes_bind_iff]
  simp only [runs_done_iff]
  constructor
  · rintro ⟨answers, l₁, _, hlength, hwait, rfl, rfl, hr, hl'⟩
    exact ⟨answers, l₁, hlength, hwait, rfl, hr, hl'⟩
  · rintro ⟨answers, l₁, hlength, hwait, rfl, hr, hl'⟩
    exact ⟨answers, l₁, [], hlength, hwait, rfl, rfl, hr, hl'⟩

lemma runs_refresh_iff {r : RefreshReport} :
    Runs others (d.refresh : Activity τ RefreshReport) l t r l' ↔
      ∃ answers l₁, answers.length = l.registry.active.length ∧ others l l₁ ∧
        t = [.probed l.registry (l.registry.active.map Record.address) answers] ∧
        r = (takeRefresh d.merges (asked l.registry answers) l₁).1 ∧
        l' = (takeRefresh d.merges (asked l.registry answers) l₁).2 := by
  rw [← bind_done d.refresh, runs_refresh_bind_iff]
  simp only [runs_done_iff]
  constructor
  · rintro ⟨answers, l₁, _, hlength, hwait, rfl, rfl, hr, hl'⟩
    exact ⟨answers, l₁, hlength, hwait, rfl, hr, hl'⟩
  · rintro ⟨answers, l₁, hlength, hwait, rfl, hr, hl'⟩
    exact ⟨answers, l₁, [], hlength, hwait, rfl, rfl, hr, hl'⟩

/-- What the answers to start from come to; the registry is left as it is. -/
lemma bootstrapResult_ok (n : Nat) (report : ProbeReport) (l : Ledger) :
    (bootstrapResult n (.ok report) l).1 =
        (if report.recovered = [] then .error (.noReachableSeeds n)
        else .ok report.recovered.length) ∧
      (bootstrapResult n (.ok report) l).2.registry = l.registry := by
  simp only [bootstrapResult, List.isEmpty_iff]
  split_ifs <;> exact ⟨rfl, rfl⟩

/-- What holds of addresses and their answers holds of the members that were asked there. -/
lemma answers_of_forall₂ {p : Address → Except Failure TopologyView → Prop}
    {records : List Record} {answers : List (Except Failure TopologyView)}
    (h : List.Forall₂ p (records.map Record.address) answers) :
    ∀ x ∈ records.zip answers, p x.1.address x.2 := by
  rw [List.forall₂_map_left_iff] at h
  exact fun x hx => (List.forall₂_iff_zip.mp h).2 hx

/-- Every address that is asked has an answer. -/
lemma exists_answer {p : Address → Except Failure TopologyView → Prop} {as : List Address}
    {answers : List (Except Failure TopologyView)} (h : List.Forall₂ p as answers) {a : Address}
    (ha : a ∈ as) : ∃ answer, (a, answer) ∈ as.zip answers := by
  rw [← List.map_fst_zip h.length_eq.le] at ha
  obtain ⟨⟨b, answer⟩, hx, rfl⟩ := List.mem_map.mp ha
  exact ⟨answer, hx⟩

/-! ### The members that are asked -/

variable {answers : List (Except Failure TopologyView)} {i : String}

lemma map_fst_asked (hlength : answers.length = l.registry.active.length) :
    (asked l.registry answers).map Prod.fst = l.registry.active :=
  List.map_fst_zip hlength.ge

/-- An active member that is asked has an entry. -/
lemma contains_asked (h : l.registry.WellFormed) {x : Record × Except Failure TopologyView}
    (hx : x ∈ asked l.registry answers) : l.registry.contains x.1.key = true := by
  obtain ⟨e, he, -⟩ := h.mem_withStatus_iff.mp (List.of_mem_zip hx).1
  exact contains_iff_exists_find?.mpr ⟨e, he⟩

/-- Nobody is asked twice. -/
lemma keys_asked_nodup (h : l.registry.WellFormed)
    (hlength : answers.length = l.registry.active.length) :
    ((asked l.registry answers).map fun x => x.1.key).Nodup := by
  have hkeys : ((asked l.registry answers).map fun x => x.1.key) =
      l.registry.active.map Record.key := by
    rw [← map_fst_asked hlength, List.map_map]
    rfl
  rw [hkeys]
  exact h.keys_withStatus_nodup true

/-- The members that are asked are the active ones. -/
lemma active_iff_asked (h : l.registry.WellFormed)
    (hlength : answers.length = l.registry.active.length) :
    l.registry.isActive? (.identifier i) = some true ↔
      ∃ x ∈ asked l.registry answers, x.1.identifier = some i := by
  have hactive : l.registry.isActive? (.identifier i) = some true ↔
      ∃ r ∈ l.registry.active, r.identifier = some i := h.isActive?_identifier_iff
  rw [hactive, ← map_fst_asked hlength]
  simp

end Discovery

end Roster
