import Roster.Proofs.Discovery.Refreshing
import Roster.Proofs.Discovery.Probing
import Roster.Proofs.Registry.Agreement

/-!
# Answers that are taken over in registries that agree

Registries that agree but for the status of some members go on to agree when the same answers are
taken over in both, and the same comes of members that may become active.

* `agrees_takeProbes`: answers of members that may become active.
* `agrees_takeRefresh`: answers of the active members.
-/

namespace Roster

namespace Discovery

open Registry

variable {P : String → Prop} {l l₁ : Ledger}

/-! ### Members that may become active -/

/-- Who answered, in terms of what becomes of the entry under the address. -/
lemma identify_eq_of_none {r : Record} (hr : r.identifier = none) (v : TopologyView) (l : Ledger) :
    identify r v l =
      match (l.registry.resolve r.address v.identifier (some v.topologyHash)).1 with
      | .ok resolution => (some resolution.record,
          (l.resolve r.address v.identifier (some v.topologyHash)).2)
      | .error _ =>
          let l₂ := ((l.resolve r.address v.identifier (some v.topologyHash)).2.mergeMember
            v.identifier r.address (some v.topologyHash)).2
          (l₂.registry.get? v.identifier, l₂) := by
  cases hres : l.resolve r.address v.identifier (some v.topologyHash) with
  | mk result l₂ =>
      have hfst : (l.registry.resolve r.address v.identifier (some v.topologyHash)).1 = result :=
        congrArg Prod.fst hres
      cases result <;> simp only [identify, hr, hres, hfst]

lemma agrees_identify (h : Agrees P l.registry l₁.registry) (hw : l.registry.WellFormed)
    (hw₁ : l₁.registry.WellFormed) (r : Record) (v : TopologyView) :
    (identify r v l₁).1 = (identify r v l).1 ∧
      Agrees P (identify r v l).2.registry (identify r v l₁).2.registry := by
  cases hr : r.identifier with
  | none =>
      obtain ⟨hfst, hres⟩ := h.resolve hw hw₁ r.address v.identifier (some v.topologyHash)
      rw [identify_eq_of_none hr, identify_eq_of_none hr, hfst]
      cases (l.registry.resolve r.address v.identifier (some v.topologyHash)).1 with
      | ok resolution => exact ⟨rfl, hres⟩
      | error f =>
          exact ⟨Agrees.get? (hres.mergeMember _ _ _).2 v.identifier, (hres.mergeMember _ _ _).2⟩
  | some id =>
      by_cases hid : id = v.identifier
      · subst hid
        rw [identify_self hr, identify_self hr]
        exact ⟨rfl, h.updateHash _ _⟩
      · obtain ⟨l₂, hi, hreg⟩ := identify_other (l := l) hr hid
        obtain ⟨l₃, hi₁, hreg₁⟩ := identify_other (l := l₁) hr hid
        rw [hi, hi₁]
        refine ⟨rfl, ?_⟩
        rw [hreg, hreg₁]
        exact (h.mergeMember _ _ _).2

/-- A member that becomes active in both, or in none. -/
lemma agrees_activate (h : Agrees P l.registry l₁.registry) (hw : l.registry.WellFormed)
    (hw₁ : l₁.registry.WellFormed) (r : Record) :
    ((∃ n n₁, (l.activate [r]).1 = .ok n ∧ (l₁.activate [r]).1 = .ok n₁) ∨
        ∃ f, (l.activate [r]).1 = .error f ∧ (l₁.activate [r]).1 = .error f) ∧
      Agrees P (l.activate [r]).2.registry (l₁.activate [r]).2.registry := by
  cases hc : l.registry.contains r.key with
  | true =>
      have hall : ∀ s ∈ [r], l.registry.contains s.key = true := by simpa using hc
      have hall₁ : ∀ s ∈ [r], l₁.registry.contains s.key = true := by
        simpa [h.contains] using hc
      exact ⟨Or.inl ⟨_, _, (setStatus_of_contains hall).1, (setStatus_of_contains hall₁).1⟩,
        h.setStatus hw hw₁ hall hall₁ fun _ => Or.inr Iff.rfl⟩
  | false =>
      have hm : l.registry.missing? [r] = some r.key := by simp [missing?, hc]
      have hm₁ : l₁.registry.missing? [r] = some r.key := by simp [missing?, h.contains, hc]
      simp only [Ledger.activate, Ledger.setStatus, setStatus_of_missing hm,
        setStatus_of_missing hm₁]
      exact ⟨Or.inr ⟨_, rfl, rfl⟩, h⟩

lemma agrees_recover (h : Agrees P l.registry l₁.registry) (hw : l.registry.WellFormed)
    (hw₁ : l₁.registry.WellFormed) (r : Record) (v : TopologyView) (report : ProbeReport) :
    (recover r v report l₁).1 = (recover r v report l).1 ∧
      Agrees P (recover r v report l).2.registry (recover r v report l₁).2.registry := by
  obtain ⟨hfst, hagree⟩ := agrees_identify h hw hw₁ r v
  have hwell := (identify_via r v l).wellFormed hw
  have hwell₁ := (identify_via r v l₁).wellFormed hw₁
  cases hi : identify r v l with
  | mk current? l₂ =>
      cases hi₁ : identify r v l₁ with
      | mk current?₁ l₃ =>
          rw [hi, hi₁] at hfst hagree
          rw [hi] at hwell
          rw [hi₁] at hwell₁
          obtain rfl : current?₁ = current? := hfst
          cases current?₁ with
          | none =>
              simp only [recover, hi, hi₁, true_and]
              exact hagree
          | some current =>
              obtain ⟨hresult, hactivate⟩ := agrees_activate hagree hwell hwell₁ current
              cases ha : l₂.activate [current] with
              | mk result l₄ =>
                  cases ha₁ : l₃.activate [current] with
                  | mk result₁ l₅ =>
                      rw [ha, ha₁] at hresult hactivate
                      rcases hresult with ⟨n, n₁, hn, hn₁⟩ | ⟨f, hf, hf₁⟩
                      · obtain rfl : result = .ok n := hn
                        obtain rfl : result₁ = .ok n₁ := hn₁
                        simp only [recover, hi, hi₁, ha, ha₁, true_and]
                        exact hactivate
                      · obtain rfl : result = .error f := hf
                        obtain rfl : result₁ = .error f := hf₁
                        simp only [recover, hi, hi₁, ha, ha₁, true_and]
                        exact hactivate

/-- The same comes of all answers of members that may become active. -/
lemma agrees_takeProbes (h : Agrees P l.registry l₁.registry) (hw : l.registry.WellFormed)
    (hw₁ : l₁.registry.WellFormed) (xs : List (Record × Except Failure TopologyView))
    (report : ProbeReport) :
    (takeProbes xs report l₁).1 = (takeProbes xs report l).1 ∧
      Agrees P (takeProbes xs report l).2.registry (takeProbes xs report l₁).2.registry := by
  induction xs generalizing report l l₁ with
  | nil => exact ⟨rfl, h⟩
  | cons x xs ih =>
      obtain ⟨r, answer⟩ := x
      cases answer with
      | error f =>
          have hnote : Agrees P (l.note (probeFailed r f)).registry
              (l₁.note (probeFailed r f)).registry := h
          rw [takeProbes, takeProbes]
          exact ih hnote hw hw₁ _
      | ok v =>
          obtain ⟨hfst, hagree⟩ := agrees_recover h hw hw₁ r v report
          cases hres : (recover r v report l).1 with
          | error f =>
              rw [takeProbes_cons_error hres, takeProbes_cons_error (hfst.trans hres)]
              exact ⟨rfl, hagree⟩
          | ok report' =>
              rw [takeProbes_cons_ok xs hres, takeProbes_cons_ok xs (hfst.trans hres)]
              exact ih hagree ((recover_leadsTo hw r v report).wellFormed hw)
                ((recover_leadsTo hw₁ r v report).wellFormed hw₁) _

/-! ### Active members -/

lemma agrees_mergeListings (hash : String) (ms : List Listing) {acc acc' : RefreshReport × Ledger}
    (h : Agrees P acc.2.registry acc'.2.registry) :
    Agrees P (ms.foldl (mergeListing hash) acc).2.registry
      (ms.foldl (mergeListing hash) acc').2.registry := by
  induction ms generalizing acc acc' with
  | nil => exact h
  | cons m ms ih =>
      obtain ⟨report, l⟩ := acc
      obtain ⟨report', l'⟩ := acc'
      rw [List.foldl_cons, List.foldl_cons, mergeListing_eq, mergeListing_eq]
      exact ih (h.mergeMember _ _ _).2

lemma agrees_acknowledge (h : Agrees P l.registry l₁.registry) (r : Record) (v : TopologyView) :
    Agrees P (acknowledge r v l).2.registry (acknowledge r v l₁).2.registry := by
  cases hr : r.identifier with
  | none => simpa only [acknowledge, hr] using h
  | some id =>
      by_cases hid : id = v.identifier
      · simp only [acknowledge, hr, if_pos hid]
        exact h.updateHash _ _
      · simp only [acknowledge, hr, if_neg hid]
        exact h

lemma agrees_merged {merges : Bool} {acc acc' : RefreshReport × Ledger}
    (h : Agrees P acc.2.registry acc'.2.registry) (r : Record) (v : TopologyView) :
    Agrees P (merged r v merges acc).2.registry (merged r v merges acc').2.registry := by
  cases merges with
  | false => exact agrees_acknowledge h r v
  | true => exact agrees_mergeListings _ _ (agrees_acknowledge h r v)

/-- All answers of the active members. -/
lemma agrees_takeRefresh {merges : Bool} (h : Agrees P l.registry l₁.registry)
    (xs : List (Record × Except Failure TopologyView)) :
    Agrees P (takeRefresh merges xs l).2.registry (takeRefresh merges xs l₁).2.registry := by
  have hfold : ∀ acc acc' : RefreshReport × Ledger, Agrees P acc.2.registry acc'.2.registry →
      Agrees P (xs.foldl (takeRefreshOne merges) acc).2.registry
        (xs.foldl (takeRefreshOne merges) acc').2.registry := by
    induction xs with
    | nil => exact fun _ _ h => h
    | cons x xs ih =>
        intro acc acc' hacc
        obtain ⟨r, answer⟩ := x
        rw [List.foldl_cons, List.foldl_cons]
        refine ih _ _ ?_
        cases answer with
        | error f => exact hacc
        | ok v =>
            rw [snd_takeRefreshOne_ok, snd_takeRefreshOne_ok]
            exact agrees_merged hacc r v
  exact hfold _ _ h

end Discovery

end Roster
