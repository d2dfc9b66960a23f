import Roster.Pool
import Roster.Proofs.Discovery.Run
import Roster.Proofs.Tracking.Cluster

/-!
# Setting a pool up for a cluster

If a member of the cluster is up whose address is among those to start from, a pool can be set up,
and it knows the whole cluster then.

* `Cluster.Conforms`: what is asked in an exchange is answered as by the cluster.
* `Tracks.of_bootstrap`: the members to start from that are up are active afterwards.
* `tracks_connect`: a pool that is set up tracks the cluster, and all members are active.
-/

namespace Roster

open Activity Discovery Registry

variable {τ : Type}

namespace Cluster

variable {M : Cluster} {up : Finset String}

/-- If nodes were asked for members, they answered as the cluster does. -/
def Conforms (M : Cluster) (up : Finset String) : Exchange τ → Prop
  | .probed _ as answers => List.Forall₂ (M.Answers up) as answers
  | _ => True

end Cluster

namespace Tracks

variable {M : Cluster} {seeds : List Address} {up : Finset String} {l : Ledger}
  {xs : List (Record × Except Failure TopologyView)}

/-- The answer of a member that is up. -/
lemma answer_of_up {a : Address} {i : String} {answer : Except Failure TopologyView}
    (h : M.Answers up a answer) (hi : i ∈ up) (ha : ⟨i, a⟩ ∈ M.members) :
    ∃ v, answer = .ok v ∧ v.identifier = i ∧ ∀ m, m ∈ v.members ↔ m ∈ M.members := by
  cases answer with
  | error f => exact absurd ha (h i hi)
  | ok v => exact ⟨v, rfl, M.identifier_unique h.2.1 ha, h.2.2⟩

/-- If some member answered a refresh, the listed members are those of the cluster. -/
lemma mem_seen_iff (hanswers : ∀ x ∈ xs, M.Answers up x.1.address x.2)
    (hviewed : ∃ v, Viewed xs v) {i : String} :
    i ∈ (takeRefresh true xs l).1.seen ↔ i ∈ M.identifiers := by
  rw [mem_seen_takeRefresh]
  constructor
  · rintro ⟨-, v, ⟨r, hr⟩, hc⟩
    exact (Cluster.contains_iff_mem_identifiers (hanswers _ hr).2.2).mp hc
  · intro hi
    obtain ⟨v, r, hr⟩ := hviewed
    exact ⟨rfl, v, ⟨r, hr⟩, (Cluster.contains_iff_mem_identifiers (hanswers _ hr).2.2).mpr hi⟩

/-- After the addresses to start from were asked, those members are active that are up and are at
one of them. -/
lemma of_bootstrap {answers : List (Except Failure TopologyView)} {i : String} {a : Address}
    (h : Tracks M seeds l.registry) (hnone : ∀ i, l.registry.find? (.identifier i) = none)
    (hanswers : List.Forall₂ (M.Answers up) seeds answers) (hi : i ∈ up)
    (ha : ⟨i, a⟩ ∈ M.members) (hseed : a ∈ seeds) :
    let result := takeProbes ((seeds.map Record.unresolved).zip answers) {} l
    Tracks M seeds result.2.registry ∧
      (∃ report, result.1 = .ok report ∧ report.recovered ≠ []) ∧
      (∀ j, result.2.registry.isActive? (.identifier j) ≠ some false) ∧
      result.2.registry.isActive? (.identifier i) = some true := by
  intro result
  have hzip : ∀ {b answer}, (b, answer) ∈ seeds.zip answers → M.Answers up b answer :=
    (List.forall₂_iff_zip.mp hanswers).2
  have hplaced : ∀ b v, (b, .ok v) ∈ seeds.zip answers → ⟨v.identifier, b⟩ ∈ M.members :=
    fun b v hx => (hzip hx).2.1
  obtain ⟨htracks, ⟨report, hok, hne⟩, hinactive, hactive⟩ := h.of_seeds hnone hplaced
  obtain ⟨answer, hx⟩ := exists_answer hanswers hseed
  obtain ⟨v, rfl, hvi, -⟩ := answer_of_up (hzip hx) hi ha
  exact ⟨htracks, ⟨report, hok, hne ⟨a, v, hx⟩⟩, hinactive, (hactive i).mpr ⟨a, v, hx, hvi⟩⟩

/-- Once a member of the cluster answers a refresh, the whole cluster is registered. -/
lemma of_refresh {answers : List (Except Failure TopologyView)} {l₁ : Ledger} {i : String}
    (h : Tracks M seeds l.registry) (hl₁ : l₁.registry = l.registry)
    (hanswers : List.Forall₂ (M.Answers up) (l.registry.active.map Record.address) answers)
    (hactive : ∀ j, l.registry.isActive? (.identifier j) ≠ some false) (hi : i ∈ up)
    (hup : l.registry.isActive? (.identifier i) = some true) :
    let reg := (takeRefresh true (asked l.registry answers) l₁).2.registry
    Tracks M seeds reg ∧
      ∀ j, reg.isActive? (.identifier j) = if j ∈ M.identifiers then some true else none := by
  intro reg
  have hasked : ∀ x ∈ asked l.registry answers, M.Answers up x.1.address x.2 :=
    answers_of_forall₂ hanswers
  have htracks : Tracks M seeds reg := of_takeRefresh (hl₁ ▸ h) (Cluster.listed_of_answers hasked)
  have hlength : answers.length = l.registry.active.length := by
    rw [← hanswers.length_eq, List.length_map]
  have hviewed : ∃ v, Viewed (asked l.registry answers) v := by
    obtain ⟨x, hx, hxi⟩ := (active_iff_asked h.wellFormed hlength).mp hup
    have hfits := h.fits (List.of_mem_zip hx).1 i hxi
    obtain ⟨v, hv, -⟩ := answer_of_up (hasked x hx) hi hfits.1
    exact ⟨v, x.1, by rwa [← hv]⟩
  refine ⟨htracks, fun j => ?_⟩
  have hstatus : reg.isActive? (.identifier j) = (l.registry.isActive? (.identifier j)).or
      (if j ∈ M.identifiers then some true else none) := by
    rw [← hl₁, ← if_congr (mem_seen_iff hasked hviewed) rfl rfl]
    exact isActive?_takeRefresh
  rw [hstatus]
  cases hj : l.registry.isActive? (.identifier j) with
  | none => rfl
  | some b =>
      have hmem : j ∈ M.identifiers := by
        obtain ⟨e, he, -⟩ := isActive?_eq_some_iff.mp hj
        exact Cluster.mem_identifiers.mpr ⟨_, h.member he⟩
      cases b with
      | true => simp [hmem]
      | false => exact absurd hj (hactive j)

end Tracks

variable {M : Cluster} {seeds : List Address} {up : Finset String} {s : ClusterSettings}
  {now : Instant} {strategy : Strategy} {t : List (Exchange τ)} {r : Except Failure Pool}
  {l' : Ledger}

/-- A pool that is set up while some member to start from is up knows the whole cluster. -/
lemma tracks_connect (hseeds : Pool.seeds s = .ok seeds) (hdiscover : s.discover = true)
    (hup : ∃ i ∈ up, ∃ a ∈ seeds, ⟨i, a⟩ ∈ M.members)
    (hrun : Runs Ledger.Later (Pool.connect s) (Ledger.start now strategy) t r l')
    (hconforms : ∀ x ∈ t, M.Conforms up x) :
    r = .ok (Pool.ofSettings s) ∧ Tracks M seeds l'.registry ∧
      ∀ i, l'.registry.isActive? (.identifier i) =
        if i ∈ M.identifiers then some true else none := by
  obtain ⟨i, hi, a, hseed, ha⟩ := hup
  simp only [Pool.connect, hseeds, hdiscover, if_true, bind_eq] at hrun
  rw [runs_bootstrap_bind_iff (List.ne_nil_of_mem hseed)] at hrun
  obtain ⟨answers, l₁, t₁, -, hwait₁, rfl, hrun⟩ := hrun
  obtain ⟨hadded, hnone⟩ := Tracks.add_seeds now (List.Subset.refl seeds)
    (Tracks.empty (P := M)) fun i => by simp [find?]
  have h₁ : Tracks M seeds l₁.registry := hwait₁.registry_eq ▸ hadded
  have hnone₁ : ∀ i, l₁.registry.find? (.identifier i) = none := hwait₁.registry_eq ▸ hnone
  obtain ⟨h₂, ⟨report, hok, hne⟩, hinactive, hactive⟩ :=
    h₁.of_bootstrap hnone₁ (hconforms _ List.mem_cons_self) hi ha hseed
  obtain ⟨hresult, hregistry⟩ := bootstrapResult_ok seeds.length report
    (takeProbes ((seeds.map Record.unresolved).zip answers) {} l₁).2
  rw [hok, hresult, if_neg hne] at hrun
  rw [← hregistry] at h₂ hinactive hactive
  rw [runs_refresh_bind_iff] at hrun
  obtain ⟨answers₂, l₂, t₂, -, hwait₂, rfl, hrun⟩ := hrun
  obtain ⟨-, rfl, rfl⟩ := runs_change_iff.mp hrun
  have hmerges : (Pool.ofSettings s).discovery.merges = true := hdiscover
  rw [hmerges]
  exact ⟨rfl, h₂.of_refresh hwait₂.registry_eq
    (hconforms _ (List.mem_cons_of_mem _ List.mem_cons_self)) hinactive hi hactive⟩

end Roster
