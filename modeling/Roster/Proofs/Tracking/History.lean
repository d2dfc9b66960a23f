import Roster.Proofs.Tracking.Passing

/-!
# Pools that track a cluster

A pool is set up and then makes passes, one after the other. Whichever members of its cluster are
up each time, the pool knows after each pass which ones they are.

* `Cluster.Governs`: a client answers as the cluster does while some members are up. There is
  such a client, `Cluster.answering`.
* `History`: a pool that is set up and makes passes, with the client of each time.
* `History.tracks_cluster`: what the pool knows and tells each time.
-/

namespace Roster

open Activity Discovery Registry

variable {σ τ : Type}

/-- The identifiers of the active members. -/
def Registry.activeIdentifiers (reg : Registry) : Finset String :=
  (reg.active.filterMap Record.identifier).toFinset

/-- A client answers as the cluster does while some members are up, whatever it was asked
before. -/
def Cluster.Governs (M : Cluster) (up : Finset String) (c : Client (StateM σ) τ) : Prop :=
  ∀ limit as st, List.Forall₂ (M.Answers up) as ((c.probe limit as).run st).1

/-- What an activity yields with a client of the cluster is a run with answers of the cluster. -/
lemma Cluster.Governs.exists_runs {M : Cluster} {up : Finset String} {c : Client (StateM σ) τ}
    (h : M.Governs up c) {α : Type} (a : Activity τ α) (l : Ledger) (st : σ) :
    ∃ t, Runs Ledger.Later a l t (((runWith c a).run l).run st).1.1
        (((runWith c a).run l).run st).1.2 ∧
      ∀ x ∈ t, M.Conforms up x := by
  obtain ⟨t, hrun, hanswers⟩ := exists_runs_of_answers h a l st
  refine ⟨t, hrun, fun x hx => ?_⟩
  cases x with
  | probed reg as answers => exact hanswers reg as answers hx
  | gossiped reg peer answer => trivial
  | called reg node answer => trivial

/-- The client of a cluster whose members list it as it is. -/
def Cluster.answering (M : Cluster) (up : Finset String) : Client (StateM Unit) Unit where
  probe limit as := pure <| as.map fun a =>
    match M.members.find? fun m => m.address = a ∧ m.identifier ∈ up with
    | some m => .ok ⟨m.identifier, "", M.members⟩
    | none => .error (.noAnswer a limit)
  gossip limit a := pure (.error (.noAnswer a limit))
  call _ := pure (.ok ())

/-- Every cluster has a client, whoever is up. -/
lemma Cluster.governs_answering (M : Cluster) {up : Finset String} :
    M.Governs up (M.answering up) := by
  intro limit as st
  refine List.forall₂_map_right_iff.mpr (List.forall₂_same.mpr fun a _ => ?_)
  cases hm : M.members.find? fun m => m.address = a ∧ m.identifier ∈ up with
  | none =>
      intro i hi ha
      simpa [hi] using List.find?_eq_none.mp hm _ ha
  | some m =>
      have hmem := List.mem_of_find?_eq_some hm
      obtain ⟨rfl, hup⟩ : m.address = a ∧ m.identifier ∈ up := by
        simpa using List.find?_some hm
      exact ⟨hup, hmem, fun _ => Iff.rfl⟩

/-- A pool that is set up and then makes passes: its settings, and when each of these activities
begins, who answers in it, and what that client was asked before. -/
structure History (σ τ : Type) where
  settings : ClusterSettings
  strategy : Strategy
  clock : ℕ → Instant
  client : ℕ → Client (StateM σ) τ
  state : ℕ → σ

namespace History

variable (H : History σ τ)

/-- What setting the pool up yields. -/
def connected : Except Failure Pool × Ledger :=
  (((runWith (H.client 0) (Pool.connect H.settings)).run
    (.start (H.clock 0) H.strategy)).run (H.state 0)).1

/-- What the `n`-th pass yields in a ledger. -/
def passed (n : ℕ) (l : Ledger) : Except Failure PassSummary × Ledger :=
  (((runWith (H.client n) (Pool.ofSettings H.settings).watch.pass).run
    { l with now := H.clock n }).run (H.state n)).1

/-- The ledger once the pool is set up and has made `n` passes. -/
def ledger : ℕ → Ledger
  | 0 => H.connected.2
  | n + 1 => (H.passed (n + 1) (ledger n)).2

end History

section Reading

variable {M : Cluster} {seeds : List Address} {reg : Registry} {active : Finset String}

/-- Which identifiers are active in a registry that shows the cluster. -/
lemma activeIdentifiers_eq (h : Tracks M seeds reg) (hshows : reg.Shows M active)
    (hactive : active ⊆ M.identifiers) : reg.activeIdentifiers = active := by
  ext i
  have hiff : i ∈ reg.activeIdentifiers ↔ reg.isActive? (.identifier i) = some true := by
    rw [h.wellFormed.isActive?_identifier_iff, activeIdentifiers, List.mem_toFinset,
      List.mem_filterMap]
    rfl
  rw [hiff, hshows i]
  by_cases hi : i ∈ M.identifiers
  · simp [hi]
  · have hnot : i ∉ active := fun hmem => hi (hactive hmem)
    simp [hi, hnot]

/-- Every member of the cluster is registered once, at its address. -/
lemma registered_once (h : Tracks M seeds reg) (hshows : reg.Shows M active) {m : Listing}
    (hm : m ∈ M.members) :
    ∃ e, reg.entries.filter (fun e => e.record.identifier = some m.identifier) = [e] ∧
      e.record.address = m.address := by
  obtain ⟨e, he⟩ := contains_iff_exists_find?.mp
    (hshows.contains (Cluster.mem_identifiers.mpr ⟨m.address, hm⟩))
  exact ⟨e, h.wellFormed.filter_identifier he, M.address_unique (h.member he) hm⟩

/-- What else is registered stands for addresses to start from that no member has. -/
lemma placeholder_of_unresolved (h : Tracks M seeds reg) (hshows : reg.Shows M active) {e : Entry}
    (he : e ∈ reg.entries) (hid : e.record.identifier = none) :
    e.active = false ∧ ∃ a ∈ seeds, e.record = .unresolved a ∧ ∀ m ∈ M.members, m.address ≠ a := by
  have hkey : e.key = .address e.record.address := by
    rw [h.wellFormed.placed e he, Record.key_eq_address_iff.mpr ⟨hid, rfl⟩]
  obtain ⟨hseed, hrecord, hact, hnone⟩ :=
    h.placeholder (h.wellFormed.find?_iff.mpr ⟨he, hkey⟩)
  refine ⟨hact, e.record.address, hseed, hrecord, fun m hm ha => ?_⟩
  have hmissing := hnone m.identifier (by rw [← ha]; exact hm)
  rw [find?_eq_none_iff,
    hshows.contains (Cluster.mem_identifiers.mpr ⟨m.address, hm⟩)] at hmissing
  exact absurd hmissing (by simp)

end Reading

namespace History

variable {M : Cluster} {seeds : List Address} {up : ℕ → Finset String} {H : History σ τ}

/-- Which members of the cluster are active once the pool is set up and has made some passes: all
of them at first, and then those that were up in the last pass. -/
def active (M : Cluster) (up : ℕ → Finset String) : ℕ → Finset String
  | 0 => M.identifiers
  | n + 1 => up (n + 1)

lemma active_subset (hup : ∀ n, up n ⊆ M.identifiers) (n : ℕ) :
    active M up n ⊆ M.identifiers := by
  cases n with
  | zero => exact Finset.Subset.refl _
  | succ n => exact hup (n + 1)

/-- The pool can be set up, and knows the cluster then. -/
lemma tracks_connected (hinterval : 0 < H.settings.watchIntervalMs)
    (htimeout : 0 < H.settings.requestTimeoutMs) (hdiscover : H.settings.discover = true)
    (hseeds : H.settings.seeds.mapM Address.ofNodeText = .ok seeds)
    (hsome : ∃ i ∈ up 0, ∃ a ∈ seeds, ⟨i, a⟩ ∈ M.members)
    (hclient : M.Governs (up 0) (H.client 0)) :
    H.connected.1 = .ok (Pool.ofSettings H.settings) ∧ Tracks M seeds (H.ledger 0).registry ∧
      (H.ledger 0).registry.Shows M M.identifiers := by
  have hok : Pool.seeds H.settings = .ok seeds := by
    have hwatch : H.settings.watchInterval.nanos ≠ 0 := Nat.mul_ne_zero (by simp) hinterval.ne'
    have hrequest : H.settings.requestTimeout.nanos ≠ 0 := Nat.mul_ne_zero (by simp) htimeout.ne'
    rw [Pool.seeds, if_neg hwatch, if_neg hrequest, hseeds]
  obtain ⟨t, hrun, hconforms⟩ := hclient.exists_runs (Pool.connect H.settings)
    (.start (H.clock 0) H.strategy) (H.state 0)
  obtain ⟨hresult, htracks, hactive⟩ := tracks_connect hok hdiscover hsome hrun hconforms
  refine ⟨hresult, htracks, fun i => ?_⟩
  rw [ledger, connected, hactive i]
  split_ifs with hi <;> simp [hi]

/-- A pass of the pool, from a ledger in which the cluster is known. -/
lemma tracks_passed {n : ℕ} (hdiscover : H.settings.discover = true)
    (hgossip : H.settings.gossipMaxAge? = none) (hup : ∀ n, up n ⊆ M.identifiers)
    (hclient : M.Governs (up (n + 1)) (H.client (n + 1)))
    (h : Tracks M seeds (H.ledger n).registry)
    (hshows : (H.ledger n).registry.Shows M (active M up n)) :
    (H.passed (n + 1) (H.ledger n)).1 = .ok {
        deactivated := (active M up n \ up (n + 1)).card
        reactivated := (up (n + 1) \ active M up n).card } ∧
      Tracks M seeds (H.ledger (n + 1)).registry ∧
      (H.ledger (n + 1)).registry.Shows M (active M up (n + 1)) := by
  obtain ⟨t, hrun, hconforms⟩ := hclient.exists_runs (Pool.ofSettings H.settings).watch.pass
    { H.ledger n with now := H.clock (n + 1) } (H.state (n + 1))
  exact tracks_pass (l := { H.ledger n with now := H.clock (n + 1) }) hdiscover hgossip h hshows
    (active_subset hup n) (hup (n + 1)) hrun hconforms

/-- **Tracking.** Let a pool be set up with positive times, taking over what members list and
asking nobody what was heard, while some member of its cluster is up whose address is among those
to start from. Then it can be set up, and knows all members of the cluster as active ones. After
each pass those members are active that are up, whichever were up before. Always, every member
of the cluster is registered once and at its address, nobody else has an identifier, and what else
is registered is inactive and stands for addresses to start from that no member has. A pass
tells how many members became inactive and active, and that none is new, has moved or was kept. -/
theorem tracks_cluster (hinterval : 0 < H.settings.watchIntervalMs)
    (htimeout : 0 < H.settings.requestTimeoutMs) (hdiscover : H.settings.discover = true)
    (hgossip : H.settings.gossipMaxAge? = none)
    (hseeds : H.settings.seeds.mapM Address.ofNodeText = .ok seeds)
    (hup : ∀ n, up n ⊆ M.identifiers) (hsome : ∃ i ∈ up 0, ∃ a ∈ seeds, ⟨i, a⟩ ∈ M.members)
    (hclient : ∀ n, M.Governs (up n) (H.client n)) :
    H.connected.1 = .ok (Pool.ofSettings H.settings) ∧
    (H.ledger 0).registry.activeIdentifiers = M.identifiers ∧
    (∀ n, (H.ledger (n + 1)).registry.activeIdentifiers = up (n + 1) ∧
      (H.passed (n + 1) (H.ledger n)).1 = .ok {
        deactivated := ((H.ledger n).registry.activeIdentifiers \ up (n + 1)).card
        reactivated := (up (n + 1) \ (H.ledger n).registry.activeIdentifiers).card
        added := 0
        relocated := 0
        keptByGossip := 0 }) ∧
    ∀ n,
      (∀ m ∈ M.members, ∃ e,
        (H.ledger n).registry.entries.filter
          (fun e => e.record.identifier = some m.identifier) = [e] ∧
        e.record.address = m.address) ∧
      (∀ e ∈ (H.ledger n).registry.entries, ∀ i, e.record.identifier = some i →
        i ∈ M.identifiers) ∧
      ∀ e ∈ (H.ledger n).registry.entries, e.record.identifier = none →
        e.active = false ∧
          ∃ a ∈ seeds, e.record = .unresolved a ∧ ∀ m ∈ M.members, m.address ≠ a := by
  obtain ⟨hconnected, htracks₀, hshows₀⟩ :=
    tracks_connected hinterval htimeout hdiscover hseeds hsome (hclient 0)
  have hall : ∀ n, Tracks M seeds (H.ledger n).registry ∧
      (H.ledger n).registry.Shows M (active M up n) := by
    intro n
    induction n with
    | zero => exact ⟨htracks₀, hshows₀⟩
    | succ n ih => exact (tracks_passed hdiscover hgossip hup (hclient (n + 1)) ih.1 ih.2).2
  have hactive : ∀ n, (H.ledger n).registry.activeIdentifiers = active M up n := fun n =>
    activeIdentifiers_eq (hall n).1 (hall n).2 (active_subset hup n)
  refine ⟨hconnected, hactive 0, fun n => ⟨hactive (n + 1), ?_⟩, fun n => ⟨?_, ?_, ?_⟩⟩
  · rw [hactive n]
    exact (tracks_passed hdiscover hgossip hup (hclient (n + 1)) (hall n).1 (hall n).2).1
  · exact fun m hm => registered_once (hall n).1 (hall n).2 hm
  · intro e he i hi
    have hkey : e.key = .identifier i := by
      rw [(hall n).1.wellFormed.placed e he, Record.key_eq_identifier_iff.mpr hi]
    exact Cluster.mem_identifiers.mpr
      ⟨_, (hall n).1.member ((hall n).1.wellFormed.find?_iff.mpr ⟨he, hkey⟩)⟩
  · exact fun e he hid => placeholder_of_unresolved (hall n).1 (hall n).2 he hid

/-- Two members that are up in turns. -/
lemma tracks_cluster_inTurns :
    let place (n : UInt16) : Address :=
      ⟨"http", some (.ofHost (some (.v6 #v[0, 0, 0, 0, 0, 0, 0, n])) none), .segments [""], none,
        none⟩
    let M : Cluster := ⟨[⟨"a", place 1⟩, ⟨"b", place 2⟩], by decide, by decide⟩
    let up (n : ℕ) : Finset String := if n % 2 = 0 then {"a"} else {"b"}
    let H : History Unit Unit :=
      ⟨{ seeds := ["[::1]"] }, .first, fun n => n, fun n => M.answering (up n), fun _ => ()⟩
    H.connected.1 = .ok (Pool.ofSettings H.settings) ∧
      (H.ledger 0).registry.activeIdentifiers = {"a", "b"} ∧
      (H.passed 2 (H.ledger 1)).1 = .ok { deactivated := 1, reactivated := 1 } ∧
      (H.ledger 2).registry.activeIdentifiers = {"a"} := by
  intro place M up H
  have hseeds : H.settings.seeds.mapM Address.ofNodeText = .ok [place 1] := by decide +kernel
  have hmembers : M.identifiers = {"a", "b"} := by decide
  have hup : ∀ n, up n ⊆ M.identifiers := by
    intro n
    rw [hmembers]
    by_cases hn : n % 2 = 0 <;> simp [up, hn]
  obtain ⟨hconnected, hfirst, hpassed, -⟩ := tracks_cluster (H := H) (M := M) (by decide)
    (by decide) rfl rfl hseeds hup
    ⟨"a", by decide, place 1, List.mem_singleton_self _, List.mem_cons_self⟩
    fun n => M.governs_answering
  refine ⟨hconnected, hfirst.trans hmembers, ?_, (hpassed 1).1⟩
  rw [(hpassed 1).2, (hpassed 0).1]
  decide

end History

end Roster
