import Roster.Proofs.Discovery.Run
import Roster.Proofs.Tracking.Landscape

/-!
# Searching a landscape

A pool asks the addresses to start from, and then again and again the members that it knows. While
nobody in the landscape moves, round after round those are found that are one step further away,
until nobody is new.

* `Landscape.Explored`: what is registered once everybody is found within some number of steps.
* `Explored.viewed_iff`: who is listed in the next round.
* `Explored.explored_takeRefresh`, `Explored.counts_takeRefresh`: the next round, and what it
  counts.
* `Search`: a search in rounds, with the client of each one.
* `Search.finds_reachable`: who is found after each round.
-/

namespace Roster

open Activity Discovery Landscape Registry

variable {σ τ : Type} {L : Landscape} {seeds : List Address} {k : ℕ}

namespace Landscape

/-- A client answers as the landscape does, whatever it was asked before. -/
def Governs (L : Landscape) (c : Client (StateM σ) τ) : Prop :=
  ∀ limit as st, List.Forall₂ L.Answers as ((c.probe limit as).run st).1

/-- Everybody who is within some number of steps is registered, at its place and as active, and
nobody else has an identifier. -/
structure Explored (L : Landscape) (seeds : List Address) (k : ℕ) (reg : Registry) : Prop where
  tracks : Tracks L.toPlacement seeds reg
  active : ∀ i, reg.isActive? (.identifier i) ≠ some false
  found : ∀ i, reg.contains (.identifier i) = true ↔ L.Within seeds k i

namespace Explored

variable {l l₁ : Ledger} {answers : List (Except Failure TopologyView)} {i j : String}

lemma isActive?_iff (h : L.Explored seeds k l.registry) :
    l.registry.isActive? (.identifier i) = some true ↔ L.Within seeds k i :=
  (active_iff_contains (h.active i)).trans (h.found i)

lemma mem_identifiers {reg : Registry} (h : L.Explored seeds k reg) :
    i ∈ reg.identifiers ↔ L.Within seeds k i :=
  h.tracks.wellFormed.mem_identifiers.trans (h.found i)

/-- Once the addresses to start from were asked, those are found that answered there. -/
lemma of_seeds (h : Tracks L.toPlacement seeds l.registry)
    (hnone : ∀ i, l.registry.find? (.identifier i) = none)
    (hseeds : ∀ a ∈ seeds, ∃ i, ⟨i, a⟩ ∈ L.sites)
    (hanswers : List.Forall₂ L.Answers seeds answers) :
    let result := takeProbes ((seeds.map Record.unresolved).zip answers) {} l
    L.Explored seeds 0 result.2.registry ∧
      ∃ report, result.1 = .ok report ∧
        ((∃ i, L.Starts seeds i) → report.recovered ≠ []) := by
  intro result
  have hzip : ∀ {a answer}, (a, answer) ∈ seeds.zip answers → L.Answers a answer :=
    (List.forall₂_iff_zip.mp hanswers).2
  have hplaced : ∀ a v, (a, .ok v) ∈ seeds.zip answers → ⟨v.identifier, a⟩ ∈ L.sites := by
    intro a v hx
    obtain ⟨i, hi⟩ := hseeds a (List.of_mem_zip hx).1
    rwa [(up_of_answer (hzip hx) hi).1]
  have hstarts : ∀ i, L.Starts seeds i ↔
      ∃ a v, (a, .ok v) ∈ seeds.zip answers ∧ v.identifier = i := by
    intro i
    constructor
    · rintro ⟨⟨a, ha, hsite⟩, hup⟩
      obtain ⟨ms, hms⟩ := Option.isSome_iff_exists.mp hup
      obtain ⟨answer, hx⟩ := exists_answer hanswers ha
      obtain ⟨v, rfl, hv, -⟩ := answer_of_up (hzip hx) hsite hms
      exact ⟨a, v, hx, hv⟩
    · rintro ⟨a, v, hx, rfl⟩
      have hsite := hplaced a v hx
      obtain ⟨-, ms, hms, -⟩ := up_of_answer (hzip hx) hsite
      exact ⟨⟨a, (List.of_mem_zip hx).1, hsite⟩, by rw [Up, hms]; rfl⟩
  obtain ⟨htracks, ⟨report, hok, hrecovered⟩, hactive, hwho⟩ := h.of_seeds hnone hplaced
  refine ⟨⟨htracks, hactive, fun i => ?_⟩, report, hok, ?_⟩
  · rw [within_zero_iff, hstarts, ← hwho]
    exact (active_iff_contains (hactive i)).symm
  · rintro ⟨i, hi⟩
    obtain ⟨a, v, hx, -⟩ := (hstarts i).mp hi
    exact hrecovered ⟨a, v, hx⟩

section Round

variable (h : L.Explored seeds k l.registry)
  (hanswers : List.Forall₂ L.Answers (l.registry.active.map Record.address) answers)

include h hanswers

/-- Those are listed in the next round whom somebody lists that is found and answers. -/
lemma viewed_iff : (∃ v, Viewed (asked l.registry answers) v ∧ v.contains j = true) ↔
    ∃ i, L.Within seeds k i ∧ L.Lists i j := by
  have hasked : ∀ x ∈ asked l.registry answers, L.Answers x.1.address x.2 :=
    answers_of_forall₂ hanswers
  have hlength : answers.length = l.registry.active.length := by
    rw [← hanswers.length_eq, List.length_map]
  constructor
  · rintro ⟨v, ⟨r, hr⟩, hj⟩
    have hactive : r ∈ l.registry.active := (List.of_mem_zip hr).1
    obtain ⟨i, hi⟩ := h.tracks.identifier_of_active hactive
    obtain ⟨hsite, hc⟩ := h.tracks.fits hactive i hi
    obtain ⟨-, ms, hms, hmembers⟩ := up_of_answer (hasked _ hr) hsite
    obtain ⟨m, hm, hmj⟩ := List.any_eq_true.mp hj
    exact ⟨i, (h.found i).mp hc, ms, hms, m, (hmembers m).mp hm, beq_iff_eq.mp hmj⟩
  · rintro ⟨i, hi, ms, hms, m, hm, rfl⟩
    obtain ⟨x, hx, hxi⟩ :=
      (active_iff_asked h.tracks.wellFormed hlength).mp (h.isActive?_iff.mpr hi)
    obtain ⟨hsite, -⟩ := h.tracks.fits (List.of_mem_zip hx).1 i hxi
    obtain ⟨v, hv, -, hmembers⟩ := answer_of_up (hasked x hx) hsite hms
    refine ⟨v, ⟨x.1, by rwa [← hv]⟩, List.any_eq_true.mpr ⟨m, (hmembers m).mpr hm, ?_⟩⟩
    exact beq_self_eq_true _

/-- Everybody who is listed is listed at its place. -/
lemma sites_of_viewed :
    ∀ v, Viewed (asked l.registry answers) v → ∀ m ∈ v.members, m ∈ L.sites := by
  rintro v ⟨r, hr⟩ m hm
  have hactive : r ∈ l.registry.active := (List.of_mem_zip hr).1
  obtain ⟨i, hi⟩ := h.tracks.identifier_of_active hactive
  obtain ⟨hsite, -⟩ := h.tracks.fits hactive i hi
  obtain ⟨-, ms, hms, hmembers⟩ := up_of_answer (answers_of_forall₂ hanswers _ hr) hsite
  exact L.sites_of_listed hms ((hmembers m).mp hm)

variable (hl₁ : l₁.registry = l.registry)

include hl₁

/-- One round more finds those that are one step further away. -/
lemma explored_takeRefresh :
    L.Explored seeds (k + 1) (takeRefresh true (asked l.registry answers) l₁).2.registry := by
  have h₁ : Tracks L.toPlacement seeds l₁.registry := hl₁ ▸ h.tracks
  refine ⟨h₁.of_takeRefresh (h.sites_of_viewed hanswers), fun i hi => ?_, fun i => ?_⟩
  · -- A refresh gives nobody who is registered another status, and enters others as active.
    rw [isActive?_takeRefresh, hl₁] at hi
    have hactive := h.active i
    cases hstatus : l.registry.isActive? (.identifier i) with
    | none =>
        rw [hstatus] at hi
        split_ifs at hi <;> exact absurd hi (by simp)
    | some b =>
        rw [hstatus] at hi hactive
        exact hactive hi
  · rw [contains_identifier_takeRefresh, hl₁, h.found, within_succ_iff, h.viewed_iff hanswers]
    simp

/-- Those count as new that are one step further away, and nobody has moved. -/
lemma counts_takeRefresh :
    ((takeRefresh true (asked l.registry answers) l₁).1.added : ℕ∞) =
        {i | L.AtDistance seeds (k + 1) i}.encard ∧
      (takeRefresh true (asked l.registry answers) l₁).1.relocated = 0 := by
  have h₁ : Tracks L.toPlacement seeds l₁.registry := hl₁ ▸ h.tracks
  obtain ⟨-, hcount, hrelocated⟩ :=
    h₁.counted_takeRefresh (h.sites_of_viewed hanswers) true
  have hnext := h.explored_takeRefresh hanswers hl₁
  -- A refresh counts by how many the registered identifiers are more than before.
  have hnew : {i | L.AtDistance seeds (k + 1) i} =
      ((takeRefresh true (asked l.registry answers) l₁).2.registry.identifiers \
        l.registry.identifiers : Finset String) := by
    ext i
    rw [Finset.mem_coe, Finset.mem_sdiff, hnext.mem_identifiers, h.mem_identifiers]
    exact atDistance_succ_iff
  have hsubset : l.registry.identifiers ⊆
      (takeRefresh true (asked l.registry answers) l₁).2.registry.identifiers := by
    intro i hi
    exact hnext.mem_identifiers.mpr (within_succ_iff.mpr (Or.inl (h.mem_identifiers.mp hi)))
  rw [hl₁] at hcount
  rw [hnew, Set.encard_coe_eq_coe_finsetCard, Finset.card_sdiff_of_subset hsubset, ← hcount,
    Nat.add_sub_cancel]
  exact ⟨rfl, hrelocated⟩

end Round

end Explored

end Landscape

/-- A search for members that asks the addresses to start from, and then the members that are known,
in rounds: how it asks, and when each round begins, who answers in it, and what that client was
asked before. -/
structure Search (σ τ : Type) where
  discovery : Discovery
  seeds : List Address
  strategy : Strategy
  clock : ℕ → Instant
  client : ℕ → Client (StateM σ) τ
  state : ℕ → σ

namespace Search

variable (S : Search σ τ)

/-- What asking the addresses to start from yields. -/
def bootstrapped : Except Failure Nat × Ledger :=
  (((runWith (S.client 0) (S.discovery.bootstrap S.seeds)).run
    (.start (S.clock 0) S.strategy)).run (S.state 0)).1

/-- What the `n`-th refresh yields in a ledger. -/
def refreshed (n : ℕ) (l : Ledger) : RefreshReport × Ledger :=
  (((runWith (S.client n) S.discovery.refresh).run { l with now := S.clock n }).run (S.state n)).1

/-- The ledger after `n` refreshes. -/
def ledger : ℕ → Ledger
  | 0 => S.bootstrapped.2
  | n + 1 => (S.refreshed (n + 1) (ledger n)).2

/-- What the refresh after the first `n` ones reports. -/
def report (n : ℕ) : RefreshReport := (S.refreshed (n + 1) (S.ledger n)).1

variable {S}

/-- After the addresses to start from were asked, those are found that answered. -/
lemma explored_bootstrapped (hseeds : ∀ a ∈ S.seeds, ∃ i, ⟨i, a⟩ ∈ L.sites)
    (hsome : ∃ i, L.Starts S.seeds i) (hclient : L.Governs (S.client 0)) :
    (∃ n, S.bootstrapped.1 = .ok n) ∧ L.Explored S.seeds 0 (S.ledger 0).registry := by
  obtain ⟨t, hrun, hanswers⟩ := exists_runs_of_answers hclient (S.discovery.bootstrap S.seeds)
    (.start (S.clock 0) S.strategy) (S.state 0)
  have hbound : Runs Ledger.Later ((S.discovery.bootstrap S.seeds).bind .done)
      (.start (S.clock 0) S.strategy) t S.bootstrapped.1 S.bootstrapped.2 := by
    rw [Activity.bind_done]
    exact hrun
  have hne : S.seeds ≠ [] := by
    obtain ⟨i, ⟨a, ha, -⟩, -⟩ := hsome
    exact List.ne_nil_of_mem ha
  rw [runs_bootstrap_bind_iff hne] at hbound
  obtain ⟨answers, l₁, t', -, hwait, rfl, hbound⟩ := hbound
  obtain ⟨-, hresult, hledger⟩ := runs_done_iff.mp hbound
  obtain ⟨hadded, hnone⟩ := Tracks.add_seeds (S.clock 0) (List.Subset.refl S.seeds)
    (Tracks.empty (P := L.toPlacement)) fun i => by simp [find?]
  have h₁ : Tracks L.toPlacement S.seeds l₁.registry := hwait.registry_eq ▸ hadded
  have hnone₁ : ∀ i, l₁.registry.find? (.identifier i) = none := hwait.registry_eq ▸ hnone
  obtain ⟨hexplored, report, hok, hrecovered⟩ :=
    Explored.of_seeds h₁ hnone₁ hseeds (hanswers _ _ _ List.mem_cons_self)
  obtain ⟨hbootstrapped, hregistry⟩ := bootstrapResult_ok S.seeds.length report
    (takeProbes ((S.seeds.map Record.unresolved).zip answers) {} l₁).2
  rw [hok, hbootstrapped, if_neg (hrecovered hsome)] at hresult
  rw [hok] at hledger
  refine ⟨⟨_, hresult⟩, ?_⟩
  rw [ledger, hledger, hregistry]
  exact hexplored

/-- A refresh is one round more. -/
lemma explored_refreshed {n : ℕ} (hmerges : S.discovery.merges = true)
    (hclient : L.Governs (S.client (n + 1))) (h : L.Explored S.seeds n (S.ledger n).registry) :
    L.Explored S.seeds (n + 1) (S.ledger (n + 1)).registry ∧
      ((S.report n).added : ℕ∞) = {i | L.AtDistance S.seeds (n + 1) i}.encard ∧
      (S.report n).relocated = 0 ∧
      ((S.report n).added = 0 → (S.ledger (n + 1)).registry.entries.map Entry.unhashed =
        (S.ledger n).registry.entries.map Entry.unhashed) := by
  obtain ⟨t, hrun, hanswers⟩ := exists_runs_of_answers hclient S.discovery.refresh
    { S.ledger n with now := S.clock (n + 1) } (S.state (n + 1))
  have hbound : Runs Ledger.Later (S.discovery.refresh.bind .done)
      { S.ledger n with now := S.clock (n + 1) } t (S.report n) (S.ledger (n + 1)) := by
    rw [Activity.bind_done]
    exact hrun
  rw [runs_refresh_bind_iff, hmerges] at hbound
  obtain ⟨answers, l₁, t', -, hwait, rfl, hbound⟩ := hbound
  obtain ⟨-, hreport, hledger⟩ := runs_done_iff.mp hbound
  have hround := hanswers _ _ _ List.mem_cons_self
  have hl₁ : l₁.registry = (S.ledger n).registry := hwait.registry_eq
  obtain ⟨hadded, hrelocated⟩ := h.counts_takeRefresh hround hl₁
  rw [hreport, hledger]
  refine ⟨h.explored_takeRefresh hround hl₁, hadded, hrelocated, fun h0 => ?_⟩
  have h₁ : Tracks L.toPlacement S.seeds l₁.registry := hl₁ ▸ h.tracks
  rw [h₁.unhashed_takeRefresh (h.sites_of_viewed hround) h0, hl₁]

/-- **Finding everybody who can be reached.** Let every member have its place, be listed nowhere
else, and list the same members whenever it answers; let the addresses to start from be places of
members, some of which answers; and let listed members be taken over. Then asking the addresses
to start from succeeds; and after any number of refreshes those identifiers are registered that
are reached by at most as many steps, each of them as an active member at its place. A refresh
counts as new those that are one step further away, and nobody as moved. Once a refresh finds
nobody who is new, neither it nor any later one changes an entry, but for its hash. -/
theorem finds_reachable (hmerges : S.discovery.merges = true)
    (hseeds : ∀ a ∈ S.seeds, ∃ i, ⟨i, a⟩ ∈ L.sites) (hsome : ∃ i, L.Starts S.seeds i)
    (hclient : ∀ n, L.Governs (S.client n)) :
    (∃ n, S.bootstrapped.1 = .ok n) ∧
    (∀ k i, i ∈ (S.ledger k).registry.identifiers ↔ L.Within S.seeds k i) ∧
    (∀ k, ∀ e ∈ (S.ledger k).registry.entries, ∀ i, e.record.identifier = some i →
      e.active = true ∧ ⟨i, e.record.address⟩ ∈ L.sites) ∧
    (∀ k, ((S.report k).added : ℕ∞) = {i | L.AtDistance S.seeds (k + 1) i}.encard ∧
      (S.report k).relocated = 0) ∧
    ∀ k, (S.report k).added = 0 → ∀ n, k ≤ n →
      (S.ledger n).registry.entries.map Entry.unhashed =
        (S.ledger k).registry.entries.map Entry.unhashed := by
  obtain ⟨hok, hfirst⟩ := explored_bootstrapped hseeds hsome (hclient 0)
  have hall : ∀ k, L.Explored S.seeds k (S.ledger k).registry := by
    intro k
    induction k with
    | zero => exact hfirst
    | succ k ih => exact (explored_refreshed hmerges (hclient (k + 1)) ih).1
  have hrounds := fun k => (explored_refreshed hmerges (hclient (k + 1)) (hall k)).2
  refine ⟨hok, fun k i => (hall k).mem_identifiers, fun k e he i hi => ?_,
    fun k => ⟨(hrounds k).1, (hrounds k).2.1⟩, fun k h0 n hn => ?_⟩
  · have hwell := (hall k).tracks.wellFormed
    have hkey : e.key = .identifier i := by
      rw [hwell.placed e he, Record.key_eq_identifier_iff.mpr hi]
    have hfind := hwell.find?_iff.mpr ⟨he, hkey⟩
    refine ⟨?_, (hall k).tracks.member hfind⟩
    have hactive := (hall k).active i
    rw [isActive?, hfind] at hactive
    simpa using hactive
  · -- Nobody is one step further away, so no later round counts anybody as new.
    have hempty : {i | L.AtDistance S.seeds (k + 1) i} = ∅ := by
      rw [← Set.encard_eq_zero, ← (hrounds k).1, h0, Nat.cast_zero]
    induction n, hn using Nat.le_induction with
    | base => rfl
    | succ n hn ih =>
        have hcount := (hrounds n).1
        rw [atDistance_eq_empty hempty hn, Set.encard_empty, Nat.cast_eq_zero] at hcount
        exact ((hrounds n).2.2 hcount).trans ih

/-! ### Three members in a row -/

/-- The place of a member in a row. -/
def site (i : String) : Address := ⟨"http", none, .whole i, none, none⟩

lemma site_injective {i j : String} (h : site i = site j) : i = j := by
  injection h with _ _ hpath
  injection hpath

/-- The first member lists itself and the second one, which lists the third one and the first one;
the third one does not answer. -/
def rowLists (i : String) : Option (List Listing) :=
  if i = "a" then some [⟨"a", site "a"⟩, ⟨"b", site "b"⟩]
  else if i = "b" then some [⟨"c", site "c"⟩, ⟨"a", site "a"⟩]
  else none

/-- Three members in a row. -/
def row : Landscape where
  sites := {m | m.address = site m.identifier}
  address_unique ha hb := ha.trans hb.symm
  identifier_unique hi hj := site_injective (hi.symm.trans hj)
  lists := rowLists
  sites_of_listed {i ms m} hms hm := by
    unfold rowLists at hms
    split_ifs at hms with ha hb
    · cases hms
      rcases List.mem_pair.mp hm with rfl | rfl <;> rfl
    · cases hms
      rcases List.mem_pair.mp hm with rfl | rfl <;> rfl

/-- The client of the row. -/
def rowClient : Client (StateM Unit) Unit where
  probe limit as := pure <| as.map fun a =>
    match ["a", "b"].find? fun i => site i = a with
    | some i => .ok ⟨i, "", (rowLists i).getD []⟩
    | none => .error (.noAnswer a limit)
  gossip limit a := pure (.error (.noAnswer a limit))
  call _ := pure (.ok ())

lemma governs_rowClient : row.Governs rowClient := by
  intro limit as st
  refine List.forall₂_map_right_iff.mpr (List.forall₂_same.mpr fun a _ i hi => ?_)
  obtain rfl : a = site i := hi
  have hsite : ∀ j, site j = site i ↔ j = i := fun j => ⟨site_injective, congrArg site⟩
  by_cases ha : "a" = i
  · subst ha
    exact ⟨_, rfl, rfl, fun _ => Iff.rfl⟩
  by_cases hb : "b" = i
  · subst hb
    exact ⟨_, rfl, rfl, fun _ => Iff.rfl⟩
  have hlists : row.lists i = none := by
    simp only [row, rowLists, if_neg (Ne.symm ha), if_neg (Ne.symm hb)]
  rw [hlists]
  refine ⟨.noAnswer (site i) limit, ?_⟩
  simp only [List.find?_cons, List.find?_nil, hsite, ha, hb, decide_false]

/-- In the row the third member is found by the second refresh, in the place of its address, and
then nobody is found. -/
lemma finds_reachable_row :
    let S : Search Unit Unit :=
      ⟨⟨⟨1⟩, true⟩, [site "a", site "c"], .first, fun n => n, fun _ => rowClient, fun _ => ()⟩
    row.Within S.seeds 2 "c" ∧ ¬ row.Within S.seeds 1 "c" ∧
      {i | row.AtDistance S.seeds 2 i}.encard = 1 ∧
      ∀ n, 2 ≤ n → (S.ledger n).registry.entries.map Entry.unhashed =
        (S.ledger 2).registry.entries.map Entry.unhashed := by
  intro S
  have hseeds : ∀ a ∈ S.seeds, ∃ i, ⟨i, a⟩ ∈ row.sites := by
    intro a ha
    rcases List.mem_pair.mp ha with rfl | rfl
    · exact ⟨"a", rfl⟩
    · exact ⟨"c", rfl⟩
  obtain ⟨-, hfound, -, hcounts, hstays⟩ := finds_reachable (S := S) rfl hseeds
    ⟨"a", ⟨_, List.mem_cons_self, rfl⟩, rfl⟩ fun _ => governs_rowClient
  refine ⟨(hfound 2 "c").mp (by decide), fun hc => ?_, ?_, hstays 2 (by decide)⟩
  · exact absurd ((hfound 1 "c").mpr hc) (by decide)
  · rw [← (hcounts 1).1]
    have hone : (S.report 1).added = 1 := by decide
    rw [hone]
    rfl

end Search

end Roster
