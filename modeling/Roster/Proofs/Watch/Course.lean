import Roster.Proofs.Watch.Verdict

/-!
# The course of a pass

What happens in a pass that nobody else disturbs, one phase after the other, so that later proofs
speak of its phases and not of its stretches.

* `Opening`: the active members answer, some of them tell what they have heard, and it is known
  then who becomes inactive.
* `Ending.summary_of_ok`: if the pass succeeds, members became inactive and others were asked again,
  and this is what it tells.
* `exists_opening`: every such pass has an opening, after which it ends as `Ending` says.
-/

namespace Roster

namespace Watch

open Activity Discovery Registry

variable {τ : Type} {w : Watch} {l l' : Ledger} {t : List (Exchange τ)}

/-- What happens in a pass until members become inactive. -/
structure Opening (τ : Type) (w : Watch) (l : Ledger) where
  /-- The answers of the active members. -/
  answers : List (Except Failure TopologyView)
  /-- The ledger in which these answers are taken over. -/
  taking : Ledger
  /-- The questions about what was heard, with their answers. -/
  gossips : List (Exchange τ)
  /-- Who is vouched for. -/
  kept : List String
  /-- The ledger in which members become inactive. -/
  retiring : Ledger
  length_answers : answers.length = l.registry.active.length
  registry_taking : taking.registry = l.registry
  peers_gossips : gossips.map peer? <+:
    ((asked l.registry answers).filter fun x => (fault? x).isNone).map
      (fun x => some x.1.address)
  hearings_gossips : (w.gossipMaxAge = none ∨ timedOut (takeRefresh w.discovery.merges
      (asked l.registry answers) taking).1 = [] → gossips = []) ∧
    (w.gossipMaxAge ≠ none → timedOut (takeRefresh w.discovery.merges
        (asked l.registry answers) taking).1 ≠ [] →
      Consulted (((asked l.registry answers).filter fun x => (fault? x).isNone).map
        fun x => x.1.address) (hearings gossips))
  mem_kept_iff : ∀ id, id ∈ kept ↔ id ∈ timedOut (takeRefresh w.discovery.merges
    (asked l.registry answers) taking).1 ∧ Vouched w gossips id
  registry_retiring : retiring.registry =
    (takeRefresh w.discovery.merges (asked l.registry answers) taking).2.registry

namespace Opening

variable (o : Opening τ w l)

/-- What the answers of the active members come to. -/
def report : RefreshReport :=
  (takeRefresh w.discovery.merges (asked l.registry o.answers) o.taking).1

/-- The first exchange of the pass. -/
def round : Exchange τ := .probed l.registry (l.registry.active.map Record.address) o.answers

/-- The stretch in which members become inactive. -/
def retirement : Except Failure (Nat × List Record) × Ledger :=
  retire w.discovery.merges o.report o.kept (l.registry.inactive.map Record.key) o.retiring

variable {o}

/-- The answers of the active members change the registry in an orderly way. -/
lemma leadsTo_retiring : LeadsTo l.registry o.retiring.registry := by
  rw [o.registry_retiring, ← o.registry_taking]
  exact takeRefresh_leadsTo

lemma wellFormed_retiring (h : l.registry.WellFormed) : o.retiring.registry.WellFormed :=
  leadsTo_retiring.wellFormed h

lemma wellFormed_retirement (h : l.registry.WellFormed) :
    o.retirement.2.registry.WellFormed := by
  rw [retirement, registry_retire]
  exact (wellFormed_retiring h).setStatus _ _

/-- The ledger in which the answers of those are taken over that are asked again. -/
lemma wellFormed_again (h : l.registry.WellFormed) {n : Nat} {again : List Record}
    {middle l₁ : Ledger} (hret : o.retirement = (.ok (n, again), middle))
    (hl₁ : l₁.registry = middle.registry) : l₁.registry.WellFormed := by
  have hwell := o.wellFormed_retirement h
  rwa [hret, ← hl₁] at hwell

/-- Who is asked again: those that were inactive before, still are, and count as listed. -/
lemma mem_again_iff {n : Nat} {again : List Record} {middle : Ledger}
    (hret : o.retirement = (.ok (n, again), middle)) (r : Record) :
    r ∈ again ↔ r ∈ middle.registry.inactive ∧ r.key ∈ l.registry.inactive.map Record.key ∧
      ∀ i, r.identifier = some i → Listed w.discovery.merges (asked l.registry o.answers) i := by
  rw [(retire_ok hret).2.2.2, List.mem_filter, List.mem_filter, report, isListed_takeRefresh_iff,
    List.contains_iff_mem, and_assoc]

lemma sublist_again {n : Nat} {again : List Record} {middle : Ledger}
    (hret : o.retirement = (.ok (n, again), middle)) :
    again.Sublist middle.registry.inactive := by
  rw [(retire_ok hret).2.2.2]
  exact List.filter_sublist.trans List.filter_sublist

end Opening

/-- Every pass that nobody disturbs has an opening and an ending. -/
lemma exists_opening {r : Except Failure PassSummary}
    (hrun : Runs Ledger.Later (w.pass : Activity τ (Except Failure PassSummary)) l t r l') :
    ∃ (o : Opening τ w l) (t' : List (Exchange τ)), t = o.round :: (o.gossips ++ t') ∧
      Ending Ledger.Later o.report o.kept t' r l' o.retirement := by
  obtain ⟨answers, l₁, gossips, kept, l₂, t', hlength, hwait, rfl, hvouchers, hend⟩ :=
    runs_pass_iff.mp hrun
  obtain ⟨hl₂, hpeers, hkept⟩ := runs_vouchers hvouchers
  have hhearings := hearings_vouchers hvouchers
  rw [reached_takeRefresh, List.map_map] at hpeers hhearings
  exact ⟨⟨answers, l₁, gossips, kept, l₂, hlength, hwait.registry_eq, hpeers, hhearings, hkept, hl₂⟩,
    t', rfl, hend⟩

/-- A pass that succeeds made members inactive, and asked others again, whose answers were all
taken over; what it tells sums this up. -/
lemma Ending.summary_of_ok {report : RefreshReport} {kept : List String} {s : PassSummary}
    {x : Except Failure (Nat × List Record) × Ledger}
    (h : Ending Ledger.Later report kept t (.ok s) l' x) :
    ∃ (n : Nat) (again : List Record) (middle l₁ : Ledger)
      (answers : List (Except Failure TopologyView)) (probed : ProbeReport),
      x = (.ok (n, again), middle) ∧ answers.length = again.length ∧
      t = [.probed middle.registry (again.map Record.address) answers] ∧
      l₁.registry = middle.registry ∧ (takeProbes (again.zip answers) {} l₁).1 = .ok probed ∧
      l' = (takeProbes (again.zip answers) {} l₁).2 ∧ s = summary report kept n probed := by
  obtain ⟨result, middle⟩ := x
  cases result with
  | error f => exact absurd h.2.1 (by simp)
  | ok y =>
      obtain ⟨n, again⟩ := y
      obtain ⟨answers, l₁, hlength, hwait, ht, hok, hl'⟩ := h
      cases hprobes : (takeProbes (again.zip answers) {} l₁).1 with
      | error f =>
          rw [hprobes] at hok
          exact absurd hok (by simp [Except.map])
      | ok probed =>
          rw [hprobes] at hok
          exact ⟨n, again, middle, l₁, answers, probed, rfl, hlength, ht, hwait.registry_eq,
            hprobes, hl', Except.ok.inj hok⟩

/-- The same, without what the pass tells. -/
lemma Ending.of_ok {report : RefreshReport} {kept : List String} {s : PassSummary}
    {x : Except Failure (Nat × List Record) × Ledger}
    (h : Ending Ledger.Later report kept t (.ok s) l' x) :
    ∃ (n : Nat) (again : List Record) (middle l₁ : Ledger)
      (answers : List (Except Failure TopologyView)) (probed : ProbeReport),
      x = (.ok (n, again), middle) ∧ answers.length = again.length ∧
      t = [.probed middle.registry (again.map Record.address) answers] ∧
      l₁.registry = middle.registry ∧ (takeProbes (again.zip answers) {} l₁).1 = .ok probed ∧
      l' = (takeProbes (again.zip answers) {} l₁).2 := by
  obtain ⟨n, again, middle, l₁, answers, probed, hx, hlength, ht, hl₁, hok, hl', -⟩ :=
    h.summary_of_ok
  exact ⟨n, again, middle, l₁, answers, probed, hx, hlength, ht, hl₁, hok, hl'⟩

end Watch

end Roster
