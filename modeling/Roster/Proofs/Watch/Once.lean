import Roster.Proofs.Registry.Deeds
import Roster.Proofs.Watch.Verdict

/-!
# Nobody is asked twice in a pass

A pass asks members in two rounds. Who is in the second one was inactive when the pass began, and so
was not in the first one, whatever became of the registry in between: others may change it in any
way while the pass waits for answers.

* `Ledger.Disturbed`: what others may do during a wait.
* `disturbed_vouchers`: between the two rounds nobody is asked which members there are.
* `Onset`: what happens in a pass, among others, until members become inactive.
* `AskedOnce`: what holds of the members that are asked again.
* `asked_once`: it holds in every pass.
-/

namespace Roster

/-- Others change the registry in any way, and note what they like. -/
def Ledger.Disturbed (l l' : Ledger) : Prop :=
  Registry.Via (fun _ => True) l.registry l'.registry

namespace Watch

open Activity Discovery Registry

variable {τ : Type} {w : Watch} {l l' : Ledger} {t : List (Exchange τ)} {kept : List String}

/-! ### What is asked between the two rounds -/

lemma disturbed_consult {d : Discovery} {maxAge : Duration} {ids : List String}
    {peers : List Record} (h : Runs Ledger.Disturbed (consult d maxAge ids peers) l t kept l') :
    l.Disturbed l' ∧ ∀ x ∈ t, (peer? x).isSome = true := by
  induction peers generalizing l t with
  | nil =>
      obtain ⟨rfl, -, rfl⟩ := runs_done_iff.mp h
      exact ⟨Via.refl _, by simp⟩
  | cons peer peers ih =>
      rw [consult, bind_eq, Discovery.gossip, runs_gossipOne_bind_iff] at h
      obtain ⟨answer, l₁, t', hwait, rfl, h⟩ := h
      cases answer with
      | ok v =>
          obtain ⟨rfl, -, rfl⟩ := runs_change_iff.mp h
          exact ⟨hwait, by simp [peer?]⟩
      | error f =>
          obtain ⟨hrest, hpeers⟩ := ih (runs_note_bind_iff.mp h)
          exact ⟨hwait.trans hrest, List.forall_mem_cons.mpr ⟨rfl, hpeers⟩⟩

/-- Finding out who is vouched for changes no member, others apart, and asks nobody which members
there are. -/
lemma disturbed_vouchers {report : RefreshReport}
    (h : Runs Ledger.Disturbed (w.vouchers report) l t kept l') :
    l.Disturbed l' ∧ ∀ x ∈ t, (peer? x).isSome = true := by
  have hnobody : Runs Ledger.Disturbed (.done [] : Activity τ (List String)) l t kept l' →
      l.Disturbed l' ∧ ∀ x ∈ t, (peer? x).isSome = true := by
    intro h
    obtain ⟨rfl, -, rfl⟩ := runs_done_iff.mp h
    exact ⟨Via.refl _, by simp⟩
  unfold vouchers at h
  cases hage : w.gossipMaxAge with
  | none =>
      rw [hage] at h
      exact hnobody h
  | some maxAge =>
      rw [hage] at h
      dsimp only at h
      split_ifs at h
      · exact hnobody h
      · exact disturbed_consult h

/-! ### The pass until members become inactive -/

/-- What happens in a pass, among others, until members become inactive. -/
structure Onset (τ : Type) (w : Watch) (l : Ledger) where
  /-- The answers of the active members. -/
  answers : List (Except Failure TopologyView)
  /-- The ledger in which these answers are taken over. -/
  taking : Ledger
  /-- The questions about what was heard, with their answers. -/
  gossips : List (Exchange τ)
  /-- Who is vouched for. -/
  kept : List String
  /-- The ledger in which members become inactive. -/
  retiring : Ledger
  length_answers : answers.length = l.registry.active.length
  disturbed : l.Disturbed taking
  vouching : Runs Ledger.Disturbed
    (w.vouchers (takeRefresh w.discovery.merges (asked l.registry answers) taking).1)
    (takeRefresh w.discovery.merges (asked l.registry answers) taking).2 gossips kept retiring

namespace Onset

variable (o : Onset τ w l)

/-- What the answers of the active members come to. -/
def report : RefreshReport :=
  (takeRefresh w.discovery.merges (asked l.registry o.answers) o.taking).1

/-- The first round. -/
def round : Exchange τ := .probed l.registry (l.registry.active.map Record.address) o.answers

/-- The stretch in which members become inactive. -/
def retirement : Except Failure (Nat × List Record) × Ledger :=
  retire w.discovery.merges o.report o.kept (l.registry.inactive.map Record.key) o.retiring

variable {o}

lemma wellFormed_retiring (h : l.registry.WellFormed) : o.retiring.registry.WellFormed := by
  have htaken : (takeRefresh w.discovery.merges (asked l.registry o.answers)
      o.taking).2.registry.WellFormed :=
    takeRefresh_via.wellFormed (o.disturbed.wellFormed h)
  exact (disturbed_vouchers o.vouching).1.wellFormed htaken

/-- Only members that were active when the pass began become inactive in it. -/
lemma mem_active_of_retired {r : Record}
    (hr : r ∈ retired w.discovery.merges o.report o.kept) : r ∈ l.registry.active := by
  obtain ⟨x, hx, rfl⟩ := asked_of_retired hr
  exact (List.of_mem_zip hx).1

end Onset

/-! ### Who is asked again -/

/-- What holds of the members that a pass asks again: `before` is the registry when the pass began,
`retiring` the one in which it made members inactive, and `middle` the one that this left, in which
the members are asked. -/
structure AskedOnce (before retiring middle : Registry) (again : List Record) : Prop where
  /-- Nobody is in both rounds, or in one of them twice. -/
  distinct : ((before.active ++ again).map Record.key).Nodup
  /-- Whoever is asked again was registered, and inactive, when the pass began. -/
  known : ∀ r ∈ again, before.isActive? r.key = some false
  /-- Whoever the pass made inactive is not asked again. -/
  fresh : ∀ k, retiring.isActive? k = some true → middle.isActive? k = some false →
    k ∉ again.map Record.key
  /-- Members are asked again where they are registered now. -/
  current : ∀ r ∈ again, ∃ e, middle.find? r.key = some e ∧ e.active = false ∧ e.record = r

namespace Onset

variable {o : Onset τ w l} {n : Nat} {again : List Record} {middle : Ledger}

/-- The members that are asked again are inactive now, and were inactive when the pass began. -/
lemma mem_again (hret : o.retirement = (.ok (n, again), middle)) {r : Record} (hr : r ∈ again) :
    r ∈ middle.registry.inactive ∧ r.key ∈ l.registry.inactive.map Record.key := by
  rw [(retire_ok hret).2.2.2] at hr
  obtain ⟨hinactive, hbefore⟩ := List.mem_filter.mp (List.mem_of_mem_filter hr)
  exact ⟨hinactive, List.contains_iff_mem.mp hbefore⟩

lemma keys_again_nodup (h : middle.registry.WellFormed)
    (hret : o.retirement = (.ok (n, again), middle)) : (again.map Record.key).Nodup := by
  rw [(retire_ok hret).2.2.2]
  exact ((List.filter_sublist.trans List.filter_sublist).map Record.key).nodup
    (h.keys_withStatus_nodup false)

/-- An entry that the pass turned is that of a member which was active when the pass began. -/
lemma key_mem_active_of_turned (hret : o.retirement = (.ok (n, again), middle)) {k : Key}
    (hbefore : o.retiring.registry.isActive? k = some true)
    (hafter : middle.registry.isActive? k = some false) :
    k ∈ l.registry.active.map Record.key := by
  obtain ⟨hcontains, -, hmiddle, -⟩ := retire_ok hret
  rw [hmiddle, isActive?_setStatus hcontains] at hafter
  split_ifs at hafter with hk
  · obtain ⟨r, hr, rfl⟩ := List.mem_map.mp hk
    exact List.mem_map_of_mem (mem_active_of_retired hr)
  · rw [hbefore] at hafter
    exact absurd hafter (by simp)

lemma askedOnce (h : l.registry.WellFormed) (hret : o.retirement = (.ok (n, again), middle)) :
    AskedOnce l.registry o.retiring.registry middle.registry again := by
  have hmiddle : middle.registry.WellFormed := by
    rw [(retire_ok hret).2.2.1]
    exact (wellFormed_retiring h).setStatus _ _
  -- No key of a member that was active when the pass began is among those asked again.
  have hdisjoint : ∀ k ∈ l.registry.active.map Record.key, k ∉ again.map Record.key := by
    intro k hk hagain
    obtain ⟨r, hr, rfl⟩ := List.mem_map.mp hk
    obtain ⟨s, hs, hsr⟩ := List.mem_map.mp hagain
    obtain ⟨s', hs', hss'⟩ := List.mem_map.mp (mem_again hret hs).2
    exact h.key_ne_of_mem hr hs' (hsr.symm.trans hss'.symm)
  refine ⟨?_, fun r hr => ?_, fun k hbefore hafter => ?_, fun r hr => ?_⟩
  · rw [List.map_append, List.nodup_append']
    exact ⟨h.keys_withStatus_nodup true, keys_again_nodup hmiddle hret, hdisjoint⟩
  · obtain ⟨s, hs, hsr⟩ := List.mem_map.mp (mem_again hret hr).2
    rw [← hsr]
    exact h.isActive?_of_mem hs
  · exact hdisjoint k (key_mem_active_of_turned hret hbefore hafter)
  · exact hmiddle.mem_withStatus_iff.mp (mem_again hret hr).1

end Onset

/-- **Asked once.** Let a pass begin in a well-formed registry, whatever the members answer and
whatever others do to the registry while it waits. It asks the active members; then it may ask
members what they have heard; and then, unless members cannot be made inactive, it asks members
again. The members of the two rounds are pairwise distinct; nobody whom the pass itself made
inactive, and nobody who was not registered when it began, is asked again; and everybody who is
asked again is asked at the address that the registry has for it by then. -/
theorem asked_once {r : Except Failure PassSummary} (h : l.registry.WellFormed)
    (hrun : Runs Ledger.Disturbed (w.pass : Activity τ (Except Failure PassSummary)) l t r l') :
    ∃ (o : Onset τ w l) (rest : List (Exchange τ)), t = o.round :: (o.gossips ++ rest) ∧
      (∀ x ∈ o.gossips, (peer? x).isSome = true) ∧
      ((∃ f, o.retirement.1 = .error f) ∧ rest = [] ∨
        ∃ n again middle answers, o.retirement = (.ok (n, again), middle) ∧
          rest = [.probed middle.registry (again.map Record.address) answers] ∧
          AskedOnce l.registry o.retiring.registry middle.registry again) := by
  obtain ⟨answers, l₁, gossips, kept, l₂, t', hlength, hwait, rfl, hvouchers, hend⟩ :=
    runs_pass_iff.mp hrun
  let o : Onset τ w l := ⟨answers, l₁, gossips, kept, l₂, hlength, hwait, hvouchers⟩
  refine ⟨o, t', rfl, (disturbed_vouchers hvouchers).2, ?_⟩
  change Ending Ledger.Disturbed o.report o.kept t' r l' o.retirement at hend
  cases hret : o.retirement with
  | mk x middle =>
      rw [hret] at hend
      cases x with
      | error f => exact Or.inl ⟨⟨f, rfl⟩, hend.1⟩
      | ok x =>
          obtain ⟨n, again⟩ := x
          obtain ⟨answers', l₃, -, -, rfl, -, -⟩ := hend
          exact Or.inr ⟨n, again, middle, answers', rfl, rfl, o.askedOnce h hret⟩

/-- While a pass waits, somebody registers another node; one member lists a second one, which was
inactive, elsewhere, and a third one fails. The second one is asked again, where it is listed. -/
lemma asked_once_elsewhere :
    let place (name : String) : Address := ⟨"http", none, .whole name, none, none⟩
    let view : TopologyView := ⟨"a", "", [⟨"a", place "a"⟩, ⟨"b", place "c"⟩]⟩
    let refused : Failure := .unreachable "http://d" "connection refused" false
    let before : Registry := ⟨[.fresh (.resolved (place "a") "a" none) true 0,
      .fresh (.resolved (place "b") "b" none) false 0,
      .fresh (.resolved (place "d") "d" none) true 0]⟩
    let middle : Registry := ⟨[.fresh (.resolved (place "a") "a" (some "")) true 0,
      .fresh (.resolved (place "c") "b" (some "")) false 0,
      .fresh (.resolved (place "d") "d" none) false 0, .fresh (.unresolved (place "e")) false 0]⟩
    let l : Ledger := { Ledger.start 0 .first with registry := before }
    let w : Watch := ⟨⟨⟨1⟩, true⟩, ⟨1⟩, none⟩
    before.WellFormed ∧
      (∃ r l', Runs Ledger.Disturbed (w.pass : Activity Unit (Except Failure PassSummary)) l
        [.probed before [place "a", place "d"] [.ok view, .error refused],
          .probed middle [place "c"] [.error refused]] r l') ∧
      ∃ (retiring : Registry) (again : List Record), again.map Record.address = [place "c"] ∧
        AskedOnce before retiring middle again := by
  intro place view refused before middle l w
  have hw : before.WellFormed := ⟨by decide, by decide⟩
  have hwait : l.Disturbed (l.add [.unresolved (place "e")]) :=
    Via.single (c := .add [.unresolved (place "e")]) trivial 0 before
  have hrun : ∃ r l', Runs Ledger.Disturbed (w.pass : Activity Unit (Except Failure PassSummary)) l
      [.probed before [place "a", place "d"] [.ok view, .error refused],
        .probed middle [place "c"] [.error refused]] r l' := by
    let taking := l.add [.unresolved (place "e")]
    let taken := takeRefresh true (asked before [.ok view, .error refused]) taking
    let retirement := retire true taken.1 [] (before.inactive.map Record.key) taken.2
    have hret : retirement.1 = .ok (1, [.resolved (place "c") "b" (some "")]) := by decide +kernel
    have hmiddle : retirement.2.registry = middle := by decide +kernel
    have hending : ∃ r l', Ending Ledger.Disturbed taken.1 []
        ([.probed middle [place "c"] [.error refused]] : List (Exchange Unit)) r l' retirement := by
      rw [← Prod.mk.eta (p := retirement), hret, ← hmiddle]
      exact ⟨_, _, [.error refused], retirement.2, rfl, Via.refl _, rfl, rfl, rfl⟩
    obtain ⟨r, l', hending⟩ := hending
    exact ⟨r, l', runs_pass_iff.mpr ⟨[.ok view, .error refused], taking, [], [], taken.2, _, rfl, hwait,
      rfl, .done _ _, hending⟩⟩
  refine ⟨hw, hrun, ?_⟩
  obtain ⟨r, l', hrun⟩ := hrun
  obtain ⟨o, rest, ht, hgossips, hor⟩ := asked_once hw hrun
  have hsecond := (List.cons.inj ht).2
  cases hg : o.gossips with
  | cons x xs =>
      rw [hg, List.cons_append] at hsecond
      have hpeer := hgossips x (by rw [hg]; exact List.mem_cons_self)
      rw [← (List.cons.inj hsecond).1] at hpeer
      exact absurd hpeer (by simp [peer?])
  | nil =>
      rw [hg, List.nil_append] at hsecond
      rcases hor with ⟨-, hrest⟩ | ⟨n, again, last, answers, -, hrest, honce⟩
      · exact absurd (hsecond.trans hrest) (by simp)
      · obtain ⟨hlast, hagain, -⟩ := Exchange.probed.inj (List.cons.inj (hsecond.trans hrest)).1
        exact ⟨o.retiring.registry, again, hagain.symm, hlast ▸ honce⟩

end Watch

end Roster
