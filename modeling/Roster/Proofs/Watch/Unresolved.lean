import Roster.Proofs.Discovery.Introducing
import Roster.Proofs.Registry.Reachable
import Roster.Proofs.Watch.Course

/-!
# Members without an identifier that answer

A member that is asked so that it may become active, and that answers before it had an identifier,
is registered under the one that it told. An active member is not: it stays under its address
though it answered, unless somebody who is new is listed there or introduced there.

* `Identified`: all members without an identifier that answered are registered under the ones that
  they told, and not under their addresses.
* `probed_identified`, `bootstrapped_identified`: members that may become active.
* `contains_refreshed_iff`: active members.
* `unresolved_answered`: what becomes of both of them, also in a pass.
* `unresolved_stays`: an active member that answered and stays under its address.
-/

namespace Roster

namespace Watch

open Activity Discovery Registry

variable {τ : Type} {d : Discovery} {w : Watch} {l l' : Ledger} {t : List (Exchange τ)} {r : Record}
  {v : TopologyView}

/-- Every member without an identifier that answered stands under the one that it told, and not
under its address. -/
def Identified (xs : List (Record × Except Failure TopologyView)) (reg : Registry) : Prop :=
  ∀ r v, (r, .ok v) ∈ xs → r.identifier = none →
    reg.contains r.key = false ∧ reg.contains (.identifier v.identifier) = true

/-! ### Members that may become active -/

lemma identified_takeProbes {xs : List (Record × Except Failure TopologyView)}
    {report report' : ProbeReport} (h : l.registry.WellFormed)
    (hok : (takeProbes xs report l).1 = .ok report') :
    Identified xs (takeProbes xs report l).2.registry := by
  have hintroduces := introduces_takeProbes h hok
  exact fun r v hx hr => ⟨hintroduces.not_contains hx hr, hintroduces.contains_identifier hx⟩

lemma probed_identified {records : List Record} {report : ProbeReport} (h : l.registry.WellFormed)
    (hrun : Runs Ledger.Later (d.probeNodes records : Activity τ (Except Failure ProbeReport)) l t
      (.ok report) l') :
    ∃ answers, t = [.probed l.registry (records.map Record.address) answers] ∧
      answers.length = records.length ∧ Identified (records.zip answers) l'.registry := by
  obtain ⟨answers, l₁, hlength, hwait, rfl, hok, rfl⟩ := runs_probeNodes_iff.mp hrun
  rw [← hwait.registry_eq] at h
  exact ⟨answers, rfl, hlength, identified_takeProbes h hok.symm⟩

lemma bootstrapped_identified {seeds : List Address} {n : Nat} (h : l.registry.WellFormed)
    (hrun : Runs Ledger.Later (d.bootstrap seeds : Activity τ (Except Failure Nat)) l t
      (.ok n) l') :
    ∃ reg answers, t = [.probed reg seeds answers] ∧ answers.length = seeds.length ∧
      Identified ((seeds.map Record.unresolved).zip answers) l'.registry := by
  cases hseeds : seeds with
  | nil =>
      rw [hseeds] at hrun
      obtain ⟨-, hr, -⟩ := runs_done_iff.mp hrun
      cases hr
  | cons a as =>
      have hne : seeds ≠ [] := by simp [hseeds]
      rw [← hseeds]
      rw [← bind_done (d.bootstrap seeds), runs_bootstrap_bind_iff hne] at hrun
      obtain ⟨answers, l₁, t', hlength, hwait, rfl, hrun⟩ := hrun
      obtain ⟨rfl, hok, rfl⟩ := runs_done_iff.mp hrun
      have hwell : l₁.registry.WellFormed := by
        rw [hwait.registry_eq]
        exact h.add _
      cases hprobes : (takeProbes ((seeds.map Record.unresolved).zip answers) {} l₁).1 with
      | error f =>
          rw [hprobes] at hok
          cases hok
      | ok report =>
          refine ⟨_, answers, rfl, hlength, ?_⟩
          rw [(bootstrapResult_ok _ _ _).2]
          exact identified_takeProbes hwell hprobes

/-! ### Active members -/

/-- An active member that answered without having an identifier stays under its address unless it
makes way for somebody who is new and listed there. -/
lemma contains_takeRefresh_iff {answers : List (Except Failure TopologyView)} {merges : Bool}
    {l₁ : Ledger} (h : l.registry.WellFormed) (hl₁ : l₁.registry = l.registry)
    (hx : (r, .ok v) ∈ asked l.registry answers) (hr : r.identifier = none) :
    (takeRefresh merges (asked l.registry answers) l₁).2.registry.contains r.key = true ↔
      ¬ (merges = true ∧ Displaced l.registry (listings (asked l.registry answers)) r.address) := by
  have hc := contains_asked h hx
  have hkey : r.key = .address r.address := Record.key_eq_address_iff.mpr ⟨hr, rfl⟩
  rw [hkey] at hc ⊢
  rw [contains_address_takeRefresh, hl₁, hc]
  simp

lemma contains_refreshed_iff {report : RefreshReport} (h : l.registry.WellFormed)
    (hrun : Runs Ledger.Later (d.refresh : Activity τ RefreshReport) l t report l') :
    ∃ answers, t = [.probed l.registry (l.registry.active.map Record.address) answers] ∧
      answers.length = l.registry.active.length ∧
      ∀ r v, (r, .ok v) ∈ asked l.registry answers → r.identifier = none →
        (l'.registry.contains r.key = true ↔ ¬ (d.merges = true ∧
          Displaced l.registry (listings (asked l.registry answers)) r.address)) := by
  obtain ⟨answers, l₁, hlength, hwait, rfl, -, rfl⟩ := runs_refresh_iff.mp hrun
  exact ⟨answers, rfl, hlength, fun r v hx hr => contains_takeRefresh_iff h hwait.registry_eq hx hr⟩

/-! ### Both of them in a pass -/

/-- A member that was active before a pass is not asked again in it. -/
lemma key_ne_of_again {o : Opening τ w l} {n : Nat} {again : List Record} {middle : Ledger}
    (h : l.registry.WellFormed) (hret : o.retirement = (.ok (n, again), middle)) {s : Record}
    (hr : r ∈ l.registry.active) (hs : s ∈ again) : s.key ≠ r.key := by
  obtain ⟨s', hs', hkey⟩ := List.mem_map.mp ((o.mem_again_iff hret s).mp hs).2.1
  rw [← hkey]
  exact (h.key_ne_of_mem hr hs').symm

/-- In a pass that succeeds, those that are asked again are registered under the identifiers that
they tell, and active members stay under their addresses unless they make way. -/
lemma passed_unresolved {s : PassSummary} (h : l.registry.WellFormed)
    (hrun : Runs Ledger.Later (w.pass : Activity τ (Except Failure PassSummary)) l t (.ok s) l') :
    ∃ (answers : List (Except Failure TopologyView)) (gossips : List (Exchange τ))
      (middle : Registry) (again : List Record) (answers' : List (Except Failure TopologyView)),
      t = .probed l.registry (l.registry.active.map Record.address) answers ::
        (gossips ++ [.probed middle (again.map Record.address) answers']) ∧
      answers.length = l.registry.active.length ∧ answers'.length = again.length ∧
      Identified (again.zip answers') l'.registry ∧
      ∀ r v, (r, .ok v) ∈ asked l.registry answers → r.identifier = none →
        (l'.registry.contains r.key = true ↔
          ¬ (w.discovery.merges = true ∧
            Displaced l.registry (listings (asked l.registry answers)) r.address) ∧
          ¬ Displaced middle (introductions (again.zip answers')) r.address) := by
  obtain ⟨o, t', rfl, hend⟩ := exists_opening hrun
  obtain ⟨n, again, middle, l₁, answers', probed, hret, hlength', rfl, hl₁, hprobes, rfl⟩ :=
    hend.of_ok
  have hmiddle := o.wellFormed_again h hret hl₁
  refine ⟨o.answers, o.gossips, middle.registry, again, answers', rfl, o.length_answers, hlength',
    identified_takeProbes hmiddle hprobes, fun r v hx hr => ?_⟩
  have hkey : r.key = .address r.address := Record.key_eq_address_iff.mpr ⟨hr, rfl⟩
  -- Those that are asked again stand under other keys.
  have hother : ¬ Introduced (again.zip answers') r.address := by
    rintro ⟨s, v', hs, hskey⟩
    exact key_ne_of_again h hret (List.of_mem_zip hx).1 (List.of_mem_zip hs).1
      (hskey.trans hkey.symm)
  have hbefore : middle.registry.contains r.key = true ↔ ¬ (w.discovery.merges = true ∧
      Displaced l.registry (listings (asked l.registry o.answers)) r.address) := by
    rw [(retire_ok hret).2.2.1, contains_setStatus, o.registry_retiring,
      contains_takeRefresh_iff h o.registry_taking hx hr]
  rw [hkey] at hbefore ⊢
  rw [(introduces_takeProbes hmiddle hprobes).address, hl₁, hbefore]
  simp [hother]

/-- **Members without an identifier that answer.** Let nobody else change a registry that can come
about. A member that is asked so that it may become active, to start from, or again in a pass, and
that answers before it had an identifier, is registered under the one that it told, and not under
its address. But an active member without an identifier that answers stays under its address,
unless it makes way for somebody who is new and listed there, or who is new and introduced there
when others are asked again. -/
theorem unresolved_answered {changes : List (Instant × Change)}
    (hreg : l.registry = Registry.after changes) :
    (∀ (records : List Record) t report l',
      Runs Ledger.Later (w.discovery.probeNodes records : Activity τ (Except Failure ProbeReport))
        l t (.ok report) l' →
      ∃ answers, t = [.probed l.registry (records.map Record.address) answers] ∧
        answers.length = records.length ∧ Identified (records.zip answers) l'.registry) ∧
    (∀ (seeds : List Address) t n l',
      Runs Ledger.Later (w.discovery.bootstrap seeds : Activity τ (Except Failure Nat))
        l t (.ok n) l' →
      ∃ reg answers, t = [.probed reg seeds answers] ∧ answers.length = seeds.length ∧
        Identified ((seeds.map Record.unresolved).zip answers) l'.registry) ∧
    (∀ t report l',
      Runs Ledger.Later (w.discovery.refresh : Activity τ RefreshReport) l t report l' →
      ∃ answers, t = [.probed l.registry (l.registry.active.map Record.address) answers] ∧
        answers.length = l.registry.active.length ∧
        ∀ r v, (r, .ok v) ∈ asked l.registry answers → r.identifier = none →
          (l'.registry.contains r.key = true ↔ ¬ (w.discovery.merges = true ∧
            Displaced l.registry (listings (asked l.registry answers)) r.address))) ∧
    ∀ t s l', Runs Ledger.Later (w.pass : Activity τ (Except Failure PassSummary)) l t (.ok s) l' →
      ∃ (answers : List (Except Failure TopologyView)) (gossips : List (Exchange τ))
        (middle : Registry) (again : List Record) (answers' : List (Except Failure TopologyView)),
        t = .probed l.registry (l.registry.active.map Record.address) answers ::
          (gossips ++ [.probed middle (again.map Record.address) answers']) ∧
        answers.length = l.registry.active.length ∧ answers'.length = again.length ∧
        Identified (again.zip answers') l'.registry ∧
        ∀ r v, (r, .ok v) ∈ asked l.registry answers → r.identifier = none →
          (l'.registry.contains r.key = true ↔
            ¬ (w.discovery.merges = true ∧
              Displaced l.registry (listings (asked l.registry answers)) r.address) ∧
            ¬ Displaced middle (introductions (again.zip answers')) r.address) := by
  have hwell : l.registry.WellFormed := hreg ▸ wellFormed_after changes
  exact ⟨fun records t report l' hrun => probed_identified hwell hrun,
    fun seeds t n l' hrun => bootstrapped_identified hwell hrun,
    fun t report l' hrun => contains_refreshed_iff hwell hrun,
    fun t s l' hrun => passed_unresolved hwell hrun⟩

/-- How a node becomes an active member before it has an identifier. -/
def rashly (c : Address) : List (Instant × Change) :=
  [(0, .add [.unresolved c]), (0, .activate [.unresolved c])]

/-- The node as an active member. -/
def rash (c : Address) : Registry := ⟨[.fresh (.unresolved c) true 0]⟩

/-- The active members are asked, and the node tells its identifier and lists nobody. -/
lemma runs_refresh_rash (c : Address) :
    let l : Ledger := { Ledger.start 0 .first with registry := rash c }
    let answers : List (Except Failure TopologyView) := [.ok ⟨"c", "", []⟩]
    Runs Ledger.Later (Discovery.refresh ⟨⟨1⟩, true⟩ : Activity Unit RefreshReport) l
      [.probed (rash c) ((rash c).active.map Record.address) answers]
      (takeRefresh true (asked (rash c) answers) l).1
      (takeRefresh true (asked (rash c) answers) l).2 := by
  intro l answers
  exact runs_refresh_iff.mpr ⟨answers, l, rfl, Ledger.Later.refl l, rfl, rfl, rfl⟩

/-- This active member stays under its address, since nobody else is listed. -/
lemma unresolved_answered_rash :
    let c : Address := ⟨"http", none, .whole "c", none, none⟩
    let l : Ledger := { Ledger.start 0 .first with registry := rash c }
    rash c = Registry.after (rashly c) ∧
    ∃ (answers : List (Except Failure TopologyView)) (report : RefreshReport) (l' : Ledger),
      Runs Ledger.Later (Discovery.refresh ⟨⟨1⟩, true⟩ : Activity Unit RefreshReport) l
        [.probed (rash c) ((rash c).active.map Record.address) answers] report l' ∧
      (Record.unresolved c, .ok ⟨"c", "", []⟩) ∈ asked (rash c) answers ∧
      ¬ Displaced (rash c) (listings (asked (rash c) answers)) c ∧
      l'.registry.contains (.address c) = true := by
  intro c l
  have hreg : rash c = Registry.after (rashly c) := by decide
  have hrun := runs_refresh_rash c
  obtain ⟨-, -, hrefresh, -⟩ :=
    unresolved_answered (τ := Unit) (w := ⟨⟨⟨1⟩, true⟩, ⟨1⟩, none⟩) (l := l) hreg
  obtain ⟨answers, ht, -, hstays⟩ := hrefresh _ _ _ hrun
  obtain rfl : [.ok ⟨"c", "", []⟩] = answers := by
    have hhead := (List.cons.inj ht).1
    rw [Exchange.probed.injEq] at hhead
    exact hhead.2.2
  have hnobody : ¬ Displaced (rash c) (listings (asked (rash c) [.ok ⟨"c", "", []⟩])) c := by
    rintro ⟨i, -, hfind⟩
    cases hfind
  have hmem : (Record.unresolved c, .ok ⟨"c", "", []⟩) ∈ asked (rash c) [.ok ⟨"c", "", []⟩] :=
    List.mem_cons_self
  exact ⟨hreg, _, _, _, hrun, hmem, hnobody,
    (hstays _ _ hmem rfl).mpr fun hdisplaced => hnobody hdisplaced.2⟩

/-- **An active member that stays under its address.** It told its identifier when the active
members were asked, and does not stand under it afterwards. -/
theorem unresolved_stays :
    let c : Address := ⟨"http", none, .whole "c", none, none⟩
    let l : Ledger := { Ledger.start 0 .first with registry := rash c }
    ∃ (answers : List (Except Failure TopologyView)) (report : RefreshReport) (l' : Ledger),
      rash c = Registry.after (rashly c) ∧
      Runs Ledger.Later (Discovery.refresh ⟨⟨1⟩, true⟩ : Activity Unit RefreshReport) l
        [.probed (rash c) ((rash c).active.map Record.address) answers] report l' ∧
      ∃ r v, (r, .ok v) ∈ asked (rash c) answers ∧ r.identifier = none ∧
        l'.registry.contains r.key = true ∧
        l'.registry.contains (.identifier v.identifier) = false := by
  intro c l
  exact ⟨_, _, _, by decide, runs_refresh_rash c, .unresolved c, ⟨"c", "", []⟩,
    List.mem_cons_self, rfl, by decide, by decide⟩

end Watch

end Roster
