import Mathlib.Tactic.Lemma
import Mathlib.Tactic.SplitIfs
import Roster.Watch.Loop

/-!
# Passes and the clock

The time is in the ledger, which a pass changes at every stretch. But it leaves the clock alone:
time passes only while it waits.

* `Activity.Timeless`: an activity leaves the clock alone.
* `Timeless.bind`: so do two such activities one after the other.
* `Watch.timeless_notedPass`: so does a pass.
-/

namespace Roster

namespace Activity

variable {τ α β : Type} {a : Activity τ α}

/-- Whatever it is answered, an activity does not change the time in the ledger. -/
def Timeless : Activity τ α → Prop
  | done _ => True
  | update f next => ∀ l, (f l).now = l.now ∧ Timeless (next l)
  | probe _ _ next => ∀ answers, Timeless (next answers)
  | gossip _ _ next => ∀ answer, Timeless (next answer)
  | call _ next => ∀ answer, Timeless (next answer)

lemma Timeless.bind {k : α → Activity τ β} (ha : a.Timeless) (hk : ∀ r, (k r).Timeless) :
    (a.bind k).Timeless := by
  induction a with
  | done r => exact hk r
  | update f next ih => exact fun l => ⟨(ha l).1, ih l (ha l).2⟩
  | probe limit as next ih => exact fun answers => ih answers (ha answers)
  | gossip limit a next ih => exact fun answer => ih answer (ha answer)
  | call node next ih => exact fun answer => ih answer (ha answer)

lemma timeless_look (f : Ledger → α) : (look f : Activity τ α).Timeless := fun _ => ⟨rfl, trivial⟩

lemma timeless_change {f : Ledger → α × Ledger} (hf : ∀ l, (f l).2.now = l.now) :
    (change f : Activity τ α).Timeless := fun l => ⟨hf l, trivial⟩

lemma timeless_note (e : Log.Event) : (note e : Activity τ Unit).Timeless :=
  fun _ => ⟨rfl, trivial⟩

end Activity

/-! ### Answers that are taken over -/

namespace Discovery

lemma now_identify (r : Record) (v : TopologyView) (l : Ledger) :
    (identify r v l).2.now = l.now := by
  unfold identify
  split
  · split
    · next h => exact congrArg (fun x => x.2.now) h.symm
    · next h => exact congrArg (fun x => x.2.now) h.symm
  · split_ifs <;> rfl

lemma now_recover (r : Record) (v : TopologyView) (report : ProbeReport) (l : Ledger) :
    (recover r v report l).2.now = l.now := by
  have hidentify := now_identify r v l
  unfold recover
  split
  · next h =>
    rw [h] at hidentify
    exact hidentify
  · next current l' h =>
    rw [h] at hidentify
    have hactivate : (l'.activate [current]).2.now = l'.now := rfl
    split <;> next hres =>
      rw [hres] at hactivate
      exact hactivate.trans hidentify

lemma now_takeProbes (xs : List (Record × Except Failure TopologyView)) (report : ProbeReport)
    (l : Ledger) : (takeProbes xs report l).2.now = l.now := by
  induction xs generalizing report l with
  | nil => rfl
  | cons x xs ih =>
      obtain ⟨r, answer⟩ := x
      cases answer with
      | error f => exact ih _ _
      | ok v =>
          have hrecover := now_recover r v report l
          rw [takeProbes]
          generalize recover r v report l = x at hrecover
          obtain ⟨result, l'⟩ := x
          cases result with
          | ok report' => exact (ih report' l').trans hrecover
          | error f => exact hrecover

lemma now_mergeListing (hash : String) (acc : RefreshReport × Ledger) (m : Listing) :
    (mergeListing hash acc m).2.now = acc.2.now := by
  unfold mergeListing
  dsimp only
  have hmerge : (acc.2.mergeMember m.identifier m.address (some hash)).2.now = acc.2.now := rfl
  split <;> next h =>
    rw [h] at hmerge
    exact hmerge

lemma now_mergeView (v : TopologyView) (acc : RefreshReport × Ledger) :
    (mergeView v acc).2.now = acc.2.now := by
  have hfold : ∀ (ms : List Listing) (acc : RefreshReport × Ledger),
      (ms.foldl (mergeListing v.topologyHash) acc).2.now = acc.2.now := by
    intro ms
    induction ms with
    | nil => exact fun _ => rfl
    | cons m ms ih => exact fun acc => (ih _).trans (now_mergeListing _ acc m)
  exact hfold v.members _

lemma now_acknowledge (r : Record) (v : TopologyView) (l : Ledger) :
    (acknowledge r v l).2.now = l.now := by
  unfold acknowledge
  split
  · rfl
  · split_ifs <;> rfl

lemma now_takeRefreshOne (merges : Bool) (acc : RefreshReport × Ledger)
    (x : Record × Except Failure TopologyView) :
    (takeRefreshOne merges acc x).2.now = acc.2.now := by
  obtain ⟨r, answer⟩ := x
  cases answer with
  | error f => rfl
  | ok v =>
      have hack := now_acknowledge r v acc.2
      unfold takeRefreshOne
      dsimp only
      cases merges <;> cases (acknowledge r v acc.2).1 <;>
        first | exact hack | exact (now_mergeView v (acc.1, (acknowledge r v acc.2).2)).trans hack

lemma now_takeRefresh (merges : Bool) (xs : List (Record × Except Failure TopologyView))
    (l : Ledger) : (takeRefresh merges xs l).2.now = l.now := by
  have hfold : ∀ acc : RefreshReport × Ledger,
      (xs.foldl (takeRefreshOne merges) acc).2.now = acc.2.now := by
    induction xs with
    | nil => exact fun _ => rfl
    | cons x xs ih => exact fun acc => (ih _).trans (now_takeRefreshOne merges acc x)
  exact hfold ({}, l)

end Discovery

/-! ### Passes -/

namespace Watch

open Activity

variable {τ : Type}

lemma timeless_consult (d : Discovery) (maxAge : Duration) (ids : List String)
    (peers : List Record) : (consult d maxAge ids peers : Activity τ (List String)).Timeless := by
  induction peers with
  | nil => trivial
  | cons peer peers ih =>
      intro answer
      cases answer with
      | ok v => exact timeless_change fun _ => rfl
      | error f => exact (timeless_note _).bind fun _ => ih

lemma timeless_vouchers (w : Watch) (report : RefreshReport) :
    (w.vouchers report : Activity τ (List String)).Timeless := by
  unfold vouchers
  split
  · trivial
  · dsimp only
    split_ifs
    · trivial
    · exact timeless_consult _ _ _ _

lemma now_retire (merges : Bool) (report : RefreshReport) (kept : List String) (before : List Key)
    (l : Ledger) : (retire merges report kept before l).2.now = l.now := by
  unfold retire
  dsimp only
  split <;> next h => exact congrArg (fun x => x.2.now) h.symm

/-- **A pass leaves the clock alone.** -/
theorem timeless_notedPass (w : Watch) : (w.notedPass : Activity τ Unit).Timeless := by
  have hprobes : ∀ records, (w.discovery.probeNodes records :
      Activity τ (Except Failure ProbeReport)).Timeless :=
    fun _ _ => timeless_change fun l => Discovery.now_takeProbes _ _ l
  have hrefresh : (w.discovery.refresh : Activity τ RefreshReport).Timeless :=
    (timeless_look _).bind fun _ _ => timeless_change fun l => Discovery.now_takeRefresh _ _ l
  have hpass : (w.pass : Activity τ (Except Failure PassSummary)).Timeless := by
    refine (timeless_look _).bind fun before => hrefresh.bind fun report =>
      (timeless_vouchers w report).bind fun kept =>
      (timeless_change fun l => now_retire _ _ _ _ l).bind fun retired => ?_
    cases retired with
    | error f => trivial
    | ok x =>
        refine (hprobes x.2).bind fun probed => ?_
        cases probed <;> trivial
  exact hpass.bind fun _ => timeless_note _

end Watch

end Roster
