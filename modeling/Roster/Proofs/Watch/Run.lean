import Roster.Proofs.Discovery.Run
import Roster.Watch.Pass

/-!
# Runs of a pass

A pass asks the active members, then perhaps some of them what they have heard, and then the
members that may come back; in between it makes members inactive.

* `runs_consult`: the members that are asked what they have heard are asked one after the other
  until one answers, and the first answer counts.
* `runs_vouchers`: nothing changes in the registry meanwhile, and the members that are vouched
  for are those that timed out and of which the first answer says that they were heard from.
* `Consulted`: nodes are asked what they have heard until one of them answers; `hearings_vouchers`:
  when this is done, and among whom.
* `fst_retire`, `registry_retire`: what the stretch does in which members become inactive.
* `runs_pass_iff`: the runs of a pass, stretch by stretch.
-/

namespace Roster

namespace Watch

open Activity Discovery

variable {τ : Type} {others : Ledger → Ledger → Prop} {w : Watch} {l l' : Ledger}
  {t : List (Exchange τ)} {ids kept : List String} {report : RefreshReport}

/-- What a member has heard, if that is what an exchange told. -/
def heard? : Exchange τ → Option GossipView
  | .gossiped _ _ (.ok v) => some v
  | _ => none

/-- Who was asked what it has heard, if that is what an exchange is about. -/
def peer? : Exchange τ → Option Address
  | .gossiped _ peer _ => some peer
  | _ => none

/-- Who was asked what it has heard in some exchanges, with the answers. -/
def hearings (t : List (Exchange τ)) : List (Address × Except Failure GossipView) :=
  t.filterMap fun
    | .gossiped _ peer answer => some (peer, answer)
    | _ => none

/-- Nodes are asked what they have heard, one after the other, until one of them answers. -/
inductive Consulted : List Address → List (Address × Except Failure GossipView) → Prop
  | nobody : Consulted [] []
  | answered (a : Address) (as : List Address) (v : GossipView) : Consulted (a :: as) [(a, .ok v)]
  | failed {as gs} (a : Address) (f : Failure) (h : Consulted as gs) :
      Consulted (a :: as) ((a, .error f) :: gs)

/-- Members are asked what they have heard, one after the other, until one answers, and its
answer counts. -/
lemma runs_consult {d : Discovery} {maxAge : Duration} {peers : List Record}
    (h : Runs Ledger.Later (consult d maxAge ids peers) l t kept l') :
    l'.registry = l.registry ∧ t.map peer? <+: peers.map (fun r => some r.address) ∧
      kept = ((t.findSome? heard?).map fun v => fresh maxAge v ids).getD [] := by
  induction peers generalizing l t with
  | nil =>
      obtain ⟨rfl, rfl, rfl⟩ := runs_done_iff.mp h
      simp
  | cons peer peers ih =>
      rw [consult, bind_eq, Discovery.gossip, runs_gossipOne_bind_iff] at h
      obtain ⟨answer, l₁, t', hwait, rfl, h⟩ := h
      cases answer with
      | ok v =>
          obtain ⟨rfl, rfl, rfl⟩ := runs_change_iff.mp h
          refine ⟨by simp [hwait.registry_eq], ?_, ?_⟩
          · simp [peer?]
          · simp [heard?]
      | error f =>
          obtain ⟨hreg, hpeers, hkept⟩ := ih (runs_note_bind_iff.mp h)
          refine ⟨by rw [hreg]; exact hwait.registry_eq, ?_, hkept⟩
          rw [List.map_cons, List.map_cons, peer?]
          exact List.cons_prefix_cons.mpr ⟨rfl, hpeers⟩

lemma consulted_hearings {d : Discovery} {maxAge : Duration} {peers : List Record}
    (h : Runs Ledger.Later (consult d maxAge ids peers) l t kept l') :
    Consulted (peers.map Record.address) (hearings t) := by
  induction peers generalizing l t with
  | nil =>
      obtain ⟨rfl, -, -⟩ := runs_done_iff.mp h
      exact .nobody
  | cons peer peers ih =>
      rw [consult, bind_eq, Discovery.gossip, runs_gossipOne_bind_iff] at h
      obtain ⟨answer, l₁, t', -, rfl, h⟩ := h
      cases answer with
      | ok v =>
          obtain ⟨rfl, -, -⟩ := runs_change_iff.mp h
          exact .answered _ _ v
      | error f => exact .failed _ f (ih (runs_note_bind_iff.mp h))

/-- Whether another member vouches for one in the exchanges of a pass: the first answer about
what was heard says that it was heard from lately enough. -/
def Vouched (w : Watch) (gossips : List (Exchange τ)) (id : String) : Prop :=
  ∃ maxAge v age, w.gossipMaxAge = some maxAge ∧ gossips.findSome? heard? = some v ∧
    v.ageOf? id = some age ∧ age.nanos ≤ maxAge.nanos

lemma mem_fresh_iff {maxAge : Duration} {v : GossipView} {id : String} :
    id ∈ fresh maxAge v ids ↔
      id ∈ ids ∧ ∃ age, v.ageOf? id = some age ∧ age.nanos ≤ maxAge.nanos := by
  simp [fresh, Option.any_eq_true]

/-- Those are kept whom the first answer about what was heard vouches for. -/
lemma mem_heard_iff {maxAge : Duration} (hage : w.gossipMaxAge = some maxAge) (id : String) :
    id ∈ ((t.findSome? heard?).map fun v => fresh maxAge v ids).getD [] ↔
      id ∈ ids ∧ Vouched w t id := by
  cases hv : t.findSome? heard? with
  | none => simp [Vouched, hv]
  | some v => simp [Vouched, hv, hage, mem_fresh_iff]

/-- Finding out who is vouched for changes no member; those that answered are asked. -/
lemma runs_vouchers (h : Runs Ledger.Later (w.vouchers report) l t kept l') :
    l'.registry = l.registry ∧
      t.map peer? <+: report.reached.map (fun r => some r.address) ∧
      ∀ id, id ∈ kept ↔ id ∈ timedOut report ∧ Vouched w t id := by
  unfold vouchers at h
  cases hage : w.gossipMaxAge with
  | none =>
      rw [hage] at h
      obtain ⟨rfl, rfl, rfl⟩ := runs_done_iff.mp h
      simp [Vouched, hage]
  | some maxAge =>
      rw [hage] at h
      cases hids : (timedOut report).isEmpty with
      | true =>
          simp only [hids, if_true] at h
          obtain ⟨rfl, rfl, rfl⟩ := runs_done_iff.mp h
          have hnone : timedOut report = [] := List.isEmpty_iff.mp hids
          simp [hnone]
      | false =>
          simp only [hids, Bool.false_eq_true, if_false] at h
          obtain ⟨hreg, hpeers, rfl⟩ := runs_consult h
          exact ⟨hreg, hpeers, mem_heard_iff hage⟩

/-- Nobody is asked what it has heard, unless that may count and some member took too long: then
those that answered are asked, until one of them tells. -/
lemma hearings_vouchers (h : Runs Ledger.Later (w.vouchers report) l t kept l') :
    (w.gossipMaxAge = none ∨ timedOut report = [] → t = []) ∧
      (w.gossipMaxAge ≠ none → timedOut report ≠ [] →
        Consulted (report.reached.map Record.address) (hearings t)) := by
  unfold vouchers at h
  cases hage : w.gossipMaxAge with
  | none =>
      rw [hage] at h
      obtain ⟨rfl, -, -⟩ := runs_done_iff.mp h
      simp
  | some maxAge =>
      rw [hage] at h
      cases hids : (timedOut report).isEmpty with
      | true =>
          simp only [hids, if_true] at h
          obtain ⟨rfl, -, -⟩ := runs_done_iff.mp h
          have hnone : timedOut report = [] := List.isEmpty_iff.mp hids
          simp [hnone]
      | false =>
          simp only [hids, Bool.false_eq_true, if_false] at h
          have hsome : timedOut report ≠ [] := by
            rwa [ne_eq, ← List.isEmpty_iff, Bool.not_eq_true]
          exact ⟨by simp [hsome], fun _ _ => consulted_hearings h⟩

@[simp]
lemma isAmong_nil (r : Record) : isAmong [] r = false := by
  unfold isAmong
  cases r.identifier <;> rfl

/-! ### The stretch in which members become inactive -/

/-- The members that a pass makes inactive. -/
def retired (merges : Bool) (report : RefreshReport) (kept : List String) : List Record :=
  down report kept ++ unlisted merges report

lemma registry_retire (merges : Bool) (report : RefreshReport) (kept : List String)
    (before : List Key) (l : Ledger) :
    (retire merges report kept before l).2.registry =
      (l.registry.setStatus l.now false (retired merges report kept)).2 := by
  unfold retire
  cases hd : (l.noteAll ((unlisted merges report).map noLongerListed)).deactivate
      (down report kept ++ unlisted merges report) with
  | mk result l₂ =>
      have hregistry : (l.registry.setStatus l.now false (retired merges report kept)).2 =
          l₂.registry := congrArg (fun x => x.2.registry) hd
      cases result <;> simp only [hd, hregistry, Ledger.registry_noteAll]

/-- How many members become inactive, and which ones are asked again. -/
lemma fst_retire (merges : Bool) (report : RefreshReport) (kept : List String)
    (before : List Key) (l : Ledger) :
    (retire merges report kept before l).1 =
      (l.registry.setStatus l.now false (retired merges report kept)).1.map fun n =>
        (n, (retries merges report before
          (l.registry.setStatus l.now false (retired merges report kept)).2).1) := by
  unfold retire
  cases hd : (l.noteAll ((unlisted merges report).map noLongerListed)).deactivate
      (down report kept ++ unlisted merges report) with
  | mk result l₂ =>
      have hresult : (l.registry.setStatus l.now false (retired merges report kept)).1 = result :=
        congrArg Prod.fst hd
      have hregistry : (l.registry.setStatus l.now false (retired merges report kept)).2 =
          l₂.registry := congrArg (fun x => x.2.registry) hd
      cases result <;> simp only [hd, hresult, hregistry, Except.map]

/-! ### The whole pass -/

/-- What a pass tells in the end. -/
def summary (report : RefreshReport) (kept : List String) (n : Nat) (probed : ProbeReport) :
    PassSummary where
  deactivated := n
  reactivated := probed.recovered.length
  added := report.added
  relocated := report.relocated
  keptByGossip := (report.failed.filter fun x => isAmong kept x.1).length

/-- How a pass goes on once members were to become inactive: it ends if that failed, and
otherwise the members that may come back are asked. -/
def Ending (others : Ledger → Ledger → Prop) (report : RefreshReport) (kept : List String)
    (t : List (Exchange τ)) (r : Except Failure PassSummary) (l' : Ledger) :
    Except Failure (Nat × List Record) × Ledger → Prop
  | (.error f, l) => t = [] ∧ r = .error f ∧ l' = l
  | (.ok (n, again), l) => ∃ answers l₁, answers.length = again.length ∧ others l l₁ ∧
      t = [.probed l.registry (again.map Record.address) answers] ∧
      r = (takeProbes (again.zip answers) {} l₁).1.map (summary report kept n) ∧
      l' = (takeProbes (again.zip answers) {} l₁).2

/-- What a pass does after the stretch in which members become inactive. -/
def finish (w : Watch) (report : RefreshReport) (kept : List String) :
    Except Failure (Nat × List Record) → Activity τ (Except Failure PassSummary)
  | .error f => .done (.error f)
  | .ok (n, again) =>
    (w.discovery.probeNodes again).bind fun probed =>
      .done (probed.map (summary report kept n))

lemma runs_finish_iff {x : Except Failure (Nat × List Record)} {r : Except Failure PassSummary} :
    Runs others (finish w report kept x) l t r l' ↔
      Ending others report kept t r l' (x, l) := by
  cases x with
  | error f =>
      rw [finish, runs_done_iff]
      rfl
  | ok x =>
      obtain ⟨n, again⟩ := x
      rw [finish, runs_probeNodes_bind_iff, Ending]
      constructor
      · rintro ⟨answers, l₁, t', hlength, hwait, rfl, h⟩
        obtain ⟨rfl, rfl, rfl⟩ := runs_done_iff.mp h
        exact ⟨answers, l₁, hlength, hwait, rfl, rfl, rfl⟩
      · rintro ⟨answers, l₁, hlength, hwait, rfl, rfl, rfl⟩
        exact ⟨answers, l₁, [], hlength, hwait, rfl, .done _ _⟩

/-- A pass is its first round, the questions about what was heard, the stretch in which members
become inactive, and its ending. -/
lemma pass_eq (w : Watch) :
    (w.pass : Activity τ (Except Failure PassSummary)) =
      (look fun l => l.registry.inactive.map Record.key).bind fun before =>
        w.discovery.refresh.bind fun report =>
          (w.vouchers report).bind fun kept =>
            (change (retire w.discovery.merges report kept before)).bind fun x =>
              finish w report kept x := by
  simp only [pass, bind_eq]
  refine congrArg (Activity.bind _) (funext fun before => ?_)
  refine congrArg (Activity.bind _) (funext fun report => ?_)
  refine congrArg (Activity.bind _) (funext fun kept => ?_)
  refine congrArg (Activity.bind _) (funext fun x => ?_)
  cases x with
  | error f => rfl
  | ok x =>
      obtain ⟨n, again⟩ := x
      refine congrArg (Activity.bind (w.discovery.probeNodes again)) (funext fun probed => ?_)
      cases probed <;> rfl

/-- The runs of a pass: a round among the active members, questions about what was heard, the
stretch in which members become inactive, and the ending. -/
lemma runs_pass_iff {r : Except Failure PassSummary} :
    Runs others (w.pass : Activity τ (Except Failure PassSummary)) l t r l' ↔
      ∃ answers l₁ gossips kept l₂ t',
        answers.length = l.registry.active.length ∧ others l l₁ ∧
        t = .probed l.registry (l.registry.active.map Record.address) answers ::
          (gossips ++ t') ∧
        Runs others (w.vouchers
            (takeRefresh w.discovery.merges (asked l.registry answers) l₁).1)
          (takeRefresh w.discovery.merges (asked l.registry answers) l₁).2 gossips kept l₂ ∧
        Ending others (takeRefresh w.discovery.merges (asked l.registry answers) l₁).1 kept
          t' r l' (retire w.discovery.merges
            (takeRefresh w.discovery.merges (asked l.registry answers) l₁).1 kept
            (l.registry.inactive.map Record.key) l₂) := by
  rw [pass_eq, runs_look_bind_iff, runs_refresh_bind_iff]
  simp only [runs_bind_iff (a := w.vouchers _), runs_change_bind_iff, runs_finish_iff, Prod.mk.eta]
  constructor
  · rintro ⟨answers, l₁, _, hlength, hwait, rfl, gossips, t', kept, l₂, rfl, hgossip, h⟩
    exact ⟨answers, l₁, gossips, kept, l₂, t', hlength, hwait, rfl, hgossip, h⟩
  · rintro ⟨answers, l₁, gossips, kept, l₂, t', hlength, hwait, rfl, hgossip, h⟩
    exact ⟨answers, l₁, _, hlength, hwait, rfl, gossips, t', kept, l₂, rfl, hgossip, h⟩

end Watch

end Roster
