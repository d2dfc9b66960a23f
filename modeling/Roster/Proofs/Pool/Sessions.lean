import Roster.Proofs.Activity.Blindness
import Roster.Proofs.Pool.Interleaving
import Roster.Proofs.Watch.Run

/-!
# Sessions without merging

A session is what the user of a pool does with it, one thing after the other. If none of it takes
over members that nodes list, then these members have no influence on the session.

* `takeProbes_congr`, `takeRefresh_congr`: answers that differ at most in listed members are taken
  over in the same way, those of active members without merging.
* `blind_refresh`, `blind_pass`, `blind_withActiveNode`, `blind_connect`: without merging, all that
  a pool does is blind to listed members.
* `Session`: things that are done one after the other, each one depending on what came of the ones
  before. `Session.WithoutMerging`: none of them takes over listed members.
* `Session.members_without_influence`: two runs of such a session cannot be told apart if nodes
  tell the same in both but for the members that they list.
-/

namespace Roster

open Activity

variable {τ α : Type}

/-! ### Answers that are taken over -/

namespace Discovery

variable {records : List Record} {answers answers' : List (Except Failure TopologyView)}

/-- What a node that may become active lists is not looked at. -/
lemma recover_congr (r : Record) (id hash : String) (ms ms' : List Listing) :
    recover r ⟨id, hash, ms⟩ = recover r ⟨id, hash, ms'⟩ := rfl

lemma takeProbes_congr (h : List.Forall₂ Alike answers answers') (report : ProbeReport) :
    takeProbes (records.zip answers) report = takeProbes (records.zip answers') report := by
  induction h generalizing records report with
  | nil => rfl
  | cons hx _ ih =>
      cases records with
      | nil => rfl
      | cons r records =>
          funext l
          cases hx with
          | failed f => simp only [List.zip_cons_cons, takeProbes, ih]
          | told id hash ms ms' =>
              simp only [List.zip_cons_cons, takeProbes, recover_congr r id hash ms ms', ih]

/-- Without merging, what an active member lists is not looked at. -/
lemma takeRefreshOne_congr (acc : RefreshReport × Ledger) (r : Record) (id hash : String)
    (ms ms' : List Listing) :
    takeRefreshOne false acc (r, .ok ⟨id, hash, ms⟩) =
      takeRefreshOne false acc (r, .ok ⟨id, hash, ms'⟩) := rfl

lemma foldl_takeRefreshOne_congr (h : List.Forall₂ Alike answers answers')
    (acc : RefreshReport × Ledger) :
    (records.zip answers).foldl (takeRefreshOne false) acc =
      (records.zip answers').foldl (takeRefreshOne false) acc := by
  induction h generalizing records acc with
  | nil => rfl
  | cons hx _ ih =>
      cases records with
      | nil => rfl
      | cons r records =>
          cases hx with
          | failed f => exact ih _
          | told id hash ms ms' =>
              simp only [List.zip_cons_cons, List.foldl_cons,
                takeRefreshOne_congr acc r id hash ms ms', ih]

lemma takeRefresh_congr (h : List.Forall₂ Alike answers answers') :
    takeRefresh false (records.zip answers) = takeRefresh false (records.zip answers') := by
  funext l
  simp only [takeRefresh, foldl_takeRefreshOne_congr h]

/-! ### What is blind -/

variable {d : Discovery}

lemma blind_probeNodes (d : Discovery) (records : List Record) :
    Blind (d.probeNodes records : Activity τ _) :=
  Blind.probeAll_bind_change fun _ _ h => takeProbes_congr h {}

lemma blind_refresh (hd : d.merges = false) : Blind (d.refresh : Activity τ RefreshReport) := by
  refine (Blind.look _).bind fun active => Blind.probeAll_bind_change fun answers answers' h => ?_
  rw [hd]
  exact takeRefresh_congr h

lemma blind_bootstrap (d : Discovery) (seeds : List Address) :
    Blind (d.bootstrap seeds : Activity τ (Except Failure Nat)) := by
  cases hempty : seeds.isEmpty with
  | true =>
      simp only [bootstrap, hempty, if_true]
      trivial
  | false =>
      simp only [bootstrap, hempty, Bool.false_eq_true, if_false]
      exact (Blind.change _).bind fun _ =>
        (blind_probeNodes d _).bind fun report => Blind.change _

end Discovery

namespace Watch

open Discovery

variable {w : Watch}

lemma blind_consult (d : Discovery) (maxAge : Duration) (ids : List String) (peers : List Record) :
    Blind (consult d maxAge ids peers : Activity τ (List String)) := by
  induction peers with
  | nil => trivial
  | cons peer peers ih =>
      refine (Blind.gossipOne _ _).bind fun answer => ?_
      cases answer with
      | ok v => exact Blind.change _
      | error f => exact (Blind.note _).bind fun _ => ih

lemma blind_vouchers (w : Watch) (report : RefreshReport) :
    Blind (w.vouchers report : Activity τ (List String)) := by
  unfold vouchers
  split
  · trivial
  · dsimp only
    split
    · trivial
    · exact blind_consult _ _ _ _

lemma blind_finish (report : RefreshReport) (kept : List String)
    (x : Except Failure (Nat × List Record)) :
    Blind (finish w report kept x : Activity τ (Except Failure PassSummary)) := by
  cases x with
  | error f => trivial
  | ok x => exact (blind_probeNodes _ _).bind fun _ => trivial

lemma blind_pass (hw : w.discovery.merges = false) :
    Blind (w.pass : Activity τ (Except Failure PassSummary)) := by
  rw [pass_eq]
  exact (Blind.look _).bind fun before => (blind_refresh hw).bind fun report =>
    (blind_vouchers w report).bind fun kept => (Blind.change _).bind fun x =>
      blind_finish report kept x

end Watch

namespace Pool

open Discovery

lemma blind_callUntil (nodes : List Record) (last : Option Failure) :
    Blind (callUntil nodes last : Activity τ (Except Failure τ)) := by
  induction nodes generalizing last with
  | nil => trivial
  | cons node nodes ih =>
      refine (Blind.callOne node).bind fun answer => ?_
      cases answer with
      | ok v => trivial
      | error f =>
          dsimp only
          split
          · refine (Blind.change _).bind fun reported => ?_
            cases reported with
            | ok _ => exact ih _
            | error f => trivial
          · trivial

lemma blind_withActiveNode (drawn : Nat) :
    Blind (withActiveNode drawn : Activity τ (Except Failure τ)) :=
  (Blind.change _).bind fun nodes => blind_callUntil nodes none

lemma blind_connect {s : ClusterSettings} (hs : s.discover = false) :
    Blind (connect s : Activity τ (Except Failure Pool)) := by
  unfold connect
  dsimp only
  split
  · trivial
  · refine (blind_bootstrap _ _).bind fun r => ?_
    cases r with
    | error f => trivial
    | ok n =>
        simp only [hs, Bool.false_eq_true, if_false]
        exact Blind.change _

end Pool

/-! ### Sessions -/

/-- Whether a call takes over members that nodes list. Of nodes that are asked so that they may
become active, only what they tell about themselves is taken over. -/
def System.Call.merges : System.Call → Bool
  | pass w => w.discovery.merges
  | refresh d => d.merges
  | bootstrap .. | probeNodes .. | withActiveNode _ => false

lemma System.Call.blind {c : System.Call} (hc : c.merges = false) :
    Blind (c.activity : Activity τ (System.Outcome τ)) := by
  cases c with
  | pass w => exact (Watch.blind_pass hc).bind fun _ => trivial
  | refresh d => exact (Discovery.blind_refresh hc).bind fun _ => trivial
  | bootstrap d seeds => exact (Discovery.blind_bootstrap d seeds).bind fun _ => trivial
  | probeNodes d records => exact (Discovery.blind_probeNodes d records).bind fun _ => trivial
  | withActiveNode drawn => exact (Pool.blind_withActiveNode drawn).bind fun _ => trivial

/-- What the user of a pool does, one thing after the other. What is done next may depend on what
came of the things before. -/
inductive Session (τ α : Type)
  /-- There is nothing left to do. -/
  | finished (result : α)
  /-- A pool is set up. -/
  | connect (s : ClusterSettings) (next : Except Failure Pool → Session τ α)
  /-- One of the things that a pool does for its user. -/
  | call (c : System.Call) (next : System.Outcome τ → Session τ α)
  /-- The registry is looked at, or changed in any way, and nobody is asked. -/
  | update (f : Ledger → Ledger) (next : Ledger → Session τ α)

namespace Session

/-- What is done in a session, in stretches. -/
def activity : Session τ α → Activity τ α
  | finished r => .done r
  | connect s next => (Pool.connect s).bind fun r => (next r).activity
  | call c next => c.activity.bind fun outcome => (next outcome).activity
  | update f next => .update f fun l => (next l).activity

/-- Nothing in a session takes over members that nodes list. -/
def WithoutMerging : Session τ α → Prop
  | finished _ => True
  | connect s next => s.discover = false ∧ ∀ r, WithoutMerging (next r)
  | call c next => c.merges = false ∧ ∀ outcome, WithoutMerging (next outcome)
  | update _ next => ∀ l, WithoutMerging (next l)

lemma WithoutMerging.blind {s : Session τ α} (hs : s.WithoutMerging) : Blind s.activity := by
  induction s with
  | finished r => trivial
  | connect s next ih => exact (Pool.blind_connect hs.1).bind fun r => ih r (hs.2 r)
  | call c next ih => exact (System.Call.blind hs.1).bind fun outcome => ih outcome (hs.2 outcome)
  | update f next ih => exact fun l => ih l (hs l)

/-- **Without merging, listed members have no influence.** Take a session in which nothing takes
over members that nodes list.

* With two clients whose answers differ at most in the members that are listed, the session comes
  to the same result and leaves the same ledger, with the same registry and the same events, and
  the same is asked in the same order.
* Whatever others do to the ledger meanwhile: if the members that are listed in a run are
  exchanged, then it is still a run, to the same result and the same ledger, in which the same is
  asked in the same registries. -/
theorem members_without_influence {s : Session τ α} (hs : s.WithoutMerging) :
    (∀ {σ σ' : Type} (R : σ → σ' → Prop) (c : Client (StateM σ) τ) (c' : Client (StateM σ') τ),
      Client.Resembles R c c' → ∀ l st st', R st st' →
        (((runWith c s.activity).run l).run st).1 = (((runWith c' s.activity).run l).run st').1 ∧
          questions c s.activity l st = questions c' s.activity l st') ∧
    ∀ (others : Ledger → Ledger → Prop) l t t' r l', Runs others s.activity l t r l' →
      List.Forall₂ Exchange.Alike t t' → Runs others s.activity l t' r l' := by
  refine ⟨fun R c c' hc l st st' hst => ?_, fun others l t t' r l' hrun halike => ?_⟩
  · exact hs.blind.runWith_eq hc l hst
  · exact hs.blind.runs hrun halike

/-- A pool is started with one node, the active members are asked, and a pass is made. -/
def visit (d : Discovery) (a : Address) : Session Unit (List (System.Outcome Unit)) :=
  .call (.bootstrap d [a]) fun started => .call (.refresh d) fun refreshed =>
    .call (.pass ⟨d, ⟨1⟩, none⟩) fun passed => .finished [started, refreshed, passed]

/-- A node lists a second one to one client and nobody to another client. Without merging nobody
can tell which client it was; with merging, there are different members in the end. -/
lemma members_without_influence_visit :
    let a : Address := ⟨"http", none, .whole "a", none, none⟩
    let b : Listing := ⟨"b", ⟨"http", none, .whole "b", none, none⟩⟩
    let l : Ledger := .start 0 .first
    let one : Client (StateM Unit) Unit := .chorus ⟨"a", "", [b]⟩
    let other : Client (StateM Unit) Unit := .chorus ⟨"a", "", []⟩
    let alone := (visit ⟨⟨1⟩, false⟩ a).activity
    let merging := (visit ⟨⟨1⟩, true⟩ a).activity
    (visit ⟨⟨1⟩, false⟩ a).WithoutMerging ∧
      (((runWith one alone).run l).run ()).1 = (((runWith other alone).run l).run ()).1 ∧
      questions one alone l () = questions other alone l () ∧
      (((runWith one merging).run l).run ()).1.2.registry ≠
        (((runWith other merging).run l).run ()).1.2.registry := by
  intro a b l one other alone merging
  have hs : (visit ⟨⟨1⟩, false⟩ a).WithoutMerging :=
    ⟨rfl, fun _ => ⟨rfl, fun _ => ⟨rfl, fun _ => trivial⟩⟩⟩
  have hresembles : Client.Resembles (fun _ _ => True) one other := by
    refine ⟨fun limit as st st' _ => ⟨?_, trivial⟩, fun _ _ _ _ _ => ⟨rfl, trivial⟩,
      fun _ _ _ _ => ⟨rfl, trivial⟩⟩
    -- All nodes that are asked give the one answer or all give the other one.
    exact List.forall₂_map_left_iff.mpr (List.forall₂_map_right_iff.mpr
      (List.forall₂_same.mpr fun _ _ => .told _ _ _ _))
  obtain ⟨hsame, hasked⟩ :=
    (members_without_influence hs).1 (fun _ _ => True) one other hresembles l () () trivial
  exact ⟨hs, hsame, hasked, by decide⟩

end Session

end Roster
