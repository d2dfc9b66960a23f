import Roster.Proofs.Discovery.Agreement
import Roster.Proofs.Watch.Completion

/-!
# What members have heard only spares some

What members have heard of others counts only for those whose answers took too long. Two passes in
which the same is answered to the rounds of questions go the same way whatever is heard in them, but
for the status of such members.

* `Late`: a member took too long to answer.
* `rounds`, `Consistent`: the same is answered whenever the same is asked at the same turn.
* `active_retirement_iff`: who of those with a fault stays active.
* `Opening.agrees_retirement`, `agrees_ending`: two passes go the same way.
* `Consulted.unique`: the same nodes are consulted if they answer the same.
* `hearsay_only_spares`: all of this for a pass, and for another one beside it.
-/

namespace Roster

namespace Watch

open Activity Discovery Registry

variable {τ : Type} {w w' : Watch} {l l' l₁ : Ledger} {t rest : List (Exchange τ)} {i : String}
  {merges : Bool} {xs : List (Record × Except Failure TopologyView)} {kept kept' : List String}

/-- A member took too long to answer. -/
def Late (xs : List (Record × Except Failure TopologyView)) (i : String) : Prop :=
  ∃ r f, (r, .error f) ∈ xs ∧ r.identifier = some i ∧ f.isTimeout = true

lemma mem_timedOut_iff_late : i ∈ timedOut (takeRefresh merges xs l).1 ↔ Late xs i := by
  rw [mem_timedOut_iff]
  constructor
  · rintro ⟨⟨r, answer⟩, hx, f, hf, htimeout, hi⟩
    obtain ⟨rfl, -⟩ := timeout_fault?_iff.mp ⟨hf, htimeout⟩
    exact ⟨r, f, hx, hi, htimeout⟩
  · rintro ⟨r, f, hx, hi, htimeout⟩
    exact ⟨_, hx, f, rfl, htimeout, hi⟩

lemma timedOut_eq_nil_iff : timedOut (takeRefresh merges xs l).1 = [] ↔ ∀ i, ¬ Late xs i := by
  simp only [List.eq_nil_iff_forall_not_mem, mem_timedOut_iff_late]

/-- Members that took too long were active before. -/
lemma active_of_late (h : l.registry.WellFormed) {answers : List (Except Failure TopologyView)}
    (hlength : answers.length = l.registry.active.length)
    (hi : Late (asked l.registry answers) i) : l.registry.isActive? (.identifier i) = some true := by
  obtain ⟨r, f, hx, hid, -⟩ := hi
  exact (active_iff_asked h hlength).mpr ⟨_, hx, hid⟩

/-! ### Who stays active -/

namespace Opening

variable {o : Opening τ w l} {n : Nat} {again : List Record} {middle : Ledger}

/-- Of those that did not answer as themselves exactly those stay active that took too long and are
vouched for. -/
lemma active_retirement_iff (h : l.registry.WellFormed)
    (hret : o.retirement = (.ok (n, again), middle)) {x : Record × Except Failure TopologyView}
    (hx : x ∈ asked l.registry o.answers) {f : Failure} (hf : fault? x = some f) :
    middle.registry.isActive? x.1.key = some true ↔
      f.isTimeout = true ∧ ∃ i, x.1.identifier = some i ∧ Vouched w o.gossips i := by
  constructor
  · intro hactive
    by_contra hout
    rw [o.inactive_of_fault h hret hx hf hout] at hactive
    exact absurd hactive (by simp)
  · rintro ⟨htimeout, i, hi, hvouched⟩
    obtain ⟨r, answer⟩ := x
    obtain ⟨rfl, -⟩ := timeout_fault?_iff.mp ⟨hf, htimeout⟩
    have hspared : Spared w (asked l.registry o.answers) o.gossips i :=
      Or.inr ⟨r, f, hx, hi, htimeout, hvouched⟩
    rw [Record.key_eq_identifier_iff.mpr hi, active_retire_iff h o.length_answers o.registry_taking
      o.mem_kept_iff o.registry_retiring hret]
    exact Or.inl ⟨(active_iff_asked h o.length_answers).mpr ⟨_, hx, hi⟩, hspared⟩

end Opening

/-! ### The exchanges of a pass -/

/-- The rounds of questions, with the answers. -/
def rounds (t : List (Exchange τ)) : List (List Address × List (Except Failure TopologyView)) :=
  t.filterMap fun
    | .probed _ asked answers => some (asked, answers)
    | _ => none

lemma rounds_probed (reg : Registry) (as : List Address)
    (answers : List (Except Failure TopologyView)) :
    rounds ([.probed reg as answers] : List (Exchange τ)) = [(as, answers)] := rfl

/-- Whenever the same is asked at the same turn, the answer is the same. -/
def Consistent {α β : Type} (xs ys : List (α × β)) : Prop :=
  ∀ p ∈ xs.zip ys, p.1.1 = p.2.1 → p.1.2 = p.2.2

lemma consistent_cons_iff {α β : Type} {q : α} {b b' : β} {xs ys : List (α × β)} :
    Consistent ((q, b) :: xs) ((q, b') :: ys) ↔ b = b' ∧ Consistent xs ys := by
  simp [Consistent]

/-- The same nodes are consulted if they answer the same. -/
lemma Consulted.unique {as : List Address} {gs gs' : List (Address × Except Failure GossipView)}
    (h : Consulted as gs) (h' : Consulted as gs') (hsame : Consistent gs gs') : gs' = gs := by
  induction h generalizing gs' with
  | nobody =>
      cases h'
      rfl
  | answered a as v =>
      cases h' with
      | answered a as v' => rw [(consistent_cons_iff.mp hsame).1]
      | failed a f h' => exact absurd (consistent_cons_iff.mp hsame).1 (by simp)
  | failed a f h ih =>
      cases h' with
      | answered a as v => exact absurd (consistent_cons_iff.mp hsame).1 (by simp)
      | failed a f' h' =>
          obtain ⟨hf, hrest⟩ := consistent_cons_iff.mp hsame
          obtain rfl : f = f' := by simpa using hf
          rw [ih h' hrest]

/-- The first answer about what was heard. -/
lemma findSome?_heard (t : List (Exchange τ)) :
    t.findSome? heard? = (hearings t).findSome? fun x => x.2.toOption := by
  induction t with
  | nil => rfl
  | cons x t ih =>
      cases x with
      | probed reg asked answers => exact ih
      | gossiped reg peer answer =>
          cases answer with
          | ok v => rfl
          | error f => exact ih
      | called reg node answer => exact ih

/-- Who vouches for whom is told by what was heard. -/
lemma Vouched.mono {t₁ : List (Exchange τ)} (h : Vouched w t i)
    (hage : ∀ m, w.gossipMaxAge = some m → ∃ m', w'.gossipMaxAge = some m' ∧ m.nanos ≤ m'.nanos)
    (hsame : hearings t₁ = hearings t) : Vouched w' t₁ i := by
  obtain ⟨m, v, age, hm, hv, hvage, hle⟩ := h
  obtain ⟨m', hm', hmm'⟩ := hage m hm
  refine ⟨m', v, age, hm', ?_, hvage, hle.trans hmm'⟩
  rw [findSome?_heard, hsame, ← findSome?_heard, hv]

lemma vouched_iff_of_hearings {t₁ : List (Exchange τ)} (hsame : hearings t₁ = hearings t) :
    Vouched w t₁ i ↔ Vouched w t i :=
  ⟨fun h => h.mono (fun m hm => ⟨m, hm, le_rfl⟩) hsame.symm,
    fun h => h.mono (fun m hm => ⟨m, hm, le_rfl⟩) hsame⟩

/-- Once members became inactive, nobody is asked any more what it has heard. -/
lemma Ending.hearings {report : RefreshReport} {r : Except Failure PassSummary}
    {x : Except Failure (Nat × List Record) × Ledger}
    (h : Ending Ledger.Later report kept rest r l' x) :
    Watch.hearings rest = [] ∧ ∀ y ∈ rest, peer? y = none := by
  obtain ⟨result, middle⟩ := x
  cases result with
  | error f =>
      obtain ⟨rfl, -⟩ := h
      simp [Watch.hearings]
  | ok y =>
      obtain ⟨n, again⟩ := y
      obtain ⟨answers, l₁, -, -, rfl, -⟩ := h
      simp [Watch.hearings, peer?]

namespace Opening

variable (o : Opening τ w l)

/-- What is heard in a pass is what is heard before members become inactive. -/
lemma hearings_eq (hrest : hearings rest = []) :
    hearings (o.round :: (o.gossips ++ rest)) = hearings o.gossips := by
  have hsplit : hearings (o.round :: (o.gossips ++ rest)) =
      hearings o.gossips ++ hearings rest := by
    simp only [hearings, round, List.filterMap_cons, List.filterMap_append]
  rw [hsplit, hrest, List.append_nil]

/-- While it is found out what was heard, nobody is asked for the members. -/
lemma rounds_eq : rounds (o.round :: (o.gossips ++ rest)) =
    (l.registry.active.map Record.address, o.answers) :: rounds rest := by
  have hnone : rounds o.gossips = [] := by
    rw [rounds, List.filterMap_eq_nil_iff]
    intro y hy
    obtain ⟨x, -, hx⟩ := List.mem_map.mp (o.peers_gossips.subset (List.mem_map_of_mem hy))
    cases y with
    | probed reg asked answers => exact absurd hx (by simp [peer?])
    | gossiped reg peer answer => rfl
    | called reg node answer => rfl
  simp only [rounds, round, List.filterMap_cons, List.filterMap_append] at hnone ⊢
  rw [hnone, List.nil_append]

/-- If hearsay counts and somebody took too long, those that answered as themselves are asked. -/
lemma consulted (hage : w.gossipMaxAge ≠ none) (hi : Late (asked l.registry o.answers) i) :
    Consulted (((asked l.registry o.answers).filter fun x => (fault? x).isNone).map
      fun x => x.1.address) (hearings o.gossips) :=
  o.hearings_gossips.2 hage fun hnone => timedOut_eq_nil_iff.mp hnone i hi

end Opening

/-! ### Another pass beside a pass -/

/-- Who counts as listed does not depend on what is registered. -/
lemma isListed_takeRefresh_eq (r : Record) :
    isListed merges (takeRefresh merges xs l₁).1 r = isListed merges (takeRefresh merges xs l).1 r := by
  rw [Bool.eq_iff_iff, isListed_takeRefresh_iff, isListed_takeRefresh_iff]

/-- Who becomes inactive depends on who is kept only if it took too long. -/
lemma mem_retired_of_not_late (hkept : ∀ id ∈ kept', Late xs id) {k : Key}
    (hk : ∀ i, k = .identifier i → ¬ Late xs i)
    (hmem : k ∈ (retired merges (takeRefresh merges xs l).1 kept).map Record.key) :
    k ∈ (retired merges (takeRefresh merges xs l₁).1 kept').map Record.key := by
  obtain ⟨r, hr, rfl⟩ := List.mem_map.mp hmem
  refine List.mem_map_of_mem (mem_retired_iff.mpr ?_)
  rcases mem_retired_iff.mp hr with ⟨x, hx, f, hf, hxr, -⟩ | ⟨x, hx, hf, hxr, hout⟩
  · refine Or.inl ⟨x, hx, f, hf, hxr, ?_⟩
    rw [isAmong, Option.any_eq_false]
    intro i hi
    rw [← Bool.not_eq_true, List.contains_iff_mem]
    exact fun hmem => hk i (Record.key_eq_identifier_iff.mpr hi) (hkept i hmem)
  · exact Or.inr ⟨x, hx, hf, hxr, by rwa [isListed_takeRefresh_eq (l := l)]⟩

namespace Opening

variable {o : Opening τ w l} {o₁ : Opening τ w' l₁}

/-- The members that are kept took too long. -/
lemma late_of_kept {id : String} (hid : id ∈ o.kept) : Late (asked l.registry o.answers) id :=
  mem_timedOut_iff_late.mp ((o.mem_kept_iff id).mp hid).1

section Beside

variable (h : l.registry.WellFormed) (hw : w'.discovery = w.discovery)
  (hreg : l₁.registry = l.registry) (hanswers : o₁.answers = o.answers)

include hw hreg hanswers

lemma agrees_retiring (P : String → Prop) :
    Agrees P o.retiring.registry o₁.retiring.registry := by
  have htaking : Agrees P o.taking.registry o₁.taking.registry := by
    rw [o.registry_taking, o₁.registry_taking, hreg]
    exact Agrees.refl _
  rw [o.registry_retiring, o₁.registry_retiring, hw, hreg, hanswers]
  exact agrees_takeRefresh htaking _

/-- The same members become inactive but for some that took too long. -/
lemma mem_retired_iff_of_not_late (k : Key) :
    (∃ i, k = .identifier i ∧ Late (asked l.registry o.answers) i) ∨
      (k ∈ (retired w'.discovery.merges o₁.report o₁.kept).map Record.key ↔
        k ∈ (retired w.discovery.merges o.report o.kept).map Record.key) := by
  by_cases hlate : ∃ i, k = .identifier i ∧ Late (asked l.registry o.answers) i
  · exact Or.inl hlate
  · have hk : ∀ i, k = .identifier i → ¬ Late (asked l.registry o.answers) i :=
      fun i hi hl => hlate ⟨i, hi, hl⟩
    have hkept₁ : ∀ id ∈ o₁.kept, Late (asked l.registry o.answers) id := by
      intro id hid
      have hlate₁ := o₁.late_of_kept hid
      rwa [hreg, hanswers] at hlate₁
    unfold report
    rw [hw, hreg, hanswers]
    exact Or.inr ⟨mem_retired_of_not_late (fun _ => o.late_of_kept) hk,
      mem_retired_of_not_late hkept₁ hk⟩

include h

/-- In one pass members can be made inactive exactly if they can in the other. -/
lemma retirement_ok_iff_beside : (∃ y, o₁.retirement.1 = .ok y) ↔ ∃ y, o.retirement.1 = .ok y := by
  rw [o₁.retirement_ok_iff, o.retirement_ok_iff, o₁.contains_retired_iff (hreg ▸ h),
    o.contains_retired_iff h, hw, hreg, hanswers]

variable {n n₁ : Nat} {again again₁ : List Record} {middle middle₁ : Ledger}

/-- When members became inactive, the registries agree but for members that took too long; and the
same members are asked again. -/
lemma agrees_retirement (hret : o.retirement = (.ok (n, again), middle))
    (hret₁ : o₁.retirement = (.ok (n₁, again₁), middle₁)) :
    Agrees (Late (asked l.registry o.answers)) middle.registry middle₁.registry ∧
      again₁ = again := by
  obtain ⟨hall, -, hmiddle, hagain⟩ := retire_ok hret
  obtain ⟨hall₁, -, hmiddle₁, hagain₁⟩ := retire_ok hret₁
  have hagree : Agrees (Late (asked l.registry o.answers)) middle.registry middle₁.registry := by
    rw [hmiddle, hmiddle₁]
    exact (agrees_retiring hw hreg hanswers _).setStatus (wellFormed_retiring h)
      (wellFormed_retiring (hreg ▸ h)) hall hall₁
      (mem_retired_iff_of_not_late hw hreg hanswers)
  have hwell := o.wellFormed_again h hret rfl
  refine ⟨hagree, ?_⟩
  -- Those that are asked again were inactive before, and so they did not take too long.
  have hbefore : ∀ r : Record, (l.registry.inactive.map Record.key).contains r.key = true →
      ∀ i, r.key = .identifier i → ¬ Late (asked l.registry o.answers) i := by
    intro r hr i hi hlate
    obtain ⟨s, hs, hkey⟩ := List.mem_map.mp (List.contains_iff_mem.mp hr)
    have hactive := active_of_late h o.length_answers hlate
    rw [← hi, ← hkey, h.isActive?_of_mem hs] at hactive
    exact absurd hactive (by simp)
  have hinactive : (middle₁.registry.inactive.filter fun r =>
      (l.registry.inactive.map Record.key).contains r.key) =
      middle.registry.inactive.filter fun r =>
        (l.registry.inactive.map Record.key).contains r.key :=
    hagree.withStatus_filter hwell hbefore false
  rw [hagain, hagain₁, hreg, hinactive, report, report, hw, hreg, hanswers]
  exact List.filter_congr fun r _ => isListed_takeRefresh_eq r

variable {rest₁ : List (Exchange τ)} {r r₁ : Except Failure PassSummary} {l₁' : Ledger}

/-- Two passes in which the rounds of questions are answered the same: the same is asked in them, one
succeeds if the other does, and the registries agree in the end but for members that took too
long. -/
lemma agrees_ending (hend : Ending Ledger.Later o.report o.kept rest r l' o.retirement)
    (hend₁ : Ending Ledger.Later o₁.report o₁.kept rest₁ r₁ l₁' o₁.retirement)
    (hsame : Consistent (rounds rest) (rounds rest₁)) :
    rounds rest₁ = rounds rest ∧ ((∃ s, r₁ = .ok s) ↔ ∃ s, r = .ok s) ∧
      Agrees (Late (asked l.registry o.answers)) l'.registry l₁'.registry := by
  have hboth : (∃ y, o₁.retirement.1 = .ok y) ↔ ∃ y, o.retirement.1 = .ok y :=
    retirement_ok_iff_beside h hw hreg hanswers
  have hok : (∃ s, r₁ = .ok s) ↔ ∃ s, r = .ok s := by
    rw [o.ok_iff_retirement_ok h hend, o₁.ok_iff_retirement_ok (hreg ▸ h) hend₁, hboth]
  cases hret : o.retirement.1 with
  | ok y =>
      obtain ⟨y₁, hret₁⟩ := hboth.mpr ⟨y, hret⟩
      obtain ⟨n, again⟩ := y
      obtain ⟨n₁, again₁⟩ := y₁
      have hpair : o.retirement = (.ok (n, again), o.retirement.2) := Prod.ext hret rfl
      have hpair₁ : o₁.retirement = (.ok (n₁, again₁), o₁.retirement.2) := Prod.ext hret₁ rfl
      obtain ⟨hagree, rfl⟩ := agrees_retirement h hw hreg hanswers hpair hpair₁
      rw [hpair] at hend
      rw [hpair₁] at hend₁
      obtain ⟨answers, m, -, hm, rfl, -, rfl⟩ := hend
      obtain ⟨answers₁, m₁, -, hm₁, rfl, -, rfl⟩ := hend₁
      rw [rounds_probed, rounds_probed] at hsame ⊢
      obtain ⟨rfl, -⟩ := consistent_cons_iff.mp hsame
      refine ⟨rfl, hok, ?_⟩
      have hagree' : Agrees (Late (asked l.registry o.answers)) m.registry m₁.registry := by
        rwa [hm.registry_eq, hm₁.registry_eq]
      exact (agrees_takeProbes hagree' (hm.registry_eq ▸ o.wellFormed_retirement h)
        (hm₁.registry_eq ▸ o₁.wellFormed_retirement (hreg ▸ h)) _ _).2
  | error f =>
      cases hret₁ : o₁.retirement.1 with
      | ok y₁ =>
          obtain ⟨y, hy⟩ := hboth.mp ⟨y₁, hret₁⟩
          exact absurd (hret.symm.trans hy) (by simp)
      | error f₁ =>
          obtain ⟨rfl, -, hl'⟩ := o.ending_of_failed_retirement hret hend
          obtain ⟨rfl, -, hl₁'⟩ := o₁.ending_of_failed_retirement hret₁ hend₁
          refine ⟨rfl, hok, ?_⟩
          rw [hl', hl₁']
          exact agrees_retiring hw hreg hanswers _

end Beside

end Opening

/-- **Hearsay only spares those that took too long.** Let nobody but the pass change the registry
meanwhile.

* Nobody is asked what it has heard unless that may count and some active member took too long. If so,
  those that answered as themselves are asked one after the other, until one of them tells; nobody is
  asked later in the pass.
* If the pass succeeds, an active member that did not answer as itself is kept exactly if it took too
  long and the first one that told has heard from it lately enough; and if it fails, nobody becomes
  inactive.
* Take another pass from the same registry, with any age up to which hearsay counts and any hearsay,
  in which the rounds of questions are answered the same. Then the same is asked in these rounds, it
  succeeds if the first one does, and the registries agree in the end, but for the status of members
  that took too long. If hearsay counts up to the same or a greater age and the same is told, then
  all those are kept who are kept in the first one. -/
theorem hearsay_only_spares {r : Except Failure PassSummary} (h : l.registry.WellFormed)
    (hrun : Runs Ledger.Later (w.pass : Activity τ (Except Failure PassSummary)) l t r l') :
    ∃ (answers : List (Except Failure TopologyView)) (gossips rest : List (Exchange τ)),
      t = .probed l.registry (l.registry.active.map Record.address) answers ::
        (gossips ++ rest) ∧
      answers.length = l.registry.active.length ∧
      (∀ y ∈ gossips, ∃ a, peer? y = some a) ∧ (∀ y ∈ rest, peer? y = none) ∧
      (w.gossipMaxAge = none ∨ (∀ i, ¬ Late (asked l.registry answers) i) → gossips = []) ∧
      (w.gossipMaxAge ≠ none → (∃ i, Late (asked l.registry answers) i) →
        Consulted (((asked l.registry answers).filter fun x => (fault? x).isNone).map
          fun x => x.1.address) (hearings gossips)) ∧
      (∀ s, r = .ok s → ∃ (middle : Registry) (again : List Record)
        (answers' : List (Except Failure TopologyView)),
        rest = [.probed middle (again.map Record.address) answers'] ∧
        ∀ x ∈ asked l.registry answers, ∀ f, fault? x = some f →
          (middle.isActive? x.1.key = some true ↔
            f.isTimeout = true ∧ ∃ i, x.1.identifier = some i ∧ Vouched w t i)) ∧
      (∀ f, r = .error f → rest = [] ∧
        ∀ i, l.registry.isActive? (.identifier i) = some true →
          l'.registry.isActive? (.identifier i) = some true) ∧
      ∀ (w' : Watch) (l₁ l₁' : Ledger) (t₁ : List (Exchange τ)) (r₁ : Except Failure PassSummary),
        w'.discovery = w.discovery → l₁.registry = l.registry →
        Runs Ledger.Later (w'.pass : Activity τ (Except Failure PassSummary)) l₁ t₁ r₁ l₁' →
        Consistent (rounds t) (rounds t₁) →
        rounds t₁ = rounds t ∧ ((∃ s, r₁ = .ok s) ↔ ∃ s, r = .ok s) ∧
        Agrees (Late (asked l.registry answers)) l'.registry l₁'.registry ∧
        ((∀ m, w.gossipMaxAge = some m →
            ∃ m', w'.gossipMaxAge = some m' ∧ m.nanos ≤ m'.nanos) →
          Consistent (hearings t) (hearings t₁) →
          ∀ i, Late (asked l.registry answers) i → Vouched w t i → Vouched w' t₁ i) := by
  obtain ⟨o, rest, rfl, hend⟩ := exists_opening hrun
  obtain ⟨hrest, hquiet⟩ := hend.hearings
  have hheard := o.hearings_eq hrest
  have hunasked := o.hearings_gossips.1
  rw [timedOut_eq_nil_iff] at hunasked
  refine ⟨o.answers, o.gossips, rest, rfl, o.length_answers, ?_, hquiet, hunasked,
    fun hage ⟨i, hi⟩ => o.consulted hage hi, ?_, ?_, ?_⟩
  · intro y hy
    have hmem := o.peers_gossips.subset (List.mem_map_of_mem hy)
    obtain ⟨x, -, hx⟩ := List.mem_map.mp hmem
    exact ⟨_, hx.symm⟩
  · rintro s rfl
    obtain ⟨n, again, middle, m, answers', probed, hret, -, rfl, -⟩ := hend.of_ok
    refine ⟨middle.registry, again, answers', rfl, fun x hx f hf => ?_⟩
    simp only [o.active_retirement_iff h hret hx hf, vouched_iff_of_hearings hheard]
  · rintro f rfl
    cases hret : o.retirement.1 with
    | ok y =>
        obtain ⟨s, hs⟩ := (o.ok_iff_retirement_ok h hend).mpr ⟨y, hret⟩
        exact absurd hs (by simp)
    | error f' =>
        obtain ⟨rfl, -, hl'⟩ := o.ending_of_failed_retirement hret hend
        refine ⟨rfl, fun i hi => ?_⟩
        rw [hl']
        exact o.active_retiring hi
  · intro w' l₁ l₁' t₁ r₁ hw hreg hrun₁ hsame
    obtain ⟨o₁, rest₁, rfl, hend₁⟩ := exists_opening hrun₁
    rw [o.rounds_eq, o₁.rounds_eq, hreg] at hsame ⊢
    obtain ⟨hanswers, hsame⟩ := consistent_cons_iff.mp hsame
    obtain ⟨hasked, hok, hagree⟩ := o.agrees_ending h hw hreg hanswers.symm hend hend₁ hsame
    refine ⟨by rw [hasked, hanswers], hok, hagree, fun hage htold i hi hvouched => ?_⟩
    -- Hearsay counts in both passes and somebody took too long, so that the same nodes are asked.
    obtain ⟨m, hm⟩ : ∃ m, w.gossipMaxAge = some m := by
      obtain ⟨m, -, -, hm, -⟩ := hvouched
      exact ⟨m, hm⟩
    obtain ⟨m', hm', -⟩ := hage m hm
    have hi₁ : Late (asked l₁.registry o₁.answers) i := by rwa [hreg, ← hanswers]
    have hconsulted₁ := o₁.consulted (by simp [hm']) hi₁
    have hheard₁ := o₁.hearings_eq hend₁.hearings.1
    rw [hreg, ← hanswers] at hconsulted₁
    rw [hheard, hheard₁] at htold
    refine hvouched.mono hage ?_
    rw [hheard, hheard₁]
    exact (o.consulted (by simp [hm]) hi).unique hconsulted₁ htold

/-- The nodes of a cluster in which one address takes too long, a node answers at all others, and
everybody tells the same of what it has heard. -/
def rumoured (slow : Address) (v : GossipView) : Client (StateM Unit) Unit where
  probe _ as := pure <| as.map fun a =>
    if a = slow then .error (.unreachable a.text "timed out" true) else .ok ⟨"a", "", []⟩
  gossip _ _ := pure (.ok v)
  call _ := pure (.ok ())

/-- A pass in which a member takes too long and is kept, since the one that answered has heard from
it. -/
lemma hearsay_only_spares_rumoured :
    let a : Address := ⟨"http", none, .whole "a", none, none⟩
    let b : Address := ⟨"http", none, .whole "b", none, none⟩
    let reg : Registry :=
      ⟨[.fresh (.resolved a "a" none) true 0, .fresh (.resolved b "b" none) true 0]⟩
    let l : Ledger := { Ledger.start 0 .first with registry := reg }
    let w : Watch := ⟨⟨⟨1⟩, true⟩, ⟨1⟩, some ⟨5⟩⟩
    ∃ (answers : List (Except Failure TopologyView)) (gossips rest : List (Exchange Unit))
      (l' : Ledger), reg.WellFormed ∧
      Runs Ledger.Later w.pass l
        (.probed reg (reg.active.map Record.address) answers :: (gossips ++ rest))
        (.ok { keptByGossip := 1 }) l' ∧
      Late (asked reg answers) "b" ∧
      Consulted (((asked reg answers).filter fun x => (fault? x).isNone).map
        fun x => x.1.address) (hearings gossips) := by
  intro a b reg l w
  have h : reg.WellFormed := ⟨by decide, by decide⟩
  obtain ⟨t, hrun, hfrom⟩ := runs_runWith Ledger.Later.refl (rumoured b ⟨"a", [⟨"b", ⟨3⟩⟩]⟩)
    (fun _ _ _ => List.length_map _) w.pass l ()
  have hok : (((runWith (rumoured b ⟨"a", [⟨"b", ⟨3⟩⟩]⟩) w.pass).run l).run ()).1.1 =
      .ok { keptByGossip := 1 } := by decide +kernel
  rw [hok] at hrun
  obtain ⟨answers, gossips, rest, rfl, -, -, -, -, hconsulted, -⟩ := hearsay_only_spares h hrun
  obtain ⟨limit, st, hanswers⟩ := hfrom _ List.mem_cons_self
  have hlate : Late (asked reg answers) "b" := by
    refine ⟨.resolved b "b" none, .unreachable b.text "timed out" true, ?_, rfl, rfl⟩
    rw [hanswers]
    exact List.mem_cons_of_mem _ List.mem_cons_self
  exact ⟨answers, gossips, rest, _, h, hrun, hlate, hconsulted (by simp [w]) ⟨"b", hlate⟩⟩

end Watch

end Roster
