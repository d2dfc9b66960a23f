import Roster.Proofs.Discovery.Displacing
import Roster.Proofs.Discovery.Safety
import Roster.Proofs.Watch.Course

/-!
# Passes that come to an end

Members become inactive all at once, and only if every one of them still has an entry. A member
with an identifier has one. A member without an identifier that is active and did not answer has
lost its entry if meanwhile somebody new was listed at its address, and then the pass fails.

* `contains_retired_iff`: when all members that are to become inactive have entries.
* `inactive_of_fault`: who becomes inactive.
* `pass_ok_iff`: when a pass succeeds, and what became of the members that did not answer.
* `pass_abandoned`: a pass that fails, so that a member stays active that refused to answer.
-/

namespace Roster

namespace Watch

open Activity Discovery Registry

variable {τ : Type} {w : Watch} {l l' : Ledger} {t : List (Exchange τ)}

namespace Opening

variable {o : Opening τ w l}

/-- All members that are to become inactive have entries, unless one without an identifier that did
not answer made way for somebody new. -/
lemma contains_retired_iff (h : l.registry.WellFormed) :
    (∀ r ∈ retired w.discovery.merges o.report o.kept,
        o.retiring.registry.contains r.key = true) ↔
      ∀ r f, (r, .error f) ∈ asked l.registry o.answers → r.identifier = none →
        ¬ (w.discovery.merges = true ∧
          Displaced l.registry (listings (asked l.registry o.answers)) r.address) := by
  have haddress : ∀ {r : Record}, r.identifier = none →
      (o.retiring.registry.contains r.key = true ↔ l.registry.contains r.key = true ∧
        ¬ (w.discovery.merges = true ∧
          Displaced l.registry (listings (asked l.registry o.answers)) r.address)) := by
    intro r hr
    rw [Record.key_eq_address_iff.mpr ⟨hr, rfl⟩, o.registry_retiring, contains_address_takeRefresh,
      o.registry_taking]
  constructor
  · intro hall r f hrf hr
    have hretired : r ∈ retired w.discovery.merges o.report o.kept :=
      mem_retired_iff.mpr (Or.inl ⟨_, hrf, f, rfl, rfl, by simp [isAmong, hr]⟩)
    exact ((haddress hr).mp (hall r hretired)).2
  · intro hnone r hretired
    obtain ⟨x, hx, rfl⟩ := asked_of_retired hretired
    cases hid : x.1.identifier with
    | some i =>
        have hk : x.1.key = .identifier i := Record.key_eq_identifier_iff.mpr hid
        rw [hk]
        exact o.leadsTo_retiring.contains_identifier h (hk ▸ contains_asked h hx)
    | none =>
        refine (haddress hid).mpr ⟨contains_asked h hx, ?_⟩
        -- It did not answer: without an identifier it cannot answer as another, nor be unlisted.
        rcases mem_retired_iff.mp hretired with
          ⟨⟨r, answer⟩, hy, f, hf, hyx, -⟩ | ⟨y, -, -, -, hout⟩
        · obtain rfl : r = x.1 := hyx
          cases answer with
          | error f' => exact hnone _ f' hy hid
          | ok v => exact absurd hf (by simp [fault?, hid])
        · rw [isListed_takeRefresh_iff.mpr fun i hi => absurd hi (by simp [hid])] at hout
          exact absurd hout (by simp)

/-- Members can be made inactive exactly if all of them have entries. -/
lemma retirement_ok_iff :
    (∃ y, o.retirement.1 = .ok y) ↔ ∀ r ∈ retired w.discovery.merges o.report o.kept,
      o.retiring.registry.contains r.key = true := by
  rw [retirement, fst_retire, ← @setStatus_eq_ok_iff _ o.retiring.now false]
  cases (o.retiring.registry.setStatus o.retiring.now false
      (retired w.discovery.merges o.report o.kept)).1 with
  | error f => simp [Except.map]
  | ok n => simp [Except.map]

/-- A member that did not answer as itself becomes inactive, unless it took too long and is vouched
for. -/
lemma inactive_of_fault (h : l.registry.WellFormed) {n : Nat} {again : List Record}
    {middle : Ledger} (hret : o.retirement = (.ok (n, again), middle))
    {x : Record × Except Failure TopologyView} (hx : x ∈ asked l.registry o.answers) {f : Failure}
    (hf : fault? x = some f) (hout : ¬ (f.isTimeout = true ∧
      ∃ i, x.1.identifier = some i ∧ Vouched w o.gossips i)) :
    middle.registry.isActive? x.1.key = some false := by
  have hkept : isAmong o.kept x.1 = false := by
    cases hid : x.1.identifier with
    | none => simp [isAmong, hid]
    | some i =>
        rw [isAmong, hid, Option.any_some, ← Bool.not_eq_true, List.contains_iff_mem,
          o.mem_kept_iff, mem_timedOut_iff]
        rintro ⟨⟨y, hy, f', hf', htimeout, hyi⟩, hvouched⟩
        -- Nobody else was asked under its identifier, so it is this fault that took too long.
        obtain rfl := eq_of_identifier (keys_asked_nodup h o.length_answers) hx hid y hy hyi
        obtain rfl : f' = f := by simpa [hf] using hf'.symm
        exact hout ⟨htimeout, i, hid, hvouched⟩
  have hretired : x.1 ∈ retired w.discovery.merges o.report o.kept :=
    mem_retired_iff.mpr (Or.inl ⟨x, hx, f, hf, rfl, hkept⟩)
  obtain ⟨hcontains, -, hmiddle, -⟩ := retire_ok hret
  rw [hmiddle, isActive?_setStatus hcontains, if_pos (List.mem_map_of_mem hretired)]

variable {rest : List (Exchange τ)} {outcome : Except Failure PassSummary}

/-- A pass succeeds exactly if members could be made inactive: whoever is asked again afterwards is
registered. -/
lemma ok_iff_retirement_ok (h : l.registry.WellFormed)
    (hend : Ending Ledger.Later o.report o.kept rest outcome l' o.retirement) :
    (∃ s, outcome = .ok s) ↔ ∃ y, o.retirement.1 = .ok y := by
  constructor
  · rintro ⟨s, rfl⟩
    obtain ⟨n, again, middle, -, -, -, hret, -⟩ := hend.of_ok
    exact ⟨_, congrArg Prod.fst hret⟩
  · rintro ⟨⟨n, again⟩, hy⟩
    have hret : o.retirement = (.ok (n, again), o.retirement.2) := Prod.ext hy rfl
    rw [hret] at hend
    obtain ⟨answers, l₁, -, hwait, -, rfl, -⟩ := hend
    obtain ⟨-, -, -, hagain⟩ := retire_ok hret
    -- Whoever is asked again was read as inactive in the same stretch, so it has an entry.
    have hknown : ∀ x ∈ again.zip answers, ∀ id, x.1.identifier = some id →
        l₁.registry.contains (.identifier id) = true := by
      intro x hx
      have hmem : x.1 ∈ again := (List.of_mem_zip hx).1
      rw [hagain] at hmem
      have hinactive := List.mem_of_mem_filter (List.mem_of_mem_filter hmem)
      rw [hwait.registry_eq]
      exact (o.wellFormed_retirement h).knows ((withStatus_sublist _ _).subset hinactive)
    obtain ⟨probed, hok⟩ := takeProbes_ok {} (hwait.registry_eq ▸ o.wellFormed_retirement h) hknown
    exact ⟨_, by rw [hok]; rfl⟩

/-- If members cannot be made inactive, nothing changes. -/
lemma registry_of_failed_retirement {f : Failure} (hf : o.retirement.1 = .error f) :
    o.retirement.2.registry = o.retiring.registry := by
  rw [retirement, registry_retire]
  cases hm : o.retiring.registry.missing? (retired w.discovery.merges o.report o.kept) with
  | some k => rw [setStatus_of_missing hm]
  | none =>
      obtain ⟨y, hy⟩ := o.retirement_ok_iff.mpr (missing?_eq_none_iff.mp hm)
      rw [hy] at hf
      exact absurd hf (by simp)

/-- The answers of the active members make nobody inactive. -/
lemma active_retiring {i : String} (hi : l.registry.isActive? (.identifier i) = some true) :
    o.retiring.registry.isActive? (.identifier i) = some true := by
  rw [o.registry_retiring, isActive?_takeRefresh, o.registry_taking, hi]
  rfl

/-- If members cannot be made inactive, nobody becomes inactive. -/
lemma active_of_failed_retirement {f : Failure} (hf : o.retirement.1 = .error f) {i : String}
    (hi : l.registry.isActive? (.identifier i) = some true) :
    o.retirement.2.registry.isActive? (.identifier i) = some true := by
  rw [o.registry_of_failed_retirement hf]
  exact o.active_retiring hi

/-- If members cannot be made inactive, the pass ends there. -/
lemma ending_of_failed_retirement {f : Failure} (hf : o.retirement.1 = .error f)
    (hend : Ending Ledger.Later o.report o.kept rest outcome l' o.retirement) :
    rest = [] ∧ outcome = .error f ∧ l'.registry = o.retiring.registry := by
  have hkeep := o.registry_of_failed_retirement hf
  rw [show o.retirement = (.error f, o.retirement.2) from Prod.ext hf rfl] at hend
  obtain ⟨rfl, rfl, rfl⟩ := hend
  exact ⟨rfl, rfl, hkeep⟩

end Opening

/-- **When a pass succeeds.** Let nobody but the pass change the registry meanwhile. The pass
succeeds unless an active member without an identifier did not answer while members are taken over
and somebody who was not registered is listed first at its address. If it succeeds, every active
member that did not answer as itself is inactive after the stretch in which members become so,
unless it took too long and is vouched for; and otherwise nobody becomes inactive. -/
theorem pass_ok_iff {changes : List (Instant × Change)} {outcome : Except Failure PassSummary}
    (hreg : l.registry = Registry.after changes)
    (hrun : Runs Ledger.Later (w.pass : Activity τ (Except Failure PassSummary)) l t outcome l') :
    ∃ (answers : List (Except Failure TopologyView)) (gossips rest : List (Exchange τ)),
      t = .probed l.registry (l.registry.active.map Record.address) answers ::
        (gossips ++ rest) ∧
      answers.length = l.registry.active.length ∧
      gossips.map peer? <+: ((asked l.registry answers).filter fun x => (fault? x).isNone).map
        (fun x => some x.1.address) ∧
      ((∃ s, outcome = .ok s) ↔
        ∀ r f, (r, .error f) ∈ asked l.registry answers → r.identifier = none →
          ¬ (w.discovery.merges = true ∧
            Displaced l.registry (listings (asked l.registry answers)) r.address)) ∧
      (∀ s, outcome = .ok s → ∃ (middle : Registry) (again : List Record)
        (answers' : List (Except Failure TopologyView)),
        rest = [.probed middle (again.map Record.address) answers'] ∧
        ∀ x ∈ asked l.registry answers, ∀ f, fault? x = some f →
          ¬ (f.isTimeout = true ∧ ∃ i, x.1.identifier = some i ∧ Vouched w gossips i) →
          middle.isActive? x.1.key = some false) ∧
      ∀ f, outcome = .error f → rest = [] ∧
        ∀ i, l.registry.isActive? (.identifier i) = some true →
          l'.registry.isActive? (.identifier i) = some true := by
  have h : l.registry.WellFormed := hreg ▸ wellFormed_after changes
  obtain ⟨o, rest, rfl, hend⟩ := exists_opening hrun
  have hok := o.ok_iff_retirement_ok h hend
  refine ⟨o.answers, o.gossips, rest, rfl, o.length_answers, o.peers_gossips, ?_, ?_, ?_⟩
  · rw [← o.contains_retired_iff h, ← o.retirement_ok_iff]
    exact hok
  · rintro s rfl
    obtain ⟨n, again, middle, l₁, answers', probed, hret, -, rfl, -⟩ := hend.of_ok
    exact ⟨middle.registry, again, answers', rfl, fun x hx f hf hout =>
      o.inactive_of_fault h hret hx hf hout⟩
  · rintro f rfl
    cases hret : o.retirement.1 with
    | ok y =>
        obtain ⟨s, hs⟩ := hok.mpr ⟨y, hret⟩
        exact absurd hs (by simp)
    | error f' =>
        have hactive := fun i hi => o.active_of_failed_retirement hret (i := i) hi
        rw [show o.retirement = (.error f', o.retirement.2) from Prod.ext hret rfl] at hend
        obtain ⟨rfl, -, rfl⟩ := hend
        exact ⟨rfl, hactive⟩

/-! ### A pass that fails -/

/-- Three nodes of which only the first one answers, and lists itself and the last one. -/
def lister (a c : Address) : Client (StateM Unit) Unit where
  probe _ as := pure <| as.map fun x =>
    if x = a then .ok ⟨"a", "", [⟨"a", a⟩, ⟨"c", c⟩]⟩
    else .error (.unreachable x.text "connection refused" false)
  gossip _ x := pure (.error (.unreachable x.text "connection refused" false))
  call _ := pure (.ok ())

/-- How three nodes become active members of which the last one has no identifier. -/
def hastily (a b c : Address) : List (Instant × Change) :=
  let records : List Record := [.resolved a "a" none, .resolved b "b" none, .unresolved c]
  [(0, .add records), (0, .activate records)]

/-- The three nodes as active members. -/
def hastened (a b c : Address) : Registry :=
  ⟨[.fresh (.resolved a "a" none) true 0, .fresh (.resolved b "b" none) true 0,
    .fresh (.unresolved c) true 0]⟩

/-- A pass among the three nodes, with what they answer. -/
lemma runs_pass_lister :
    let place (name : String) : Address := ⟨"http", none, .whole name, none, none⟩
    let a := place "a"
    let b := place "b"
    let c := place "c"
    let l : Ledger := { Ledger.start 0 .first with registry := hastened a b c }
    let w : Watch := ⟨⟨⟨1⟩, true⟩, ⟨1⟩, none⟩
    hastened a b c = Registry.after (hastily a b c) ∧
    ∃ (rest : List (Exchange Unit)) (l' : Ledger),
      Runs Ledger.Later w.pass l
        (.probed (hastened a b c) ((hastened a b c).active.map Record.address)
          [.ok ⟨"a", "", [⟨"a", a⟩, ⟨"c", c⟩]⟩,
            .error (.unreachable b.text "connection refused" false),
            .error (.unreachable c.text "connection refused" false)] :: rest)
        (.error (notRegistered (.address c))) l' ∧
      l'.registry.isActive? (.identifier "b") = some true := by
  intro place a b c l w
  refine ⟨by decide, ?_⟩
  obtain ⟨t, hrun, hfrom⟩ := runs_runWith Ledger.Later.refl (lister a c)
    (fun _ _ _ => List.length_map _) w.pass l ()
  have herror : (((runWith (lister a c) w.pass).run l).run ()).1.1 =
      .error (notRegistered (.address c)) := by decide +kernel
  rw [herror] at hrun
  obtain ⟨o, t', rfl, -⟩ := exists_opening hrun
  obtain ⟨limit, st, hanswers⟩ := hfrom _ List.mem_cons_self
  have hround : o.round = (.probed (hastened a b c) ((hastened a b c).active.map Record.address)
      [.ok ⟨"a", "", [⟨"a", a⟩, ⟨"c", c⟩]⟩,
        .error (.unreachable b.text "connection refused" false),
        .error (.unreachable c.text "connection refused" false)] : Exchange Unit) := by
    rw [Opening.round, hanswers]
    rfl
  rw [hround] at hrun
  exact ⟨_, _, hrun, by decide +kernel⟩

/-- **A pass that is given up.** The last node does not answer and is listed for the first time; so
the pass fails, and the second node stays active though it refused to answer. -/
theorem pass_abandoned :
    let place (name : String) : Address := ⟨"http", none, .whole name, none, none⟩
    let reg := hastened (place "a") (place "b") (place "c")
    let l : Ledger := { Ledger.start 0 .first with registry := reg }
    let w : Watch := ⟨⟨⟨1⟩, true⟩, ⟨1⟩, none⟩
    reg = Registry.after (hastily (place "a") (place "b") (place "c")) ∧
    ∃ (answers : List (Except Failure TopologyView)) (rest : List (Exchange Unit)) (l' : Ledger),
      Runs Ledger.Later w.pass l
        (.probed reg (reg.active.map Record.address) answers :: rest)
        (.error (notRegistered (.address (place "c")))) l' ∧
      (∃ r ∈ reg.active, r.identifier = some "b" ∧
        ∃ f, (r, .error f) ∈ asked reg answers ∧ f.isTimeout = false) ∧
      l'.registry.isActive? (.identifier "b") = some true := by
  intro place reg l w
  obtain ⟨hreg, rest, l', hrun, hactive⟩ := runs_pass_lister
  exact ⟨hreg, _, rest, l', hrun, ⟨.resolved (place "b") "b" none, by decide, rfl, _,
    List.mem_cons_of_mem _ List.mem_cons_self, rfl⟩, hactive⟩

/-- This pass fails since an active node made way that did not answer; and everybody stays
active. -/
lemma pass_ok_iff_lister :
    let place (name : String) : Address := ⟨"http", none, .whole name, none, none⟩
    let reg := hastened (place "a") (place "b") (place "c")
    let l : Ledger := { Ledger.start 0 .first with registry := reg }
    let w : Watch := ⟨⟨⟨1⟩, true⟩, ⟨1⟩, none⟩
    ∃ (f : Failure) (answers : List (Except Failure TopologyView)) (rest : List (Exchange Unit))
      (l' : Ledger),
      reg = Registry.after (hastily (place "a") (place "b") (place "c")) ∧
      Runs Ledger.Later w.pass l
        (.probed reg (reg.active.map Record.address) answers :: rest) (.error f) l' ∧
      (¬ ∀ r f, (r, .error f) ∈ asked reg answers → r.identifier = none →
        ¬ (w.discovery.merges = true ∧
          Displaced reg (listings (asked reg answers)) r.address)) ∧
      ∀ i, reg.isActive? (.identifier i) = some true →
        l'.registry.isActive? (.identifier i) = some true := by
  intro place reg l w
  obtain ⟨hreg, rest, l', hrun, -⟩ := runs_pass_lister
  obtain ⟨answers, gossips, rest', ht, -, -, hok, -, hfailed⟩ := pass_ok_iff (l := l) hreg hrun
  rw [ht] at hrun
  refine ⟨_, answers, _, l', hreg, hrun, fun hall => ?_, (hfailed _ rfl).2⟩
  obtain ⟨s, hs⟩ := hok.mpr hall
  exact absurd hs (by simp)

end Watch

end Roster
