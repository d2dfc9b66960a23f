import Roster.Proofs.Discovery.Counting
import Roster.Proofs.Discovery.Introducing
import Roster.Proofs.Watch.Course

/-!
# What the summary of a pass tells

A pass counts what it does as it does it: who is new and who has moved when members are listed, who
becomes inactive, and who becomes active again. This tells whether the registry has changed, but
for two things. Moves are counted that cancel each other out; and nobody counts who answers in
place of another one that is asked again, so that nothing is said about the keys of such a one.

* `Opening.unhashed_of_quiet`: if nothing is counted until members are asked again, nothing has
  changed.
* `Opening.added_of_same_status`, `Opening.returns_of_same_status`,
  `Opening.retired_of_same_status`: if everybody has the same status as before, nobody was new or
  became active or inactive in between.
* `summary_tells_change`: what a summary tells.
* `summary_misleads`: a pass that counts two moves though nobody has moved, and one that counts
  nothing though somebody is new.
-/

namespace Roster

namespace Watch

open Activity Discovery Registry

variable {τ : Type} {w : Watch} {l l' l₁ : Ledger} {t : List (Exchange τ)}

namespace Opening

variable {o : Opening τ w l} {n : Nat} {again : List Record} {middle : Ledger}
  {answers : List (Except Failure TopologyView)} {probed : ProbeReport}

/-! ### If nothing is counted -/

/-- If nobody was new, had moved or became inactive, nothing has changed but hashes. -/
lemma unhashed_of_quiet (h : l.registry.WellFormed)
    (hret : o.retirement = (.ok (0, again), middle))
    (hhome : w.discovery.merges = true →
      ∀ m ∈ listings (asked l.registry o.answers), AtHome l.registry m) :
    middle.registry.entries.map Entry.unhashed = l.registry.entries.map Entry.unhashed := by
  obtain ⟨-, hzero, hmiddle, -⟩ := retire_ok hret
  rw [hmiddle, snd_setStatus_of_zero (wellFormed_retiring h) hzero, o.registry_retiring]
  rw [← o.registry_taking] at hhome ⊢
  exact unhashed_takeRefresh_of_atHome hhome

/-- What the counts of a refresh tell about the members that were listed. -/
lemma quiet_iff : o.report.added = 0 ∧ o.report.relocated = 0 ↔ (w.discovery.merges = true →
    ∀ m ∈ listings (asked l.registry o.answers), AtHome l.registry m) := by
  rw [report, quiet_takeRefresh_iff, o.registry_taking]

/-! ### If nobody's status has changed -/

variable (h : l.registry.WellFormed) (hret : o.retirement = (.ok (n, again), middle))
  (hl₁ : l₁.registry = middle.registry)
  (hok : (takeProbes (again.zip answers) {} l₁).1 = .ok probed)
  (hsame : ∀ k, (takeProbes (again.zip answers) {} l₁).2.registry.isActive? k =
    l.registry.isActive? k)

include h hret hl₁ hsame

/-- Nobody was new: it would still be registered. -/
lemma added_of_same_status : o.report.added = 0 := by
  refine added_takeRefresh_of_known fun hmerges m hm => ?_
  have hretiring : o.retiring.registry.contains (.identifier m.identifier) = true := by
    rw [o.registry_retiring, contains_identifier_takeRefresh]
    exact Or.inr ⟨hmerges, exists_mem_listings_iff.mp ⟨m, hm, rfl⟩⟩
  have hwell := wellFormed_again h hret hl₁
  have hagain : l₁.registry.contains (.identifier m.identifier) = true := by
    rw [hl₁, (retire_ok hret).2.2.1, contains_setStatus, hretiring]
  have hend := (takeProbes_leadsTo hwell (again.zip answers) {}).contains_identifier hwell hagain
  rw [← Bool.not_eq_false, ← isActive?_eq_none_iff, hsame, isActive?_eq_none_iff,
    ← o.registry_taking] at hend
  exact Bool.not_eq_false _ ▸ hend

include hok

/-- Nobody that was asked again became active. -/
lemma returns_of_same_status : ∀ x ∈ again.zip answers, returns x = false := by
  rintro ⟨r, answer⟩ hx
  cases answer with
  | error f => rfl
  | ok v =>
      have hwell := wellFormed_again h hret hl₁
      have hbefore : l.registry.isActive? r.key = some false := by
        obtain ⟨s, hs, hkey⟩ :=
          List.mem_map.mp ((o.mem_again_iff hret r).mp (List.of_mem_zip hx).1).2.1
        exact hkey ▸ h.isActive?_of_mem hs
      rw [← Bool.not_eq_true, returns_ok_iff]
      rintro (hr | hr)
      · -- It would not be registered any more under its address.
        have hgone := (introduces_takeProbes hwell hok).not_contains hx hr
        rw [← isActive?_eq_none_iff, hsame, hbefore] at hgone
        exact absurd hgone (by simp)
      · have hactive := (active_takeProbes_iff hwell hok v.identifier).mpr
          (Or.inr ⟨r, v, hx, rfl, Or.inr (Or.inl hr)⟩)
        rw [hsame, ← Record.key_eq_identifier_iff.mpr hr, hbefore] at hactive
        exact absurd hactive (by simp)

/-- Nobody was made inactive: nobody would have become active again. -/
lemma retired_of_same_status : retired w.discovery.merges o.report o.kept = [] := by
  have hwell := wellFormed_again h hret hl₁
  refine List.eq_nil_iff_forall_not_mem.mpr fun r hr => ?_
  obtain ⟨hcontains, -, hmiddle, -⟩ := retire_ok hret
  have hinactive : l₁.registry.isActive? r.key = some false := by
    rw [hl₁, hmiddle, isActive?_setStatus hcontains, if_pos (List.mem_map_of_mem hr)]
  have hactive : (takeProbes (again.zip answers) {} l₁).2.registry.isActive? r.key = some true := by
    obtain ⟨x, hx, rfl⟩ := asked_of_retired hr
    rw [hsame]
    exact h.isActive?_of_mem (List.of_mem_zip hx).1
  cases hkey : r.key with
  | address a =>
      rw [hkey] at hinactive hactive
      have hback := (takeProbes_leadsTo hwell (again.zip answers) {}).active_address hwell hactive
      rw [hinactive] at hback
      exact absurd hback (by simp)
  | identifier i =>
      rw [hkey] at hinactive hactive
      rcases (active_takeProbes_iff hwell hok i).mp hactive with hi | ⟨s, v, hs, rfl, hcase⟩
      · rw [hinactive] at hi
        exact absurd hi (by simp)
      · have hout := returns_of_same_status h hret hl₁ hok hsame _ hs
        rw [← Bool.not_eq_true, returns_ok_iff] at hout
        rw [← or_assoc, or_iff_right hout, ← isActive?_eq_none_iff, hinactive] at hcase
        exact absurd hcase (by simp)

end Opening

/-! ### The summary -/

/-- **What a summary tells.** Let nobody but the pass change the registry meanwhile.

If the pass counts nothing, what a key says about its member is what it said before, unless
somebody else answered who was asked again, was not registered at this very address, and is to be
found under this key; and without any such answer the entries are what they were but for their
hashes.

If every entry says the same about its member as before, nobody was counted who is new or became
active or inactive, and somebody was counted who has moved exactly if a member that was taken over
was listed elsewhere than it was registered. -/
theorem summary_tells_change {s : PassSummary} (h : l.registry.WellFormed)
    (hrun : Runs Ledger.Later (w.pass : Activity τ (Except Failure PassSummary)) l t (.ok s) l') :
    ∃ (answers : List (Except Failure TopologyView)) (gossips : List (Exchange τ))
      (middle : Registry) (again : List Record) (answers' : List (Except Failure TopologyView)),
      t = .probed l.registry (l.registry.active.map Record.address) answers ::
        (gossips ++ [.probed middle (again.map Record.address) answers']) ∧
      answers.length = l.registry.active.length ∧ answers'.length = again.length ∧
      again.Sublist middle.inactive ∧
      (∀ r, r ∈ again ↔ r ∈ middle.inactive ∧ r.key ∈ l.registry.inactive.map Record.key ∧
        ∀ i, r.identifier = some i → Listed w.discovery.merges (asked l.registry answers) i) ∧
      ({ s with keptByGossip := 0 } = ({} : PassSummary) →
        (∀ k, ¬ Usurped l.registry (again.zip answers') k →
          (l'.registry.find? k).map Entry.outline = (l.registry.find? k).map Entry.outline) ∧
        ((∀ r v i, (r, .ok v) ∈ again.zip answers' → r.identifier = some i → i ≠ v.identifier →
            AtHome l.registry ⟨v.identifier, r.address⟩) →
          l'.registry.entries.map Entry.unhashed = l.registry.entries.map Entry.unhashed)) ∧
      ((∀ k, (l'.registry.find? k).map Entry.outline = (l.registry.find? k).map Entry.outline) →
        s.added = 0 ∧ s.deactivated = 0 ∧ s.reactivated = 0 ∧
          (s.relocated = 0 ↔ (w.discovery.merges = true →
            ∀ m ∈ listings (asked l.registry answers), AtHome l.registry m))) := by
  obtain ⟨o, t', rfl, hend⟩ := exists_opening hrun
  obtain ⟨n, again, middle, l₁, answers', probed, hret, hlength', rfl, hl₁, hok, rfl, rfl⟩ :=
    hend.summary_of_ok
  have hwell := o.wellFormed_again h hret hl₁
  refine ⟨o.answers, o.gossips, middle.registry, again, answers', rfl, o.length_answers, hlength',
    o.sublist_again hret, o.mem_again_iff hret, fun hzero => ?_, fun hsame => ?_⟩
  · obtain ⟨rfl, hnobody, hadded, hrelocated⟩ : n = 0 ∧ probed.recovered.length = 0 ∧
        o.report.added = 0 ∧ o.report.relocated = 0 := by
      simpa [summary] using hzero
    have hmiddle := o.unhashed_of_quiet h hret (o.quiet_iff.mp ⟨hadded, hrelocated⟩)
    rw [← hl₁] at hmiddle
    refine ⟨fun k hk => ?_, fun hhome => ?_⟩
    · have hk₁ : ¬ Usurped l₁.registry (again.zip answers') k := fun hk₁ =>
        hk (hk₁.of_outline (outline_of_unhashed hmiddle k) fun i hi =>
          (contains_of_unhashed hmiddle _).trans hi)
      rw [outline_takeProbes_of_unrecovered hwell hok hnobody hk₁, outline_of_unhashed hmiddle]
    · have hrest := registry_takeProbes_of_unrecovered hwell hok hnobody fun r v i hx hi hne => by
        rw [atHome_iff_of_unhashed hmiddle]
        exact hhome r v i hx hi hne
      rw [hrest, hmiddle]
  · have hstatus : ∀ k, (takeProbes (again.zip answers') {} l₁).2.registry.isActive? k =
        l.registry.isActive? k := by
      intro k
      rw [← map_snd_outline, hsame, map_snd_outline]
    have hadded := o.added_of_same_status h hret hl₁ hstatus
    have hdeactivated : n = 0 := by
      obtain ⟨-, hn, -⟩ := retire_ok hret
      rw [o.retired_of_same_status h hret hl₁ hok hstatus] at hn
      exact (Except.ok.inj hn).symm
    have hreactivated : probed.recovered.length = 0 := by
      have hnone := o.returns_of_same_status h hret hl₁ hok hstatus
      rw [length_recovered_takeProbes hwell hok, List.countP_eq_zero.mpr fun x hx => by
        simp [hnone x hx]]
      rfl
    refine ⟨hadded, hdeactivated, hreactivated, ?_⟩
    rw [← o.quiet_iff]
    exact (and_iff_right hadded).symm

/-! ### Summaries that mislead -/

/-- The address of a name. -/
def place (name : String) : Address := ⟨"http", none, .whole name, none, none⟩

/-- Two members, of which the second one may be inactive. -/
def couple (b : Bool) : Ledger :=
  { Ledger.start 0 .first with registry := ⟨[.fresh (.resolved (place "a") "a" none) true 0,
    .fresh (.resolved (place "b") "b" none) b 0]⟩ }

lemma wellFormed_couple (b : Bool) : (couple b).registry.WellFormed := by
  refine ⟨?_, ?_⟩ <;> cases b <;> decide

/-- What two nodes answer of which the first one lists the second elsewhere, and the second itself
where it is. -/
def disputing (x : Address) : Except Failure TopologyView :=
  .ok <| if x = place "a" then ⟨"a", "", [⟨"a", place "a"⟩, ⟨"b", place "c"⟩]⟩
    else ⟨"b", "", [⟨"b", place "b"⟩]⟩

/-- What two nodes answer of which the second one has taken the place of another. -/
def supplanting (x : Address) : Except Failure TopologyView :=
  .ok <| if x = place "a" then ⟨"a", "", []⟩ else ⟨"x", "", []⟩

lemma runs_pass_disputing :
    let w : Watch := ⟨⟨⟨1⟩, true⟩, ⟨1⟩, none⟩
    ∃ (t : List (Exchange Unit)) (l' : Ledger),
      Runs Ledger.Later w.pass (couple true) t (.ok { relocated := 2 }) l' ∧
      l'.registry.entries.map Entry.unhashed =
        (couple true).registry.entries.map Entry.unhashed := by
  intro w
  obtain ⟨t, hrun, -⟩ := exists_runs_steady disputing (a := w.pass) (l := couple true)
    (r := .ok { relocated := 2 }) (by decide +kernel)
  exact ⟨t, _, hrun, by decide +kernel⟩

/-- Since nothing changes in this pass, its moves tell that the listed members are not all where they
were registered. -/
lemma summary_tells_change_disputing :
    let w : Watch := ⟨⟨⟨1⟩, true⟩, ⟨1⟩, none⟩
    let reg := (couple true).registry
    ∃ (t : List (Exchange Unit)) (l' : Ledger), reg.WellFormed ∧
      Runs Ledger.Later w.pass (couple true) t (.ok { relocated := 2 }) l' ∧
      ∃ answers, t.head? = some (.probed reg (reg.active.map Record.address) answers) ∧
        ∃ m ∈ listings (asked reg answers), ¬ AtHome reg m := by
  intro w reg
  obtain ⟨t, l', hrun, hsame⟩ := runs_pass_disputing
  obtain ⟨answers, gossips, middle, again, answers', rfl, -, -, -, -, -, hquiet⟩ :=
    summary_tells_change (wellFormed_couple true) hrun
  obtain ⟨-, -, -, hmoved⟩ := hquiet fun k => outline_of_unhashed hsame k
  refine ⟨_, l', wellFormed_couple true, hrun, answers, rfl, ?_⟩
  by_contra hhome
  exact absurd (hmoved.mpr fun _ m hm => not_not.mp fun hm' => hhome ⟨m, hm, hm'⟩) (by decide)

/-- A pass may count something though every entry says the same about its member as before, or
nothing though some entry does not. -/
def Misleads (w : Watch) (l : Ledger) : Prop :=
  ∃ (s : PassSummary) (t : List (Exchange Unit)) (l' : Ledger),
    Runs Ledger.Later w.pass l t (.ok s) l' ∧
    ¬ ({ s with keptByGossip := 0 } = ({} : PassSummary) ↔
      ∀ k, (l'.registry.find? k).map Entry.outline = (l.registry.find? k).map Entry.outline)

/-- **Where summaries mislead.** A pass may count moves that cancel each other out, so that all
entries are what they were; and it may count nothing though an entry is new. -/
theorem summary_misleads :
    let w : Watch := ⟨⟨⟨1⟩, true⟩, ⟨1⟩, none⟩
    ((couple true).registry.WellFormed ∧ Misleads w (couple true)) ∧
      (couple false).registry.WellFormed ∧ Misleads w (couple false) := by
  intro w
  refine ⟨⟨wellFormed_couple true, ?_⟩, wellFormed_couple false, ?_⟩
  · obtain ⟨t, l', hrun, hsame⟩ := runs_pass_disputing
    exact ⟨_, t, l', hrun, fun hiff =>
      absurd (hiff.mpr fun k => outline_of_unhashed hsame k) (by decide)⟩
  · obtain ⟨t, hrun, -⟩ := exists_runs_steady supplanting (a := w.pass) (l := couple false)
      (r := .ok {}) (by decide +kernel)
    exact ⟨_, t, _, hrun, fun hiff => absurd (hiff.mp rfl (.identifier "x")) (by decide +kernel)⟩

end Watch

end Roster
