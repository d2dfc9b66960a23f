import Roster.Proofs.Tracking.Connecting
import Roster.Proofs.Watch.Verdict

/-!
# Passes while a cluster is tracked

Once all members of the cluster are registered, a pass makes those active that are up, and all
others inactive, whoever was active before.

* `Registry.Shows`: which members of a cluster are active.
* `Tracks.keys_retired`: those become inactive that were active and are not up.
* `Tracks.key_mem_again_iff`: those are asked again that were not active.
* `Tracks.answered_again`, `Tracks.keys_answered`: of those, the ones that are up answer.
* `tracks_pass`: who is active after a pass, and what the pass tells.
-/

namespace Roster

open Activity Discovery Registry Watch

/-- All members of a cluster are registered, and some of them are active. -/
def Registry.Shows (M : Cluster) (active : Finset String) (reg : Registry) : Prop :=
  ∀ i, reg.isActive? (.identifier i) =
    if i ∈ M.identifiers then some (decide (i ∈ active)) else none

/-- A registry that shows the cluster has an entry for each of its members. -/
lemma Registry.Shows.contains {M : Cluster} {active : Finset String} {reg : Registry}
    (h : reg.Shows M active) {i : String} (hi : i ∈ M.identifiers) :
    reg.contains (.identifier i) = true := by
  cases hc : reg.contains (.identifier i) with
  | true => rfl
  | false =>
      have hnone := h i
      rw [isActive?_eq_none_iff.mpr hc, if_pos hi] at hnone
      exact absurd hnone (by simp)

/-- The keys of some identifiers. -/
def keysOf (ids : Finset String) : Finset Key :=
  ids.map ⟨Key.identifier, fun _ _ => Key.identifier.inj⟩

lemma mem_keysOf_iff {ids : Finset String} {k : Key} :
    k ∈ keysOf ids ↔ ∃ i ∈ ids, k = .identifier i := by
  rw [keysOf, Finset.mem_map]
  exact ⟨fun ⟨i, hi, hk⟩ => ⟨i, hi, hk.symm⟩, fun ⟨i, hi, hk⟩ => ⟨i, hi, hk.symm⟩⟩

namespace Tracks

variable {τ : Type} {M : Cluster} {seeds : List Address} {up active : Finset String}
  {l l₁ l₂ l₃ : Ledger} {reg : Registry} {answers : List (Except Failure TopologyView)}
  {w : Watch} {gossips : List (Exchange τ)} {kept : List String}

/-- What a registry shows of the cluster is all that it knows of members with identifiers. -/
lemma shows_iff (h : Tracks M seeds reg)
    (hfull : ∀ i ∈ M.identifiers, reg.contains (.identifier i) = true) :
    reg.Shows M active ↔
      ∀ i ∈ M.identifiers, (reg.isActive? (.identifier i) = some true ↔ i ∈ active) := by
  refine ⟨fun hshows i hi => by simp [hshows i, hi], fun hactive i => ?_⟩
  cases hf : reg.find? (.identifier i) with
  | none =>
      have hi : i ∉ M.identifiers := by
        intro hi
        rw [find?_eq_none_iff, hfull i hi] at hf
        exact absurd hf (by simp)
      simp [isActive?, hf, hi]
  | some e =>
      have hi : i ∈ M.identifiers := Cluster.mem_identifiers.mpr ⟨_, h.member hf⟩
      have hactive := hactive i hi
      rw [isActive?, hf] at hactive ⊢
      rw [if_pos hi, Option.map_some]
      congr 1
      rw [Bool.eq_iff_iff, decide_eq_true_iff, ← hactive]
      simp

/-! ### The refresh -/

/-- A refresh changes nobody's status. -/
lemma shows_refresh (hshows : l.registry.Shows M active)
    (hasked : ∀ x ∈ asked l.registry answers, M.Answers up x.1.address x.2)
    (hl₁ : l₁.registry = l.registry) :
    (takeRefresh true (asked l.registry answers) l₁).2.registry.Shows M active := by
  intro i
  have hseen : i ∈ (takeRefresh true (asked l.registry answers) l₁).1.seen → i ∈ M.identifiers := by
    intro hi
    obtain ⟨-, v, ⟨r, hr⟩, hc⟩ := mem_seen_takeRefresh.mp hi
    exact (Cluster.contains_iff_mem_identifiers (hasked _ hr).2.2).mp hc
  rw [isActive?_takeRefresh, hl₁, hshows i]
  split_ifs with hi hs hs
  · rfl
  · rfl
  · exact absurd (hseen hs) hi
  · rfl

section Asked

variable (h : Tracks M seeds l.registry) (hshows : l.registry.Shows M active)
  (hlength : answers.length = l.registry.active.length)
  (hasked : ∀ x ∈ asked l.registry answers, M.Answers up x.1.address x.2)

include h hshows hlength hasked

/-- An active member is spared exactly if it is up. -/
lemma spared_iff_up (hgossip : w.gossipMaxAge = none) {i : String} (hi : i ∈ M.identifiers)
    (hactive : i ∈ active) : Spared w (asked l.registry answers) gossips i ↔ i ∈ up := by
  constructor
  · rintro (⟨r, v, hr, -, hv, -⟩ | ⟨-, -, -, -, -, maxAge, -, -, hage, -⟩)
    · rw [← hv]
      exact (hasked _ hr).1
    · rw [hgossip] at hage
      exact absurd hage (by simp)
  · intro hup
    have hstatus : l.registry.isActive? (.identifier i) = some true := by
      simp [hshows i, hi, hactive]
    obtain ⟨x, hx, hxi⟩ := (active_iff_asked h.wellFormed hlength).mp hstatus
    obtain ⟨v, hv, hvi, hmembers⟩ :=
      answer_of_up (hasked x hx) hup (h.fits (List.of_mem_zip hx).1 i hxi).1
    have hx' : (x.1, .ok v) ∈ asked l.registry answers := by rwa [← hv]
    refine Or.inl ⟨x.1, v, hx', hxi, hvi, Or.inr (Or.inr ⟨v, ⟨x.1, hx'⟩, ?_⟩)⟩
    exact (Cluster.contains_iff_mem_identifiers hmembers).mpr hi

/-- Those members become inactive that were active and are not up. -/
lemma keys_retired (hactive : active ⊆ M.identifiers) (hgossip : w.gossipMaxAge = none)
    (hkept : ∀ id, id ∈ kept ↔ id ∈ timedOut (takeRefresh w.discovery.merges
      (asked l.registry answers) l₁).1 ∧ Vouched w gossips id) :
    ((retired w.discovery.merges (takeRefresh w.discovery.merges
        (asked l.registry answers) l₁).1 kept).map Record.key).toFinset =
      keysOf (active \ up) := by
  have hkeys := keys_asked_nodup h.wellFormed hlength
  have hmember : ∀ {i}, l.registry.isActive? (.identifier i) = some true ↔ i ∈ active := by
    intro i
    rw [hshows i]
    by_cases hi : i ∈ M.identifiers
    · simp [hi]
    · have hnot : i ∉ active := fun hmem => hi (hactive hmem)
      simp [hi, hnot]
  ext k
  rw [List.mem_toFinset, mem_keysOf_iff]
  constructor
  · intro hk
    obtain ⟨r, hr, rfl⟩ := List.mem_map.mp hk
    obtain ⟨x, hx, rfl⟩ := asked_of_retired hr
    obtain ⟨i, hi⟩ := h.identifier_of_active (List.of_mem_zip hx).1
    have hmem := hmember.mp ((active_iff_asked h.wellFormed hlength).mpr ⟨x, hx, hi⟩)
    rw [Record.key_eq_identifier_iff.mpr hi] at hk ⊢
    refine ⟨i, Finset.mem_sdiff.mpr ⟨hmem, fun hup => ?_⟩, rfl⟩
    exact (identifier_mem_retired_iff hkeys hkept hx hi).mp hk
      ((h.spared_iff_up hshows hlength hasked hgossip (hactive hmem) hmem).mpr hup)
  · rintro ⟨i, hi, rfl⟩
    obtain ⟨hmem, hdown⟩ := Finset.mem_sdiff.mp hi
    obtain ⟨x, hx, hxi⟩ := (active_iff_asked h.wellFormed hlength).mp (hmember.mpr hmem)
    refine (identifier_mem_retired_iff hkeys hkept hx hxi).mpr fun hspared => hdown ?_
    exact (h.spared_iff_up hshows hlength hasked hgossip (hactive hmem) hmem).mp hspared

end Asked

/-! ### The stretch in which members become inactive -/

/-- If those are made inactive that were active and are not up, then those stay active that are. -/
lemma of_retire {merges : Bool} {report : RefreshReport} (before : List Key)
    (h : Tracks M seeds l.registry) (hshows : l.registry.Shows M active)
    (hactive : active ⊆ M.identifiers)
    (hretired : ((retired merges report kept).map Record.key).toFinset = keysOf (active \ up)) :
    (∃ again, (retire merges report kept before l).1 = .ok ((active \ up).card, again)) ∧
      Tracks M seeds (retire merges report kept before l).2.registry ∧
      (retire merges report kept before l).2.registry.Shows M (active ∩ up) := by
  have hmem : ∀ k, k ∈ (retired merges report kept).map Record.key ↔
      ∃ i ∈ active \ up, k = .identifier i := by
    intro k
    rw [← mem_keysOf_iff, ← hretired, List.mem_toFinset]
  have hcontains : ∀ r ∈ retired merges report kept, l.registry.contains r.key = true := by
    intro r hr
    obtain ⟨i, hi, hk⟩ := (hmem r.key).mp (List.mem_map_of_mem hr)
    rw [hk]
    exact hshows.contains (hactive (Finset.mem_sdiff.mp hi).1)
  have hcount : ((retired merges report kept).map Record.key).toFinset.filter
      (fun k => l.registry.isActive? k = some (!false)) = keysOf (active \ up) := by
    rw [hretired, Finset.filter_eq_self]
    intro k hk
    obtain ⟨i, hi, rfl⟩ := mem_keysOf_iff.mp hk
    obtain ⟨hi, -⟩ := Finset.mem_sdiff.mp hi
    simp [hshows i, hi, hactive hi]
  have hok := fst_retire merges report kept before l
  rw [(setStatus_of_contains hcontains).1, hcount, keysOf, Finset.card_map] at hok
  refine ⟨⟨_, hok⟩, ?_, fun i => ?_⟩
  · rw [registry_retire]
    exact h.deactivate _
  · rw [registry_retire, isActive?_setStatus hcontains, hshows i]
    split_ifs with hk hi hi
    · obtain ⟨j, hj, hij⟩ := (hmem _).mp hk
      obtain rfl : i = j := by simpa using hij
      simp [(Finset.mem_sdiff.mp hj).2]
    · obtain ⟨j, hj, hij⟩ := (hmem _).mp hk
      obtain rfl : i = j := by simpa using hij
      exact absurd (hactive (Finset.mem_sdiff.mp hj).1) hi
    · have hiff : i ∈ active ↔ i ∈ active ∩ up := by
        rw [Finset.mem_inter]
        refine ⟨fun hia => ⟨hia, ?_⟩, fun hia => hia.1⟩
        by_contra hdown
        exact hk ((hmem _).mpr ⟨i, Finset.mem_sdiff.mpr ⟨hia, hdown⟩, rfl⟩)
      rw [decide_eq_decide.mpr hiff]
    · rfl

/-! ### The members that are asked again -/

/-- Of the members of the cluster, those are asked again that were not active. -/
lemma key_mem_again_iff {merges : Bool} {xs : List (Record × Except Failure TopologyView)}
    {again : List Record} {i : String} (h : Tracks M seeds l.registry)
    (h₃ : Tracks M seeds l₃.registry) (hshows : l.registry.Shows M active)
    (hshows₃ : l₃.registry.Shows M (active ∩ up))
    (hasked : ∀ x ∈ xs, M.Answers up x.1.address x.2)
    (hagain : again = (l₃.registry.inactive.filter fun r =>
      (l.registry.inactive.map Record.key).contains r.key).filter
        (isListed merges (takeRefresh merges xs l₁).1)) (hi : i ∈ M.identifiers) :
    .identifier i ∈ again.map Record.key ↔ i ∉ active := by
  have hbefore : .identifier i ∈ l.registry.inactive.map Record.key ↔ i ∉ active := by
    have hiff : .identifier i ∈ l.registry.inactive.map Record.key ↔
        l.registry.isActive? (.identifier i) = some false := by
      rw [h.wellFormed.isActive?_identifier_iff, List.mem_map]
      simp only [Record.key_eq_identifier_iff]
      rfl
    rw [hiff, hshows i]
    simp [hi]
  have hlisted : ∀ r : Record, r.identifier = some i →
      isListed merges (takeRefresh merges xs l₁).1 r = true := by
    intro r hr
    rw [isListed_takeRefresh_iff]
    intro j hj
    obtain rfl : i = j := Option.some.inj (hr.symm.trans hj)
    by_cases hviewed : ∃ v, Viewed xs v
    · obtain ⟨v, r', hr'⟩ := hviewed
      exact Or.inr (Or.inr ⟨v, ⟨r', hr'⟩,
        (Cluster.contains_iff_mem_identifiers (hasked _ hr').2.2).mpr hi⟩)
    · exact Or.inr (Or.inl fun v hv => absurd ⟨v, hv⟩ hviewed)
  rw [hagain]
  constructor
  · intro hmem
    obtain ⟨r, hr, hk⟩ := List.mem_map.mp hmem
    have hkey := (List.mem_filter.mp (List.mem_of_mem_filter hr)).2
    rw [List.contains_iff_mem, hk] at hkey
    exact hbefore.mp hkey
  · intro hout
    have hinactive : l₃.registry.isActive? (.identifier i) = some false := by
      simp [hshows₃ i, hi, hout]
    obtain ⟨r, hr, hri⟩ := h₃.wellFormed.isActive?_identifier_iff.mp hinactive
    have hk : r.key = .identifier i := Record.key_eq_identifier_iff.mpr hri
    refine List.mem_map.mpr ⟨r, List.mem_filter.mpr ⟨List.mem_filter.mpr ⟨hr, ?_⟩, ?_⟩, hk⟩
    · rw [List.contains_iff_mem, hk]
      exact hbefore.mpr hout
    · exact hlisted r hri

section Again

variable {again : List Record} (h : Tracks M seeds reg) (hup : up ⊆ M.identifiers)
  (hread : ∀ r ∈ again, r ∈ reg.inactive)
  (hagain : ∀ i ∈ M.identifiers, .identifier i ∈ again.map Record.key ↔ i ∉ active)
  (hlength : answers.length = again.length)
  (hasked : ∀ x ∈ again.zip answers, M.Answers up x.1.address x.2)

include h hup hread hagain hlength hasked

/-- Of those that were not active, the ones that are up answer. -/
lemma answered_again {i : String} (hi : i ∈ up \ active) :
    ∃ r v, (r, .ok v) ∈ again.zip answers ∧ r.identifier = some i ∧ v.identifier = i := by
  obtain ⟨hiup, hout⟩ := Finset.mem_sdiff.mp hi
  obtain ⟨r, hr, hk⟩ := List.mem_map.mp ((hagain i (hup hiup)).mpr hout)
  have hri := Record.key_eq_identifier_iff.mp hk
  rw [← List.map_fst_zip hlength.ge] at hr
  obtain ⟨x, hx, rfl⟩ := List.mem_map.mp hr
  have hfit := h.fits (hread x.1 (List.of_mem_zip hx).1) i hri
  obtain ⟨v, hv, hvi, -⟩ := answer_of_up (hasked x hx) hiup hfit.1
  exact ⟨x.1, v, by rwa [← hv], hri, hvi⟩

/-- Nobody else answers: who answers was not active, and is up. -/
lemma keys_answered (hfull : ∀ i ∈ M.identifiers, reg.contains (.identifier i) = true) :
    (((again.zip answers).filter fun x => x.2.isOk).map fun x => x.1.key).toFinset =
      keysOf (up \ active) := by
  ext k
  rw [mem_keysOf_iff, List.mem_toFinset, List.mem_map]
  constructor
  · rintro ⟨⟨r, answer⟩, hx, rfl⟩
    obtain ⟨hx, hok⟩ := List.mem_filter.mp hx
    cases answer with
    | error f => exact absurd hok (by simp [Except.isOk, Except.toBool])
    | ok v =>
        obtain ⟨hv, hmember, -⟩ := hasked _ hx
        have hr : r ∈ again := (List.of_mem_zip hx).1
        cases hid : r.identifier with
        | none =>
            -- A placeholder at the address of a member would stand for one that is missing.
            obtain ⟨e, he, -⟩ := h.wellFormed.mem_withStatus_iff.mp (hread r hr)
            rw [Record.key_eq_address_iff.mpr ⟨hid, rfl⟩] at he
            have hnone := (h.placeholder he).2.2.2 _ hmember
            rw [find?_eq_none_iff, hfull _ (hup hv)] at hnone
            exact absurd hnone (by simp)
        | some i =>
            obtain rfl : i = v.identifier :=
              M.identifier_unique (h.fits (hread r hr) i hid).1 hmember
            have hk : r.key = .identifier v.identifier := Record.key_eq_identifier_iff.mpr hid
            refine ⟨v.identifier, Finset.mem_sdiff.mpr ⟨hv, ?_⟩, hk⟩
            exact (hagain _ (hup hv)).mp (List.mem_map.mpr ⟨r, hr, hk⟩)
  · rintro ⟨i, hi, rfl⟩
    obtain ⟨r, v, hr, hri, -⟩ := h.answered_again hup hread hagain hlength hasked hi
    exact ⟨_, List.mem_filter.mpr ⟨hr, rfl⟩, Record.key_eq_identifier_iff.mpr hri⟩

/-- How many members answer when they are asked again. -/
lemma length_answered (hfull : ∀ i ∈ M.identifiers, reg.contains (.identifier i) = true)
    (hnodup : (again.map Record.key).Nodup) :
    ((again.zip answers).filter fun x => x.2.isOk).length = (up \ active).card := by
  have hdistinct : (((again.zip answers).filter fun x => x.2.isOk).map fun x => x.1.key).Nodup := by
    refine (List.filter_sublist.map _).nodup ?_
    rw [← List.map_fst_zip hlength.ge, List.map_map] at hnodup
    exact hnodup
  rw [← List.length_map, ← List.toFinset_card_of_nodup hdistinct,
    h.keys_answered hup hread hagain hlength hasked hfull, keysOf, Finset.card_map]

end Again

/-- If those are asked again that were not active, then those are active afterwards that are up. -/
lemma shows_takeProbes {again : List Record} (h : Tracks M seeds l.registry)
    (hshows : l.registry.Shows M (active ∩ up)) (hup : up ⊆ M.identifiers)
    (hread : ∀ r ∈ again, r ∈ l.registry.inactive) (hnodup : (again.map Record.key).Nodup)
    (hagain : ∀ i ∈ M.identifiers, .identifier i ∈ again.map Record.key ↔ i ∉ active)
    (hlength : answers.length = again.length)
    (hasked : ∀ x ∈ again.zip answers, M.Answers up x.1.address x.2) :
    (∃ report, (takeProbes (again.zip answers) {} l).1 = .ok report ∧
      report.recovered.length = (up \ active).card) ∧
      Tracks M seeds (takeProbes (again.zip answers) {} l).2.registry ∧
      (takeProbes (again.zip answers) {} l).2.registry.Shows M up := by
  have hcount := h.length_answered hup hread hagain hlength hasked
    (fun i hi => hshows.contains hi) hnodup
  obtain ⟨htracks, report, hreport, hrecovered⟩ := h.of_takeProbes
    (fun x hx => h.fits (hread x.1 (List.of_mem_zip hx).1)) (Cluster.placed_of_answers hasked) {}
  have hfull : ∀ i ∈ M.identifiers,
      (takeProbes (again.zip answers) {} l).2.registry.contains (.identifier i) = true := by
    intro i hi
    exact (takeProbes_leadsTo h.wellFormed _ _).contains_identifier h.wellFormed
      (hshows.contains hi)
  refine ⟨⟨report, hreport, ?_⟩, htracks, (htracks.shows_iff hfull).mpr fun i hi => ?_⟩
  · rw [hrecovered, hcount]
    simp
  · rw [active_takeProbes_iff h.wellFormed hreport, hshows i, if_pos hi, Option.some.injEq,
      decide_eq_true_iff, Finset.mem_inter]
    constructor
    · rintro (⟨-, hiup⟩ | ⟨r, v, hr, rfl, -⟩)
      · exact hiup
      · exact (hasked _ hr).1
    · intro hiup
      by_cases hmem : i ∈ active
      · exact Or.inl ⟨hmem, hiup⟩
      · obtain ⟨r, v, hr, hri, hvi⟩ := h.answered_again hup hread hagain hlength hasked
          (Finset.mem_sdiff.mpr ⟨hiup, hmem⟩)
        exact Or.inr ⟨r, v, hr, hvi, Or.inr (Or.inl hri)⟩

end Tracks

/-! ### The pass -/

variable {τ : Type} {M : Cluster} {seeds : List Address} {up active : Finset String} {w : Watch}
  {l l' : Ledger} {t : List (Exchange τ)} {r : Except Failure PassSummary}

/-- After a pass those members of the cluster are active that are up, and the pass tells how many
became inactive and active by it. -/
lemma tracks_pass (hmerges : w.discovery.merges = true) (hgossip : w.gossipMaxAge = none)
    (h : Tracks M seeds l.registry) (hshows : l.registry.Shows M active)
    (hactive : active ⊆ M.identifiers) (hup : up ⊆ M.identifiers)
    (hrun : Runs Ledger.Later w.pass l t r l') (hconforms : ∀ x ∈ t, M.Conforms up x) :
    r = .ok { deactivated := (active \ up).card, reactivated := (up \ active).card } ∧
      Tracks M seeds l'.registry ∧ l'.registry.Shows M up := by
  obtain ⟨answers, l₁, gossips, kept, l₂, t', hlength, hwait, rfl, hvouchers, hend⟩ :=
    runs_pass_iff.mp hrun
  obtain ⟨hl₂, -, hkept⟩ := runs_vouchers hvouchers
  have hasked : ∀ x ∈ asked l.registry answers, M.Answers up x.1.address x.2 :=
    answers_of_forall₂ (hconforms _ List.mem_cons_self)
  have hlisted := Cluster.listed_of_answers hasked
  have hnone : kept = [] := by
    refine List.eq_nil_iff_forall_not_mem.mpr fun id hid => ?_
    obtain ⟨-, maxAge, -, -, hage, -⟩ := (hkept id).mp hid
    rw [hgossip] at hage
    exact absurd hage (by simp)
  have hretired := h.keys_retired hshows hlength hasked hactive hgossip hkept
  rw [hmerges] at hl₂ hretired hend
  have h₁ : Tracks M seeds l₁.registry := hwait.registry_eq ▸ h
  have h₂ : Tracks M seeds l₂.registry := hl₂ ▸ Tracks.of_takeRefresh h₁ hlisted
  have hshows₂ : l₂.registry.Shows M active :=
    hl₂ ▸ Tracks.shows_refresh hshows hasked hwait.registry_eq
  obtain ⟨hadded, hrelocated⟩ := h₁.counts_takeRefresh hlisted true fun v hv m hm => by
    rw [hwait.registry_eq]
    exact hshows.contains (Cluster.mem_identifiers.mpr ⟨m.address, hlisted v hv m hm⟩)
  obtain ⟨⟨again, hok⟩, h₃, hshows₃⟩ :=
    h₂.of_retire (l.registry.inactive.map Record.key) hshows₂ hactive hretired
  cases hret : retire true (takeRefresh true (asked l.registry answers) l₁).1 kept
      (l.registry.inactive.map Record.key) l₂ with
  | mk result l₃ =>
      rw [hret] at hend hok h₃ hshows₃
      obtain rfl : result = .ok ((active \ up).card, again) := hok
      obtain ⟨answers', l₄, hlength', hwait', rfl, rfl, rfl⟩ := hend
      have hagain := (retire_ok hret).2.2.2
      have hread : ∀ r ∈ again, r ∈ l₃.registry.inactive := by
        intro r hr
        rw [hagain] at hr
        exact List.mem_of_mem_filter (List.mem_of_mem_filter hr)
      have hnodup : (again.map Record.key).Nodup := by
        rw [hagain]
        exact ((List.filter_sublist.trans List.filter_sublist).map _).nodup
          (h₃.wellFormed.keys_withStatus_nodup false)
      have hconform : M.Conforms up
          (.probed l₃.registry (again.map Record.address) answers' : Exchange τ) :=
        hconforms _ (by simp)
      have hasked' : ∀ x ∈ again.zip answers', M.Answers up x.1.address x.2 :=
        answers_of_forall₂ hconform
      have h₄ : Tracks M seeds l₄.registry := hwait'.registry_eq ▸ h₃
      obtain ⟨⟨report, hreport, hrecovered⟩, h₅, hshows₅⟩ := h₄.shows_takeProbes
        (hwait'.registry_eq ▸ hshows₃) hup (hwait'.registry_eq ▸ hread) hnodup
        (fun i hi => h.key_mem_again_iff h₃ hshows hshows₃ hasked hagain hi) hlength' hasked'
      refine ⟨?_, h₅, hshows₅⟩
      rw [hreport, Except.map, summary, hadded, hrelocated, hrecovered, hnone]
      simp

end Roster
