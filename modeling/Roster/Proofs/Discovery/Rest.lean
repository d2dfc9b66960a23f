import Roster.Proofs.Discovery.Counting
import Roster.Proofs.Discovery.Starting

/-!
# Refreshes at rest

If what a node answers depends on nothing but the address at which it is asked, then a refresh that
counts nobody as new or as moved has come to rest: it has changed nothing but hashes, and the next
refreshes change nothing at all. The views need not be complete, nor agree with each other, nor come
from the members that were asked.

* `updateHashes_updateHashes`: hashes that are noted a second time in the same order change nothing.
* `registry_takeRefresh_of_atHome`: if all listed members are at home, hashes are noted, and that is
  all.
* `unhashed`: what is asked and answered, but for the hashes of the members that are asked; the
  reports depend on nothing else.
* `AtRest`: a registry that a refresh leaves as it is.
* `refreshes_at_rest`: what comes after a refresh that counts nothing.
-/

namespace Roster

namespace Registry

variable {reg : Registry}

/-! ### Hashes that are noted one after the other -/

/-- Notes hashes under identifiers, the first one first. -/
def updateHashes (ws : List (String × String)) (reg : Registry) : Registry :=
  ws.foldl (fun reg w => reg.updateHash w.1 w.2) reg

/-- The hash that is noted last under a key. -/
def lastHash? (ws : List (String × String)) (k : Key) : Option String :=
  ((ws.filter fun w => Key.identifier w.1 == k).getLast?).map Prod.snd

lemma lastHash?_concat (ws : List (String × String)) (w : String × String) (k : Key) :
    lastHash? (ws ++ [w]) k = if k = .identifier w.1 then some w.2 else lastHash? ws k := by
  by_cases hk : k = .identifier w.1
  · simp [lastHash?, hk]
  · simp [lastHash?, hk, Ne.symm hk]

/-- An entry with a hash. -/
def Entry.hashed (hash : Option String) (e : Entry) : Entry :=
  { e with record := { e.record with topologyHash := hash } }

/-- Each entry has the hash that was noted last under its key. -/
lemma entries_updateHashes (ws : List (String × String)) (reg : Registry) :
    (reg.updateHashes ws).entries = reg.entries.map fun e =>
      Entry.hashed ((lastHash? ws e.key).or e.record.topologyHash) e := by
  induction ws using List.reverseRecOn with
  | nil => exact (List.map_id _).symm
  | append_singleton ws w ih =>
      rw [updateHashes, List.foldl_append, List.foldl_cons, List.foldl_nil, updateHash, modify,
        ← updateHashes, ih, List.map_map]
      refine List.map_congr_left fun e _ => ?_
      rw [Function.comp_apply, lastHash?_concat]
      by_cases hk : e.key = .identifier w.1 <;> simp [Entry.hashed, hk]

lemma unhashed_updateHashes (ws : List (String × String)) (reg : Registry) :
    (reg.updateHashes ws).entries.map Entry.unhashed = reg.entries.map Entry.unhashed := by
  rw [entries_updateHashes, List.map_map]
  rfl

lemma updateHashes_append (ws ws' : List (String × String)) (reg : Registry) :
    reg.updateHashes (ws ++ ws') = (reg.updateHashes ws).updateHashes ws' := List.foldl_append

/-- Under each key the last hash counts, whatever was noted before. -/
lemma updateHashes_updateHashes (ws : List (String × String)) (reg : Registry) :
    (reg.updateHashes ws).updateHashes ws = reg.updateHashes ws := by
  have hentries : ((reg.updateHashes ws).updateHashes ws).entries =
      (reg.updateHashes ws).entries := by
    rw [entries_updateHashes ws (reg.updateHashes ws), entries_updateHashes, List.map_map]
    refine List.map_congr_left fun e _ => ?_
    rw [Function.comp_apply]
    cases hlast : lastHash? ws e.key <;> simp [Entry.hashed, hlast]
  exact congrArg Registry.mk hentries

end Registry

namespace Discovery

open Activity Registry

variable {τ : Type} {d : Discovery} {f : Address → Except Failure TopologyView} {merges : Bool}
  {l l' : Ledger} {reg reg' : Registry} {xs : List (Record × Except Failure TopologyView)}

/-! ### A refresh without news -/

/-- The hash that is noted if a member answered as itself. -/
def acknowledgement? : Record × Except Failure TopologyView → Option (String × String)
  | (r, .ok v) =>
    if r.identifier = some v.identifier then some (v.identifier, v.topologyHash) else none
  | (_, .error _) => none

/-- The hashes that are noted. -/
def acknowledgements (xs : List (Record × Except Failure TopologyView)) : List (String × String) :=
  xs.filterMap acknowledgement?

lemma registry_mergeListings_of_atHome (hash : String) {ms : List Listing}
    {acc : RefreshReport × Ledger} (h : ∀ m ∈ ms, AtHome acc.2.registry m) :
    (ms.foldl (mergeListing hash) acc).2.registry = acc.2.registry := by
  induction ms generalizing acc with
  | nil => rfl
  | cons m ms ih =>
      obtain ⟨report, l⟩ := acc
      obtain ⟨hm, hms⟩ := List.forall_mem_cons.mp h
      have hsame : (l.mergeMember m.identifier m.address (some hash)).2.registry = l.registry :=
        congrArg Prod.snd (hm.mergeMember l.now (some hash))
      rw [List.foldl_cons, mergeListing_eq, ih (by rwa [hsame]), hsame]

/-- One answer whose listed members are at home: its hash is noted, if it has one to note. -/
lemma registry_takeRefreshOne_of_atHome (x : Record × Except Failure TopologyView)
    {acc : RefreshReport × Ledger}
    (h : merges = true → ∀ m ∈ listings [x], AtHome acc.2.registry m) :
    (takeRefreshOne merges acc x).2.registry =
      acc.2.registry.updateHashes (acknowledgements [x]) := by
  obtain ⟨r, answer⟩ := x
  cases answer with
  | error f => rfl
  | ok v =>
      have hnoted : (acknowledge r v acc.2).2.registry =
          acc.2.registry.updateHashes (acknowledgements [(r, .ok v)]) := by
        rw [registry_acknowledge_eq]
        by_cases hr : r.identifier = some v.identifier <;>
          simp [acknowledgements, acknowledgement?, updateHashes, hr]
      rw [snd_takeRefreshOne_ok, ← hnoted]
      cases merges with
      | false => rfl
      | true =>
          refine registry_mergeListings_of_atHome v.topologyHash fun m hm => ?_
          rw [hnoted, atHome_iff_of_unhashed (unhashed_updateHashes _ _)]
          exact h rfl m (List.mem_append_left _ hm)

/-- If all listed members are at home, what a refresh does is to note hashes. -/
lemma registry_takeRefresh_of_atHome
    (h : merges = true → ∀ m ∈ listings xs, AtHome l.registry m) :
    (takeRefresh merges xs l).2.registry = l.registry.updateHashes (acknowledgements xs) := by
  have hfold : ∀ acc : RefreshReport × Ledger,
      (merges = true → ∀ m ∈ listings xs, AtHome acc.2.registry m) →
      (xs.foldl (takeRefreshOne merges) acc).2.registry =
        acc.2.registry.updateHashes (acknowledgements xs) := by
    clear h
    induction xs with
    | nil => exact fun _ _ => rfl
    | cons x xs ih =>
        intro acc hhome
        have hlistings : listings (x :: xs) = listings [x] ++ listings xs := by simp [listings]
        have hnotes : acknowledgements (x :: xs) = acknowledgements [x] ++ acknowledgements xs :=
          List.filterMap_append (l := [x])
        rw [hlistings] at hhome
        have hone := registry_takeRefreshOne_of_atHome x fun hmerges m hm =>
          hhome hmerges m (List.mem_append_left _ hm)
        rw [List.foldl_cons, ih, hone, hnotes, updateHashes_append]
        -- Hashes that are noted leave everybody at home.
        intro hmerges m hm
        rw [hone, atHome_iff_of_unhashed (unhashed_updateHashes _ _)]
        exact hhome hmerges m (List.mem_append_right _ hm)
  exact hfold ({}, l) h

/-! ### What reports depend on -/

/-- What is asked and answered, without the hash of the member that is asked. -/
def unhashed (x : Record × Except Failure TopologyView) : Record × Except Failure TopologyView :=
  ({ x.1 with topologyHash := none }, x.2)

@[simp]
lemma fault?_unhashed (x : Record × Except Failure TopologyView) :
    fault? (unhashed x) = fault? x := by
  obtain ⟨r, answer⟩ := x
  cases answer <;> rfl

lemma listings_map_unhashed : listings (xs.map unhashed) = listings xs := by
  simp [listings, unhashed, List.flatMap_map]

lemma acknowledgements_map_unhashed :
    acknowledgements (xs.map unhashed) = acknowledgements xs := by
  rw [acknowledgements, List.filterMap_map]
  refine List.filterMap_congr fun x _ => ?_
  obtain ⟨r, answer⟩ := x
  cases answer <;> rfl

/-- Which members are reached and which fail does not depend on their hashes. -/
lemma keys_map_unhashed (p : Option Failure → Bool) :
    (((xs.map unhashed).filter fun x => p (fault? x)).map Prod.fst).map Record.key =
      ((xs.filter fun x => p (fault? x)).map Prod.fst).map Record.key := by
  simp only [List.filter_map, List.map_map, Function.comp_def, fault?_unhashed]
  rfl

/-- A report that counts nobody, and names the same members as an earlier one. -/
structure Repeats (report report' : RefreshReport) : Prop where
  added : report'.added = 0
  relocated : report'.relocated = 0
  reached : report'.reached.map Record.key = report.reached.map Record.key
  failed : (report'.failed.map Prod.fst).map Record.key =
    (report.failed.map Prod.fst).map Record.key
  seen : ∀ i, i ∈ report'.seen ↔ i ∈ report.seen

lemma mem_seen_takeRefresh_iff_listings {i : String} :
    i ∈ (takeRefresh merges xs l).1.seen ↔
      merges = true ∧ ∃ m ∈ listings xs, m.identifier = i := by
  rw [mem_seen_takeRefresh, exists_mem_listings_iff]

/-- The same answers are reported alike, whatever the hashes of those who are asked; nobody is
counted if all listed members are at home. -/
lemma repeats_takeRefresh {xs' : List (Record × Except Failure TopologyView)}
    (hxs : xs'.map unhashed = xs.map unhashed)
    (hhome : merges = true → ∀ m ∈ listings xs', AtHome l'.registry m) :
    Repeats (takeRefresh merges xs l).1 (takeRefresh merges xs' l').1 := by
  have hlistings : listings xs' = listings xs := by
    rw [← listings_map_unhashed, hxs, listings_map_unhashed]
  obtain ⟨hadded, hrelocated⟩ := quiet_takeRefresh_iff.mpr hhome
  refine ⟨hadded, hrelocated, ?_, ?_, fun i => ?_⟩
  · rw [reached_takeRefresh, reached_takeRefresh, ← keys_map_unhashed Option.isNone, hxs,
      keys_map_unhashed Option.isNone]
  · rw [map_fst_failed_takeRefresh, map_fst_failed_takeRefresh,
      ← keys_map_unhashed fun f => !f.isNone, hxs, keys_map_unhashed fun f => !f.isNone]
  · rw [mem_seen_takeRefresh_iff_listings, mem_seen_takeRefresh_iff_listings, hlistings]

/-! ### Answers that depend on nothing but the address -/

/-- The members that are asked by a refresh, with what is answered at their addresses. -/
def askedBy (f : Address → Except Failure TopologyView) (reg : Registry) :
    List (Record × Except Failure TopologyView) :=
  reg.active.map fun r => (r, f r.address)

/-- Hashes do not matter to who is asked and what is answered. -/
lemma askedBy_of_unhashed
    (h : reg'.entries.map Entry.unhashed = reg.entries.map Entry.unhashed) :
    (askedBy f reg').map unhashed = (askedBy f reg).map unhashed := by
  have hentries : ∀ reg : Registry, (askedBy f reg).map unhashed =
      ((reg.entries.map Entry.unhashed).filter fun e => e.active == true).map fun e =>
        (e.record, f e.record.address) := by
    intro reg
    simp only [askedBy, active, withStatus, List.filter_map, List.map_map]
    rfl
  rw [hentries, hentries, h]

/-- The one round of a refresh. -/
lemma takeRefresh_of_runs {t : List (Exchange τ)} {report : RefreshReport}
    (hrun : Runs Ledger.Later (d.refresh : Activity τ RefreshReport) l t report l')
    (hanswers : AnsweredBy f t) :
    ∃ l₁, l₁.registry = l.registry ∧
      report = (takeRefresh d.merges (askedBy f l₁.registry) l₁).1 ∧
      l' = (takeRefresh d.merges (askedBy f l₁.registry) l₁).2 := by
  obtain ⟨answers, l₁, -, hwait, rfl, hreport, hl'⟩ := runs_refresh_iff.mp hrun
  obtain rfl := hanswers _ _ _ List.mem_cons_self
  have hasked : asked l.registry ((l.registry.active.map Record.address).map f) =
      askedBy f l₁.registry := by
    rw [asked, List.map_map, askedBy, hwait.registry_eq, List.zip_map_right, List.zip_eq_zipWith,
      List.zipWith_self, List.map_map]
    rfl
  rw [hasked] at hreport hl'
  exact ⟨l₁, hwait.registry_eq, hreport, hl'⟩

/-! ### Rest -/

/-- A registry at rest: all listed members are at home, and all hashes are noted. -/
structure AtRest (merges : Bool) (f : Address → Except Failure TopologyView) (reg : Registry) :
    Prop where
  home : merges = true → ∀ m ∈ listings (askedBy f reg), AtHome reg m
  noted : reg.updateHashes (acknowledgements (askedBy f reg)) = reg

/-- At rest, a refresh changes nothing. -/
lemma AtRest.registry_takeRefresh (h : AtRest merges f l.registry) :
    (takeRefresh merges (askedBy f l.registry) l).2.registry = l.registry := by
  rw [registry_takeRefresh_of_atHome h.home, h.noted]

/-- If all listed members are at home, a refresh comes to rest. -/
lemma atRest_takeRefresh
    (h : merges = true → ∀ m ∈ listings (askedBy f l.registry), AtHome l.registry m) :
    AtRest merges f (takeRefresh merges (askedBy f l.registry) l).2.registry := by
  have hsame := unhashed_takeRefresh_of_atHome h
  have hasked := askedBy_of_unhashed (f := f) hsame
  refine ⟨fun hmerges m hm => ?_, ?_⟩
  · rw [← listings_map_unhashed, hasked, listings_map_unhashed] at hm
    exact (atHome_iff_of_unhashed hsame m).mpr (h hmerges m hm)
  · rw [← acknowledgements_map_unhashed, hasked, acknowledgements_map_unhashed,
      registry_takeRefresh_of_atHome h, updateHashes_updateHashes]

/-- Refreshes one after the other, with their reports, if what a node answers depends on nothing but
the address. Between them nothing but time passes. -/
inductive Refreshes (τ : Type) (d : Discovery) (f : Address → Except Failure TopologyView) :
    Ledger → List RefreshReport → Ledger → Prop
  | nil (l : Ledger) : Refreshes τ d f l [] l
  | cons {l l₁ l₂ l' report reports} {t : List (Exchange τ)} (hwait : l.Later l₁)
      (hrun : Runs Ledger.Later (d.refresh : Activity τ RefreshReport) l₁ t report l₂)
      (hanswers : AnsweredBy f t) (h : Refreshes τ d f l₂ reports l') :
      Refreshes τ d f l (report :: reports) l'

/-- A refresh can be followed by any number of others. -/
lemma exists_refreshes (τ : Type) (d : Discovery) (f : Address → Except Failure TopologyView)
    (n : ℕ) (l : Ledger) : ∃ reports l', reports.length = n ∧ Refreshes τ d f l reports l' := by
  induction n generalizing l with
  | zero => exact ⟨[], l, rfl, .nil l⟩
  | succ n ih =>
      have hrun : Runs Ledger.Later (d.refresh : Activity τ RefreshReport) l _ _ _ :=
        runs_refresh_iff.mpr ⟨(l.registry.active.map Record.address).map f, l, by simp,
          Ledger.Later.refl l, rfl, rfl, rfl⟩
      obtain ⟨reports, l', hlength, h⟩ := ih (takeRefresh d.merges _ l).2
      refine ⟨_ :: reports, l', by simp [hlength], .cons (Ledger.Later.refl l) hrun ?_ h⟩
      rintro reg as answers hx
      obtain ⟨-, rfl, rfl⟩ := Exchange.probed.inj (List.mem_singleton.mp hx)
      rfl

/-- From rest, all refreshes report the same and change nothing. -/
lemma AtRest.refreshes {reports : List RefreshReport} (h : AtRest d.merges f l.registry)
    (hxs : (askedBy f l.registry).map unhashed = xs.map unhashed) (l₀ : Ledger)
    (hs : Refreshes τ d f l reports l') :
    l'.registry = l.registry ∧
      ∀ report ∈ reports, Repeats (takeRefresh d.merges xs l₀).1 report := by
  induction hs with
  | nil l => exact ⟨rfl, by simp⟩
  | @cons l l₁ l₂ l' report reports t hwait hrun hanswers _ ih =>
      obtain ⟨l₃, hreg, rfl, rfl⟩ := takeRefresh_of_runs hrun hanswers
      have hstart : l₃.registry = l.registry := hreg.trans hwait.registry_eq
      rw [← hstart] at h hxs ⊢
      have hsame := h.registry_takeRefresh
      rw [hsame] at ih
      obtain ⟨hend, hreports⟩ := ih h hxs
      exact ⟨hend, List.forall_mem_cons.mpr ⟨repeats_takeRefresh hxs h.home, hreports⟩⟩

/-- **Rest.** Let nobody else change the registry, and let what a node answers depend on nothing but
the address at which it is asked; the views may be incomplete, contradict each other and come from
other members than were asked. If a refresh counts nobody as new and nobody as moved, it has changed
nothing but hashes. Any number of refreshes can follow; none of them counts anybody, all of them name
the same members as reached, as failed and as seen, and they leave the registry exactly as it is. -/
theorem refreshes_at_rest {t : List (Exchange τ)} {report : RefreshReport}
    (hrun : Runs Ledger.Later (d.refresh : Activity τ RefreshReport) l t report l')
    (hanswers : AnsweredBy f t) (hadded : report.added = 0) (hrelocated : report.relocated = 0) :
    l'.registry.entries.map Entry.unhashed = l.registry.entries.map Entry.unhashed ∧
    (∀ n, ∃ reports l'', reports.length = n ∧ Refreshes τ d f l' reports l'') ∧
    ∀ reports l'', Refreshes τ d f l' reports l'' →
      l''.registry = l'.registry ∧ ∀ report' ∈ reports, Repeats report report' := by
  obtain ⟨l₁, hreg, rfl, rfl⟩ := takeRefresh_of_runs hrun hanswers
  have hhome := quiet_takeRefresh_iff.mp ⟨hadded, hrelocated⟩
  have hsame := unhashed_takeRefresh_of_atHome hhome
  refine ⟨hreg ▸ hsame, fun n => exists_refreshes τ d f n _, fun reports l'' hs => ?_⟩
  exact (atRest_takeRefresh hhome).refreshes (askedBy_of_unhashed hsame) l₁ hs

/-- Two members of which one answers in place of the other: a refresh notes a hash and counts nobody,
and two more refreshes leave the registry as it is then. -/
lemma refreshes_at_rest_impostor :
    let place (name : String) : Address := ⟨"http", none, .whole name, none, none⟩
    let l : Ledger := ⟨0, ⟨[.fresh (.resolved (place "a") "a" none) true 0,
      .fresh (.resolved (place "b") "b" none) true 0]⟩, .new .first, []⟩
    let d : Discovery := ⟨⟨1⟩, true⟩
    let f : Address → Except Failure TopologyView := fun _ => .ok ⟨"a", "h", [⟨"a", place "a"⟩]⟩
    ∃ (t : List (Exchange Unit)) (report : RefreshReport) (l' : Ledger),
      Runs Ledger.Later (d.refresh : Activity Unit RefreshReport) l t report l' ∧
      AnsweredBy f t ∧ report.added = 0 ∧ report.relocated = 0 ∧ l'.registry ≠ l.registry ∧
      ∃ reports l'', reports.length = 2 ∧ Refreshes Unit d f l' reports l'' ∧
        l''.registry = l'.registry := by
  intro place l d f
  obtain ⟨t, hrun, hanswers⟩ := exists_runs_steady f (a := d.refresh) (l := l) rfl
  have hadded : (((runWith (.steady f) d.refresh).run l).run ()).1.1.added = 0 := by
    decide +kernel
  have hrelocated : (((runWith (.steady f) d.refresh).run l).run ()).1.1.relocated = 0 := by
    decide +kernel
  obtain ⟨-, hexists, hrest⟩ := refreshes_at_rest hrun hanswers hadded hrelocated
  obtain ⟨reports, l'', hlength, hs⟩ := hexists 2
  exact ⟨t, _, _, hrun, hanswers, hadded, hrelocated, by decide +kernel, reports, l'', hlength, hs,
    (hrest reports l'' hs).1⟩

end Discovery

end Roster
