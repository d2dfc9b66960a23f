import Roster.Proofs.Activity.Safety
import Roster.Proofs.Discovery.Run

/-!
# The search for members among others

However late the answers come, what was read before the questions were asked is enough to take
them over: an identifier that was registered then still is.

* `Registry.Knows`: if a record has an identifier, the registry has an entry under it.
* `safe_probeNodes_bind`: members that are known can be asked.
* `safe_refresh_bind`: a refresh reports on members that have identifiers and are known.
* `safe_bootstrap_bind`: members to start from can always be asked.
-/

namespace Roster

/-- If a record has an identifier, there is an entry under it. -/
def Registry.Knows (reg : Registry) (r : Record) : Prop :=
  ∀ id, r.identifier = some id → reg.contains (.identifier id) = true

namespace Registry

variable {reg reg' : Registry} {r : Record}

/-- What was known once is known after orderly changes. -/
lemma LeadsTo.knows (h : LeadsTo reg reg') (hw : reg.WellFormed) (hr : reg.Knows r) :
    reg'.Knows r := fun id hid => h.contains_identifier hw (hr id hid)

/-- A record that is read from a registry is known. -/
lemma WellFormed.knows (h : reg.WellFormed) (hr : r ∈ reg.entries.map Entry.record) :
    reg.Knows r := by
  intro id hid
  obtain ⟨e, he, rfl⟩ := List.mem_map.mp hr
  refine contains_iff.mpr ⟨e, he, ?_⟩
  rw [h.placed e he, Record.key_eq_identifier_iff.mpr hid]

/-- A known record with an identifier has an entry. -/
lemma Knows.contains_key (h : reg.Knows r) (hr : r.isResolved = true) :
    reg.contains r.key = true := by
  obtain ⟨id, hk⟩ := Record.isResolved_iff.mp hr
  rw [hk]
  exact h id (Record.key_eq_identifier_iff.mp hk)

lemma knows_unresolved (reg : Registry) (a : Address) : reg.Knows (.unresolved a) :=
  fun id hid => absurd hid (by simp [Record.unresolved])

/-- An active member has an identifier and is known. -/
lemma Orderly.knows_of_active (h : reg.Orderly) (hr : r ∈ reg.active) :
    r.isResolved = true ∧ reg.Knows r := by
  obtain ⟨id, hid, hc⟩ := h.identifier_of_active hr
  refine ⟨by simp [Record.isResolved, hid], fun id' hid' => ?_⟩
  rw [hid] at hid'
  rwa [← Option.some.inj hid']

end Registry

namespace Discovery

open Activity Registry

variable {τ α : Type} {post : List (Except Failure τ) → α → Prop}
  {heard : List (Except Failure τ)} {reg : Registry} {d : Discovery}

/-- Members that are known can be asked, and all their answers are taken over. -/
lemma safe_probeNodes_bind {records : List Record} {k : Except Failure ProbeReport → Activity τ α}
    (ho : reg.Orderly) (hknown : ∀ r ∈ records, reg.Knows r)
    (h : ∀ report reg', LeadsTo reg reg' → Safe post (k (.ok report)) heard reg') :
    Safe post ((d.probeNodes records).bind k) heard reg := by
  rw [probeNodes, bind_eq, bind_assoc]
  intro answers _
  refine safe_change_bind fun l hl hlead => ?_
  have hall : ∀ x ∈ records.zip answers, ∀ id, x.1.identifier = some id →
      l.registry.contains (.identifier id) = true := by
    intro x hx
    exact hlead.knows ho.toWellFormed (hknown x.1 (List.of_mem_zip hx).1)
  obtain ⟨report, hok⟩ := takeProbes_ok {} hl.toWellFormed hall
  have hstep := takeProbes_leadsTo hl.toWellFormed (records.zip answers) {}
  rw [hok]
  exact ⟨hstep, h report _ (hlead.trans hstep)⟩

/-- A refresh tells of members that were active when it asked them. -/
lemma safe_refresh_bind {k : RefreshReport → Activity τ α}
    (h : ∀ report reg', LeadsTo reg reg' → (∀ r ∈ report.failed.map Prod.fst ++ report.reached,
      r.isResolved = true ∧ reg'.Knows r) → Safe post (k report) heard reg') :
    Safe post (d.refresh.bind k) heard reg := by
  rw [refresh, bind_eq, bind_assoc]
  refine safe_look_bind fun l₁ hl₁ hlead₁ => ?_
  rw [bind_eq, bind_assoc]
  intro answers _
  refine safe_change_bind fun l₂ hl₂ hlead₂ => ?_
  have hstep : LeadsTo l₂.registry
      (takeRefresh d.merges (l₁.registry.active.zip answers) l₂).2.registry := takeRefresh_leadsTo
  refine ⟨hstep, h _ _ (hlead₁.trans (hlead₂.trans hstep)) fun r hr => ?_⟩
  have hasked : r ∈ (l₁.registry.active.zip answers).map Prod.fst := by
    simp only [List.mem_append, failed_takeRefresh, reached_takeRefresh, List.mem_map,
      List.mem_filterMap, Option.map_eq_some_iff, List.mem_filter] at hr
    obtain ⟨_, ⟨x, hx, f, -, rfl⟩, rfl⟩ | ⟨x, ⟨hx, -⟩, rfl⟩ := hr
    · exact List.mem_map_of_mem hx
    · exact List.mem_map_of_mem hx
  obtain ⟨x, hx, rfl⟩ := List.mem_map.mp hasked
  have hactive : x.1 ∈ l₁.registry.active := (List.of_mem_zip hx).1
  obtain ⟨hresolved, hknown⟩ := hl₁.knows_of_active hactive
  exact ⟨hresolved, (hlead₂.trans hstep).knows hl₁.toWellFormed hknown⟩

/-- Members to start from can always be asked. -/
lemma safe_bootstrap_bind {seeds : List Address} {k : Except Failure Nat → Activity τ α}
    (h : ∀ result reg', LeadsTo reg reg' →
      (∀ text, result ≠ .error (.invariantViolation text)) → Safe post (k result) heard reg') :
    Safe post ((d.bootstrap seeds).bind k) heard reg := by
  cases hseeds : seeds.isEmpty with
  | true =>
      simp only [bootstrap, hseeds, if_true]
      exact h (.error noSeeds) reg (LeadsTo.refl _) (by simp [noSeeds])
  | false =>
      simp only [bootstrap, hseeds, Bool.false_eq_true, if_false, bind_eq, Activity.bind_assoc]
      refine safe_change_bind fun l ho hlead => ?_
      have hadd : LeadsTo l.registry (l.add (seeds.map Record.unresolved)).registry :=
        LeadsTo.single (c := .add (seeds.map Record.unresolved)) trivial l.now _
      refine ⟨hadd, safe_probeNodes_bind (hadd.orderly ho) (fun r hr => ?_)
        fun report reg' hlead' => ?_⟩
      · obtain ⟨a, -, rfl⟩ := List.mem_map.mp hr
        exact knows_unresolved _ a
      · refine safe_change_bind fun l' _ hl' => ?_
        obtain ⟨hresult, hregistry⟩ := bootstrapResult_ok seeds.length report l'
        rw [hregistry, hresult]
        refine ⟨LeadsTo.refl _, h _ _ (((hlead.trans hadd).trans hlead').trans hl') ?_⟩
        intro text
        split_ifs <;> simp

end Discovery

end Roster
