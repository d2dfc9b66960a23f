import Roster.Pool
import Roster.Proofs.Discovery.Counting
import Roster.Proofs.Discovery.Run
import Roster.Proofs.Lists
import Roster.Proofs.Registry.Reachable
import Roster.Service.Preparation
import Roster.Settings.Validation

/-!
# Settings that work

A pool refuses settings only if the check of the settings finds something wrong with them, or if
there is nothing to start from; and it asks nobody then. Whatever else happens when a pool is set
up comes from the answers: if some node to start from answers, the pool is ready, and otherwise
none could be reached.

* `Settings.Extends`: settings with further seeds that can be read, as a command line adds them.
* `exists_seeds`: settings with which nothing is wrong name nodes to start from.
* `connect_of_seeds`: how a pool is set up from nodes to start from.
* `connects_of_sound_settings`: the check of the settings and the pool agree.
-/

namespace Roster

open Activity Discovery Registry

variable {τ : Type}

/-! ### The nodes to start from -/

namespace Address

lemma ofNodeText_eq_ok_iff {text : String} {a : Address} :
    ofNodeText text = .ok a ↔ readSeed text = .ok a := by
  unfold ofNodeText
  cases readSeed text <;> simp

/-- Texts that can be read name nodes. -/
lemma exists_forall₂_readSeed {texts : List String}
    (h : ∀ text ∈ texts, ∃ a, readSeed text = .ok a) :
    ∃ as, List.Forall₂ (fun text a => readSeed text = .ok a) texts as := by
  induction texts with
  | nil => exact ⟨[], .nil⟩
  | cons text texts ih =>
      obtain ⟨⟨a, ha⟩, hrest⟩ := List.forall_mem_cons.mp h
      obtain ⟨as, has⟩ := ih hrest
      exact ⟨a :: as, .cons ha has⟩

end Address

namespace Settings

/-- Settings with further seeds that can be read. -/
def Extends (s s' : Settings) : Prop :=
  ∃ more, (∀ text ∈ more, ∃ a, Address.readSeed text = .ok a) ∧
    s' = { s with cluster := { s.cluster with seeds := s.cluster.seeds ++ more } }

variable {s s' : Settings}

/-- A command line adds seeds that can be read. -/
lemma extends_withSeeds {texts : List String} (h : s.withSeeds texts = .ok s') :
    s.Extends s' := by
  induction texts generalizing s with
  | nil =>
      cases h
      exact ⟨[], by simp, by simp⟩
  | cons text texts ih =>
      rw [withSeeds, List.foldlM_cons, withSeed] at h
      cases hread : Address.readSeed text with
      | error f =>
          rw [hread] at h
          cases h
      | ok a =>
          rw [hread] at h
          dsimp only at h
          split_ifs at h
          · exact ih h
          · obtain ⟨more, hmore, rfl⟩ := ih h
            refine ⟨text :: more, List.forall_mem_cons.mpr ⟨⟨a, hread⟩, hmore⟩, ?_⟩
            simp

/-- Nothing becomes wrong with settings by seeds that can be read. -/
lemma Extends.problems (h : s.Extends s') (hs : s.problems = []) : s'.problems = [] := by
  obtain ⟨more, hmore, rfl⟩ := h
  have hnone : more.filterMap seedProblem? = [] := by
    rw [List.filterMap_eq_nil_iff]
    intro text htext
    obtain ⟨a, ha⟩ := hmore text htext
    rw [seedProblem?, ha]
  simpa [Settings.problems, ClusterSettings.problems, List.filterMap_append, hnone] using hs

end Settings

namespace ClusterSettings

variable {s : ClusterSettings}

lemma problems_eq_nil_iff : s.problems = [] ↔ s.requestTimeoutMs ≠ 0 ∧ s.watchIntervalMs ≠ 0 ∧
    s.gossipMaxAgeSecs ≠ some 0 ∧ ∀ text ∈ s.seeds, ∃ a, Address.readSeed text = .ok a := by
  have hseed : ∀ text, seedProblem? text = none ↔ ∃ a, Address.readSeed text = .ok a := by
    intro text
    unfold seedProblem?
    cases Address.readSeed text <;> simp
  simp [problems, List.filterMap_eq_nil_iff, hseed]

end ClusterSettings

namespace Pool

variable {s : ClusterSettings} {seeds : List Address}

/-- A pool accepts settings if the times are not zero and the seeds can be read. -/
lemma seeds_eq_ok_iff : Pool.seeds s = .ok seeds ↔ s.watchIntervalMs ≠ 0 ∧
    s.requestTimeoutMs ≠ 0 ∧ List.Forall₂ (fun text a => Address.readSeed text = .ok a)
      s.seeds seeds := by
  have hinterval : s.watchInterval.nanos = 0 ↔ s.watchIntervalMs = 0 := by
    simp only [ClusterSettings.watchInterval, Duration.ofMillis]
    omega
  have htimeout : s.requestTimeout.nanos = 0 ↔ s.requestTimeoutMs = 0 := by
    simp only [ClusterSettings.requestTimeout, Duration.ofMillis]
    omega
  unfold Pool.seeds
  simp only [hinterval, htimeout]
  split_ifs with hi ht
  · simp [hi]
  · simp [ht]
  · simp [mapM_eq_ok_iff, Address.ofNodeText_eq_ok_iff, hi, ht]

/-- Settings with which nothing is wrong name the nodes to start from. -/
lemma exists_seeds (h : s.problems = []) : ∃ as, Pool.seeds s = .ok as := by
  obtain ⟨htimeout, hinterval, -, hread⟩ := ClusterSettings.problems_eq_nil_iff.mp h
  obtain ⟨as, has⟩ := Address.exists_forall₂_readSeed hread
  exact ⟨as, seeds_eq_ok_iff.mpr ⟨hinterval, htimeout, has⟩⟩

lemma length_seeds (h : Pool.seeds s = .ok seeds) : seeds.length = s.seeds.length :=
  (seeds_eq_ok_iff.mp h).2.2.length_eq.symm

end Pool

/-! ### The answers of the nodes to start from -/

namespace Discovery

variable {l : Ledger} {xs : List (Record × Except Failure TopologyView)}

/-- Some node to start from answers exactly if some member is made active, and each that answers is
active then under the identifier that it told. -/
lemma takeProbes_seeds {seeds : List Address} {answers : List (Except Failure TopologyView)}
    (h : l.registry.WellFormed) (hlength : answers.length = seeds.length) :
    let result := takeProbes ((seeds.map Record.unresolved).zip answers) {} l
    ∃ report, result.1 = .ok report ∧ (report.recovered = [] ↔ ∀ v, .ok v ∉ answers) ∧
      ∀ v, .ok v ∈ answers →
        result.2.registry.isActive? (.identifier v.identifier) = some true := by
  intro result
  have hsnd : ((seeds.map Record.unresolved).zip answers).map Prod.snd = answers :=
    List.map_snd_zip (by simp [hlength])
  have hnone : ∀ x ∈ (seeds.map Record.unresolved).zip answers, x.1.identifier = none := by
    rintro ⟨r, answer⟩ hx
    obtain ⟨a, -, rfl⟩ := List.mem_map.mp (List.of_mem_zip hx).1
    rfl
  obtain ⟨report, hok, hcount⟩ := recovered_takeProbes {} h hnone
  refine ⟨report, hok, ?_, fun v hv => ?_⟩
  · have hcount' : report.recovered.length = answers.countP Except.isOk := by
      conv_rhs => rw [← hsnd, List.countP_map]
      rw [hcount]
      exact Nat.zero_add _
    rw [← List.length_eq_zero_iff, hcount', List.countP_eq_zero]
    constructor
    · intro hall v hv
      exact hall _ hv rfl
    · intro hall answer hanswer
      cases answer with
      | error f => exact Bool.false_ne_true
      | ok v => exact absurd hanswer (hall v)
  · rw [← hsnd, List.mem_map] at hv
    obtain ⟨⟨r, answer⟩, hx, rfl⟩ := hv
    exact (active_takeProbes_iff h hok _).mpr (Or.inr ⟨r, v, hx, rfl, Or.inl (hnone _ hx)⟩)

end Discovery

namespace Pool

variable {s : ClusterSettings} {seeds : List Address} {l l' : Ledger} {t : List (Exchange τ)}
  {r : Except Failure Pool}

/-- A pool that is ready: some member is active, all active members have identifiers, and nothing
is wrong with the registry. -/
structure Ready (reg : Registry) : Prop where
  active : reg.active ≠ []
  resolved : ∀ r ∈ reg.active, r.isResolved = true
  check : reg.check = .ok ()

lemma ready_of_active {reg : Registry} {i : String} (h : reg.Orderly)
    (hactive : reg.isActive? (.identifier i) = some true) : Ready reg := by
  refine ⟨?_, fun r hr => ?_, check_eq_ok_iff.mpr h.placed⟩
  · obtain ⟨r, hr, -⟩ := h.isActive?_identifier_iff.mp hactive
    exact List.ne_nil_of_mem hr
  · obtain ⟨id, hid, -⟩ := h.identifier_of_active hr
    rw [Record.isResolved, hid]
    rfl

/-- If the nodes to start from are known, they are asked first. If none of them answers, none could
be reached; otherwise the pool is ready. -/
lemma connect_of_seeds (hempty : l.registry = .empty) (hseeds : Pool.seeds s = .ok seeds)
    (hne : seeds ≠ []) (hrun : Runs Ledger.Later (Pool.connect s) l t r l') :
    ∃ reg answers t', t = .probed reg seeds answers :: t' ∧ answers.length = seeds.length ∧
      (r = .error (.noReachableSeeds seeds.length) ∧ (∀ v, .ok v ∉ answers) ∨
        r = .ok (ofSettings s) ∧ (∃ v, .ok v ∈ answers) ∧ Ready l'.registry) := by
  simp only [Pool.connect, hseeds, bind_eq] at hrun
  rw [runs_bootstrap_bind_iff hne] at hrun
  obtain ⟨answers, l₁, t', hlength, hwait, rfl, hrun⟩ := hrun
  refine ⟨_, answers, t', rfl, hlength, ?_⟩
  have ho : l₁.registry.Orderly := by
    rw [hwait.registry_eq, Ledger.registry_add, hempty]
    exact (LeadsTo.single (c := .add (seeds.map Record.unresolved)) trivial l.now _).orderly
      Orderly.empty
  obtain ⟨report, hok, hnobody, hactive⟩ := takeProbes_seeds ho.toWellFormed hlength
  have ho₂ := (takeProbes_leadsTo ho.toWellFormed ((seeds.map Record.unresolved).zip answers)
    {}).orderly ho
  obtain ⟨hresult, hregistry⟩ := bootstrapResult_ok seeds.length report
    (takeProbes ((seeds.map Record.unresolved).zip answers) {} l₁).2
  rw [← hregistry] at ho₂ hactive
  rw [hok, hresult] at hrun
  by_cases hnone : report.recovered = []
  · rw [if_pos hnone] at hrun
    obtain ⟨-, rfl, -⟩ := runs_done_iff.mp hrun
    exact Or.inl ⟨rfl, hnobody.mp hnone⟩
  · rw [if_neg hnone] at hrun
    obtain ⟨v, hv⟩ : ∃ v, .ok v ∈ answers := by simpa [hnobody] using hnone
    refine Or.inr ?_
    cases hdiscover : s.discover with
    | false =>
        simp only [hdiscover, Bool.false_eq_true, if_false] at hrun
        obtain ⟨-, rfl, rfl⟩ := runs_change_iff.mp hrun
        exact ⟨rfl, ⟨v, hv⟩, ready_of_active ho₂ (hactive v hv)⟩
    | true =>
        simp only [hdiscover, if_true] at hrun
        rw [runs_refresh_bind_iff] at hrun
        obtain ⟨answers', l₂, t₂, -, hwait', rfl, hrun⟩ := hrun
        obtain ⟨-, rfl, rfl⟩ := runs_change_iff.mp hrun
        have hactive₂ := hactive v hv
        rw [← hwait'.registry_eq] at ho₂ hactive₂
        refine ⟨rfl, ⟨v, hv⟩,
          ready_of_active (i := v.identifier) (takeRefresh_leadsTo.orderly ho₂) ?_⟩
        -- Taking over the listed members makes nobody inactive.
        dsimp only [Ledger.registry_note]
        rw [isActive?_takeRefresh, hactive₂]
        rfl

/-- A pool refuses settings if the nodes to start from are not known, or if there are none; nobody
is asked then. -/
lemma connect_of_refused {f : Failure} (hseeds : Pool.seeds s = .error f)
    (hrun : Runs Ledger.Later (Pool.connect s) l t r l') : t = [] ∧ r = .error f := by
  simp only [Pool.connect, hseeds] at hrun
  obtain ⟨ht, hr, -⟩ := runs_done_iff.mp hrun
  exact ⟨ht, hr⟩

lemma connect_of_nil (hseeds : Pool.seeds s = .ok [])
    (hrun : Runs Ledger.Later (Pool.connect s) l t r l') : t = [] ∧ r = .error noSeeds := by
  simp only [Pool.connect, hseeds] at hrun
  obtain ⟨ht, hr, -⟩ := runs_done_iff.mp hrun
  exact ⟨ht, hr⟩

/-- **The check of the settings and the pool agree.** Let a pool be set up without nodes, and let
nobody else change its registry meanwhile.

* From settings with which nothing is wrong, with any further seeds that can be read, and with at
  least one seed, the nodes to start from are asked, one for each seed. If none of them answers,
  the outcome is that none of so many could be reached. If some node answers, the outcome is a pool
  that is ready: some member is active, all active members have identifiers, and nothing is wrong
  with the registry. Nothing else comes of it.
* If a pool refuses the settings of a cluster, then there is no seed, or something is wrong with
  these settings together with any settings of the logging; and nobody was asked. -/
theorem connects_of_sound_settings (hempty : l.registry = .empty) :
    (∀ (s s' : Settings) t (r : Except Failure Pool) l', s.problems = [] → s.Extends s' →
      s'.cluster.seeds ≠ [] → Runs Ledger.Later (Pool.connect s'.cluster) l t r l' →
      ∃ reg seeds answers t', t = (.probed reg seeds answers : Exchange τ) :: t' ∧
        List.Forall₂ (fun text a => Address.readSeed text = .ok a) s'.cluster.seeds seeds ∧
        answers.length = seeds.length ∧
        (r = .error (.noReachableSeeds s'.cluster.seeds.length) ↔ ∀ v, .ok v ∉ answers) ∧
        ((∃ v, .ok v ∈ answers) → r = .ok (ofSettings s'.cluster) ∧ Ready l'.registry)) ∧
    ∀ (c : ClusterSettings) (t : List (Exchange τ)) text l',
      Runs Ledger.Later (Pool.connect c) l t (.error (.configuration text)) l' →
      (c.seeds = [] ∨ ∀ logging, (Settings.mk c logging).problems ≠ []) ∧ t = [] := by
  refine ⟨fun s s' t r l' hs hextends hne hrun => ?_, fun c t text l' hrun => ?_⟩
  · have hproblems : s'.cluster.problems = [] :=
      (List.append_eq_nil_iff.mp (hextends.problems hs)).1
    obtain ⟨seeds, hseeds⟩ := exists_seeds hproblems
    have hlength := length_seeds hseeds
    have hne' : seeds ≠ [] := by
      rw [← List.length_pos_iff, hlength]
      exact List.length_pos_iff.mpr hne
    obtain ⟨reg, answers, t', rfl, hanswers, houtcome⟩ := connect_of_seeds hempty hseeds hne' hrun
    refine ⟨reg, seeds, answers, t', rfl, (seeds_eq_ok_iff.mp hseeds).2.2, hanswers, ?_⟩
    rcases houtcome with ⟨rfl, hnone⟩ | ⟨rfl, ⟨v, hv⟩, hready⟩
    · refine ⟨⟨fun _ => hnone, fun _ => by rw [hlength]⟩, fun hsome => ?_⟩
      obtain ⟨v, hv⟩ := hsome
      exact absurd hv (hnone v)
    · exact ⟨⟨fun h => absurd h (by simp), fun hnone => absurd hv (hnone v)⟩,
        fun _ => ⟨rfl, hready⟩⟩
  · cases hseeds : Pool.seeds c with
    | error f =>
        obtain ⟨ht, -⟩ := connect_of_refused hseeds hrun
        refine ⟨Or.inr fun logging hlogging => ?_, ht⟩
        obtain ⟨as, has⟩ := exists_seeds (s := c) (List.append_eq_nil_iff.mp hlogging).1
        rw [hseeds] at has
        cases has
    | ok seeds =>
        cases seeds with
        | nil =>
            have hnil : c.seeds = [] := List.length_eq_zero_iff.mp (length_seeds hseeds).symm
            exact ⟨Or.inl hnil, (connect_of_nil hseeds hrun).1⟩
        | cons a as =>
            -- With nodes to start from, the outcome is never that the settings are refused.
            obtain ⟨-, answers, -, -, -, ⟨hr, -⟩ | ⟨hr, -⟩⟩ :=
              connect_of_seeds hempty hseeds (List.cons_ne_nil a as) hrun
            · cases hr
            · cases hr

/-- With the usual settings and one further seed, a pool is ready if that node answers. -/
lemma connects_of_sound_settings_loopback :
    let s : Settings := {}
    let s' : Settings := { s with cluster := { s.cluster with seeds := ["strata://[::1]"] } }
    let l := Ledger.start 0 .first
    ∃ (t : List (Exchange Unit)) (r : Except Failure Pool) (l' : Ledger),
      s.problems = [] ∧ s.Extends s' ∧ Runs Ledger.Later (Pool.connect s'.cluster) l t r l' ∧
      r = .ok (ofSettings s'.cluster) ∧ Ready l'.registry := by
  intro s s' l
  have hs : s.problems = [] := by decide +kernel
  have hwith : s.withSeeds ["strata://[::1]"] = .ok s' := by decide +kernel
  have hextends : s.Extends s' := Settings.extends_withSeeds hwith
  obtain ⟨t, hrun, hanswers⟩ :=
    exists_runs_of_answers (Client.chorus_probe ⟨"a", "", []⟩) (Pool.connect s'.cluster) l ()
  obtain ⟨reg, seeds, answers, t', rfl, hread, -, -, hready⟩ :=
    (connects_of_sound_settings (τ := Unit) (l := l) rfl).1 s s' t _ _ hs hextends (by simp [s'])
      hrun
  -- The one node that is asked gives the answer that all nodes give.
  obtain ⟨a, as, -, -, rfl⟩ := List.forall₂_cons_left_iff.mp hread
  obtain ⟨answer, rest, rfl, -, rfl⟩ :=
    List.forall₂_cons_left_iff.mp (hanswers _ _ _ List.mem_cons_self)
  exact ⟨_, _, _, hs, hextends, hrun, hready ⟨_, List.mem_cons_self⟩⟩

end Pool

end Roster
