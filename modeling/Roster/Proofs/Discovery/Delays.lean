import Roster.Proofs.Activity.Deadline
import Roster.Proofs.Discovery.Run
import Roster.Proofs.Discovery.Times

/-!
# Members that answer in any order

Members are asked together, and their calls end in any order. What comes of it depends on their delays
only through who answered in time: the answers are taken over in the order of the members, after the
last call has ended.

* `OnlyLateness`: an activity for which this holds; `onlyLateness` proves it from its one round of
  questions and from what is done with the answers.
* `failed_takeProbes`: who did not answer, of the members that may become active.
* `only_lateness_matters`: `probeNodes`, `refresh` and `bootstrap`.
-/

namespace Roster

namespace Discovery

open Activity Registry

variable {τ α : Type} {d : Discovery} {l l₀ : Ledger} {limit : Duration} {as : List Address}
  {r : Record} {v : TopologyView} {report report' : ProbeReport}
  {xs : List (Record × Except Failure TopologyView)}

/-- An activity that asks some nodes once, with the ledger `l₀`, and for which it does not matter when
they answer, but for who does so in time. -/
structure OnlyLateness (a : Activity τ α) (l l₀ : Ledger) (limit : Duration) (as : List Address)
    (take : List (Except Failure TopologyView) → Ledger → α × Ledger) : Prop where
  punctual : ∀ s, Punctual s a l l₀ limit as take
  /-- If the same nodes answer in time, and in the same way, then the same comes of it, with a
  registry that tells another time for what was done when all calls had ended. If they have ended at
  the same time, it is the same registry. -/
  alike : ∀ s s', s.Alike s' limit as → ∀ r r' l₁ l₁',
    Leads s ⟨l, .running a⟩ ⟨l₁, .running (.done r)⟩ →
    Leads s' ⟨l, .running a⟩ ⟨l₁', .running (.done r')⟩ →
    r' = r ∧ Twins (s.afterRound limit as l₀).now (s'.afterRound limit as l₀).now
        l₁.registry l₁'.registry ∧
      ((s'.round limit as).lasts = (s.round limit as).lasts → l₁'.registry = l₁.registry)

lemma onlyLateness {a : Activity τ α} {next : List (Except Failure TopologyView) → Activity τ α}
    {take : List (Except Failure TopologyView) → Ledger → α × Ledger}
    (hfirst : a.settle l = (l₀, .probe limit as next))
    (hlast : ∀ answers l, (next answers).settle l = ((take answers l).2, .done (take answers l).1))
    (htake : ∀ answers, NotesTime (take answers)) : OnlyLateness a l l₀ limit as take := by
  have hpunctual : ∀ s, Punctual s a l l₀ limit as take := fun s => Activity.punctual hfirst hlast
  refine ⟨hpunctual, fun s s' halike r r' l₁ l₁' hl hl' => ?_⟩
  have hends := (hpunctual s).ends r l₁ hl
  have hends' := (hpunctual s').ends r' l₁' hl'
  -- Both runs end with what comes of the same outcomes, taken over at two times.
  rw [halike.outcomes_eq] at hends'
  obtain ⟨hsame, htwins⟩ := (htake (s.outcomes limit as)).twins l₀ (s.afterRound limit as l₀).now
    (s'.afterRound limit as l₀).now
  obtain ⟨rfl, rfl⟩ := Prod.mk.inj hends
  obtain ⟨rfl, rfl⟩ := Prod.mk.inj hends'
  refine ⟨hsame, htwins, fun hlasts => ?_⟩
  have hafter : s'.afterRound limit as l₀ = s.afterRound limit as l₀ := by
    rw [Timetable.afterRound, Timetable.afterRound, hlasts]
  rw [hafter]

/-! ### Members that may become active -/

/-- The members that gave no view, and why, in the order in which they were asked. -/
def silent (xs : List (Record × Except Failure TopologyView)) : List (Record × Failure) :=
  xs.filterMap fun
    | (r, .error f) => some (r, f)
    | (_, .ok _) => none

lemma failed_recover (h : (recover r v report l).1 = .ok report') :
    report'.failed = report.failed := by
  unfold recover at h
  split at h
  · obtain rfl := Except.ok.inj h
    rfl
  · split at h
    · obtain rfl := Except.ok.inj h
      rfl
    · cases h

/-- If the answers are taken over, the members that gave no view are the ones that failed. -/
lemma failed_takeProbes (h : (takeProbes xs report l).1 = .ok report') :
    report'.failed = report.failed ++ silent xs := by
  induction xs generalizing report l with
  | nil =>
      obtain rfl := Except.ok.inj h
      exact (List.append_nil _).symm
  | cons x xs ih =>
      obtain ⟨r, answer⟩ := x
      cases answer with
      | error f =>
          rw [takeProbes] at h
          rw [ih h, List.append_assoc]
          rfl
      | ok v =>
          cases hres : (recover r v report l).1 with
          | error f =>
              rw [takeProbes_cons_error hres] at h
              cases h
          | ok report₁ =>
              rw [takeProbes_cons_ok xs hres] at h
              rw [ih h, failed_recover hres]
              rfl

/-! ### Members to start from -/

/-- What is done with the answers of the members to start from. -/
def takeSeeds (seeds : List Address) (answers : List (Except Failure TopologyView)) (l : Ledger) :
    Except Failure ℕ × Ledger :=
  let (report, l) := takeProbes ((seeds.map Record.unresolved).zip answers) {} l
  bootstrapResult seeds.length report l

lemma notesTime_takeSeeds (seeds : List Address) (answers : List (Except Failure TopologyView)) :
    NotesTime (takeSeeds seeds answers) := by
  intro φ l l' h
  obtain ⟨hfst, hsnd⟩ := parallel_takeProbes h ((seeds.map Record.unresolved).zip answers) {}
  simp only [takeSeeds, hfst]
  cases (takeProbes ((seeds.map Record.unresolved).zip answers) {} l).1 with
  | error f => exact ⟨rfl, hsnd⟩
  | ok report =>
      simp only [bootstrapResult]
      split_ifs <;> exact ⟨rfl, hsnd.now, hsnd.registry⟩

/-- The members to start from are entered and asked, and then their answers are taken over. -/
lemma settle_bootstrap {seeds : List Address} (hne : seeds ≠ []) :
    ∃ next, (d.bootstrap seeds : Activity τ (Except Failure ℕ)).settle l =
        (l.add (seeds.map Record.unresolved), .probe d.timeout seeds next) ∧
      ∀ answers l, (next answers).settle l =
        ((takeSeeds seeds answers l).2, .done (takeSeeds seeds answers l).1) := by
  have hempty : seeds.isEmpty = false := by simpa using hne
  have haddress : (seeds.map Record.unresolved).map Record.address = seeds := by
    rw [List.map_map]
    exact List.map_id seeds
  simp only [bootstrap, hempty, Bool.false_eq_true, if_false, probeNodes, haddress]
  exact ⟨_, rfl, fun _ _ => rfl⟩

/-! ### All of them -/

/-- **Who answers first does not matter.** Let nodes be asked together by `probeNodes`, `refresh` or
`bootstrap`, let each call have its delay and its answer, and let the calls end in any order in which
these moments come. Every one of the three

* can come to its end whatever has happened so far, unless it is over, and it ends with what comes of
  `Timetable.outcomes`: an answer that came until the deadline, and `Failure.unreachable` as a call
  that took too long for every other call, each for the member that was asked, in the order of the
  members;
* leaves the registry as it is as long as calls are waited for, but that `bootstrap` enters its seeds
  before it asks them;
* comes to the same, with the same members in the same order, if the same calls are answered until
  the deadline. Only the time at which the answers are taken over, which entries note that become
  active or are new, is the one at which the last call has ended.

Without seeds, `bootstrap` asks nobody and fails. -/
theorem only_lateness_matters (d : Discovery) (l : Ledger) :
    (∀ records : List Record,
      OnlyLateness (d.probeNodes records : Activity τ (Except Failure ProbeReport)) l l d.timeout
        (records.map Record.address) (fun answers => takeProbes (records.zip answers) {}) ∧
      ∀ s report l',
        Leads s ⟨l, .running (d.probeNodes records : Activity τ (Except Failure ProbeReport))⟩
          ⟨l', .running (.done (.ok report))⟩ →
        report.failed =
          silent (records.zip (s.outcomes d.timeout (records.map Record.address)))) ∧
    (OnlyLateness (d.refresh : Activity τ RefreshReport) l l d.timeout
        (l.registry.active.map Record.address)
        (fun answers => takeRefresh d.merges (asked l.registry answers)) ∧
      ∀ s report l', Leads s ⟨l, .running (d.refresh : Activity τ RefreshReport)⟩
          ⟨l', .running (.done report)⟩ →
        report.failed = (asked l.registry
          (s.outcomes d.timeout (l.registry.active.map Record.address))).filterMap fun x =>
            (fault? x).map fun f => (x.1, f)) ∧
    (∀ seeds : List Address, seeds ≠ [] →
      OnlyLateness (d.bootstrap seeds : Activity τ (Except Failure ℕ)) l
        (l.add (seeds.map Record.unresolved)) d.timeout seeds (takeSeeds seeds)) ∧
    ∀ s m, Leads s ⟨l, .running (d.bootstrap [] : Activity τ (Except Failure ℕ))⟩ m →
      m = ⟨l, .running (.done (.error noSeeds))⟩ := by
  refine ⟨fun records => ?_, ?_, fun seeds hne => ?_, fun s m hm => eq_of_leads_done hm⟩
  · have h : OnlyLateness (d.probeNodes records : Activity τ (Except Failure ProbeReport)) l l
        d.timeout (records.map Record.address) (fun answers => takeProbes (records.zip answers) {}) :=
      onlyLateness rfl (fun _ _ => rfl) fun answers _ _ _ h =>
        parallel_takeProbes h (records.zip answers) {}
    refine ⟨h, fun s report l' hl => ?_⟩
    have hends := congrArg Prod.fst ((h.punctual s).ends _ _ hl)
    exact (failed_takeProbes hends.symm).trans (List.nil_append _)
  · have h : OnlyLateness (d.refresh : Activity τ RefreshReport) l l d.timeout
        (l.registry.active.map Record.address)
        (fun answers => takeRefresh d.merges (asked l.registry answers)) :=
      onlyLateness rfl (fun _ _ => rfl) fun answers _ _ _ h =>
        parallel_takeRefresh d.merges h (asked l.registry answers)
    refine ⟨h, fun s report l' hl => ?_⟩
    have hends := congrArg Prod.fst ((h.punctual s).ends _ _ hl)
    rw [← failed_takeRefresh]
    exact congrArg RefreshReport.failed hends
  · obtain ⟨next, hfirst, hlast⟩ := settle_bootstrap (τ := τ) (d := d) (l := l) hne
    exact onlyLateness hfirst hlast (notesTime_takeSeeds seeds)

/-- Of three seeds, the first two answer in time, in one order or the other, once at the deadline, and
the third one is late or never answers: two seeds answered either way, and the same is registered. -/
lemma only_lateness_matters_reversed :
    let place (name : String) : Address := ⟨"http", none, .whole name, none, none⟩
    let seeds := [place "a", place "b", place "c"]
    let d : Discovery := ⟨⟨3⟩, true⟩
    let l : Ledger := ⟨0, ⟨[]⟩, .new .first, []⟩
    let answer (i : ℕ) (_ : Address) : Except Failure TopologyView :=
      .ok ⟨if i = 0 then "x" else if i = 1 then "y" else "z", "h", []⟩
    let s : Timetable := ⟨fun i _ => some ⟨2 ^ i⟩, answer⟩
    let s' : Timetable := ⟨fun i _ => if i = 0 then some ⟨3⟩ else if i = 1 then some ⟨1⟩ else none,
      answer⟩
    seeds ≠ [] ∧ s.Alike s' d.timeout seeds ∧
      (∃ l₁ l₁', Leads s ⟨l, .running (d.bootstrap seeds : Activity Unit (Except Failure ℕ))⟩
          ⟨l₁, .running (.done (.ok 2))⟩ ∧
        Leads s' ⟨l, .running (d.bootstrap seeds : Activity Unit (Except Failure ℕ))⟩
          ⟨l₁', .running (.done (.ok 2))⟩ ∧
        l₁'.registry = l₁.registry) ∧
      ∃ report l₁, Leads s
          ⟨l, .running (d.probeNodes (seeds.map .unresolved) :
            Activity Unit (Except Failure ProbeReport))⟩ ⟨l₁, .running (.done (.ok report))⟩ ∧
        report.failed = [(.unresolved (place "c"), .noAnswer (place "c") d.timeout)] := by
  intro place seeds d l answer s s'
  have hne : seeds ≠ [] := by simp [seeds]
  have halike : s.Alike s' d.timeout seeds := by
    intro i a ha
    refine ⟨?_, fun _ => rfl⟩
    obtain _ | _ | _ | i := i
    · rfl
    · rfl
    · rfl
    · simp [seeds] at ha
  obtain ⟨hprobe, -, hbootstrap, -⟩ := only_lateness_matters (τ := Unit) d l
  obtain ⟨hpunctual, hsame⟩ := hbootstrap seeds hne
  refine ⟨hne, halike, ?_, ?_⟩
  · obtain ⟨r, l₁, hl⟩ := (hpunctual s).completes _ .refl
    obtain ⟨r', l₁', hl'⟩ := (hpunctual s').completes _ .refl
    have hr : r = .ok 2 := congrArg Prod.fst ((hpunctual s).ends _ _ hl)
    obtain ⟨rfl, -, hregistry⟩ := hsame s s' halike _ _ _ _ hl hl'
    subst hr
    exact ⟨l₁, l₁', hl, hl', hregistry rfl⟩
  · obtain ⟨honly, hfailed⟩ := hprobe (seeds.map .unresolved)
    obtain ⟨r, l₁, hl⟩ := (honly.punctual s).completes _ .refl
    have hok : ∃ report, r = .ok report :=
      ⟨_, congrArg Prod.fst ((honly.punctual s).ends _ _ hl)⟩
    obtain ⟨report, rfl⟩ := hok
    exact ⟨report, l₁, hl, hfailed s report l₁ hl⟩

end Discovery

end Roster
