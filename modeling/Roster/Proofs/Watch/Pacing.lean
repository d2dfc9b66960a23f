import Roster.Proofs.Lists
import Roster.Proofs.Watch.Vigil

/-!
# The pace of a loop

A loop of the watch at work, whose passes last as long as they like. However late its ticks are
handled, the tick that comes next is never due earlier than if all of them had been handled in time;
so passes come no faster than the ticks that were planned, and never in a burst.

* `Timer.deadline_add_le_tick`: what handling a tick does to the next one.
* `Vigil.Paced`: the invariant. When passes began and were over, and when the next tick is due.
* `Vigil.Paced.move`: every move keeps it; only the one that begins a pass says anything of the
  timer.
* `Vigil.exists_leads_lasting`: passes may last any times.
* `Vigil.passes_keep_pace`: what comes of it for every loop at work.
-/

namespace Roster

open Activity

variable {τ : Type}

/-- Handling a tick that is due puts the next one off by a period or more. -/
lemma Watch.Timer.deadline_add_le_tick {now : Instant} {t : Watch.Timer} (hdue : t.deadline ≤ now) :
    t.deadline + t.period.nanos ≤ (t.tick now).deadline := by
  unfold tick
  split_ifs
  · exact Nat.add_le_add_right hdue _
  · exact le_rfl

namespace Vigil

variable {w : Watch} {s s' : Vigil τ} {t : Instant} {l : Ledger}

/-- When the passes of a loop that began at a time began and were over. -/
structure Paced (w : Watch) (t : Instant) (s : Vigil τ) : Prop where
  /-- No pass began later than now. -/
  begunBy : ∀ b ∈ s.begun, b ≤ s.now
  /-- No pass was over later than now. -/
  finishedBy : ∀ e ∈ s.finished, e ≤ s.now
  /-- A pass is over after it began. -/
  lasts : ∀ (k : Nat) b e, s.begun[k]? = some b → s.finished[k]? = some e → b ≤ e
  /-- The next pass begins after it is over. -/
  apart : ∀ (k : Nat) e b, s.finished[k]? = some e → s.begun[k + 1]? = some b → e ≤ b
  /-- Every pass waits for its tick, the first one of which is due after one interval. -/
  planned : ∀ (k : Nat) b, s.begun[k]? = some b → t + (k + 1) * w.interval.nanos ≤ b
  /-- So does the one that comes next. -/
  next : t + (s.begun.length + 1) * w.interval.nanos ≤ s.loop.timer.deadline
  /-- The next pass begins an interval later, but for what ticks may be handled late. -/
  spread : ∀ (k : Nat) b b', s.begun[k]? = some b → s.begun[k + 1]? = some b' →
    b + w.interval.nanos ≤ b' + Watch.Timer.tolerance.nanos

namespace Paced

lemma start (w : Watch) (t : Instant) (l : Ledger) : Paced w t (start w t l : Vigil τ) := by
  refine ⟨?_, ?_, ?_, ?_, ?_, ?_, ?_⟩ <;> simp [Vigil.start, Watch.Loop.start, Watch.Timer.start]

/-- A stretch of a pass may end it now. -/
lemma runOn (h : Paced w t s) (hlength : s.begun.length = s.finished.length + 1)
    (pass : Activity τ Unit) : Paced w t (s.runOn pass) := by
  rcases runOn_cases pass s with ⟨l, heq⟩ | ⟨l, rest, heq, -⟩ <;> rw [heq]
  · refine ⟨h.begunBy, fun e he => ?_, fun k b e hb he => ?_, fun k e b he hb => ?_, h.planned,
      h.next, h.spread⟩
    · rcases List.mem_append.mp he with he | he
      · exact h.finishedBy e he
      · rw [List.mem_singleton.mp he]
    · rcases getElem?_concat_eq_some_iff.mp he with he | ⟨-, rfl⟩
      · exact h.lasts k b e hb he
      · exact h.begunBy b (List.mem_of_getElem? hb)
    · rcases getElem?_concat_eq_some_iff.mp he with he | ⟨rfl, -⟩
      · exact h.apart k e b he hb
      · -- No pass has begun after the one that is over now.
        rw [← hlength, List.getElem?_eq_none le_rfl] at hb
        cases hb
  · exact ⟨h.begunBy, h.finishedBy, h.lasts, h.apart, h.planned, h.next, h.spread⟩

/-- A pass that begins waited for its tick, and the tick after it is put off. -/
lemma takeUp (h : Paced w t s) (hs : Sound w s) (hphase : s.phase = .waiting)
    (hdue : s.loop.timer.deadline ≤ s.now) : Paced w t (s.takeUp w) := by
  have hlength : s.begun.length = s.finished.length := by
    simpa [hphase, Phase.underWay] using hs.oneByOne
  have hnext : t + (s.begun.length + 1) * w.interval.nanos ≤ s.now := h.next.trans hdue
  let s₁ : Vigil τ := { s with loop := s.loop.beginPass s.now, begun := s.begun ++ [s.now] }
  suffices h₁ : Paced w t s₁ from h₁.runOn (by simp [s₁, hlength]) w.notedPass
  refine ⟨fun b hb => ?_, h.finishedBy, fun k b e hb he => ?_, fun k e b he hb => ?_,
    fun k b hb => ?_, ?_, fun k b b' hb hb' => ?_⟩
  · rcases List.mem_append.mp hb with hb | hb
    · exact h.begunBy b hb
    · rw [List.mem_singleton.mp hb]
  · rcases getElem?_concat_eq_some_iff.mp hb with hb | ⟨rfl, -⟩
    · exact h.lasts k b e hb he
    · rw [hlength, List.getElem?_eq_none le_rfl] at he
      cases he
  · rcases getElem?_concat_eq_some_iff.mp hb with hb | ⟨-, rfl⟩
    · exact h.apart k e b he hb
    · exact h.finishedBy e (List.mem_of_getElem? he)
  · rcases getElem?_concat_eq_some_iff.mp hb with hb | ⟨rfl, rfl⟩
    · exact h.planned k b hb
    · exact hnext
  · calc t + ((s.begun ++ [s.now]).length + 1) * w.interval.nanos
        = t + (s.begun.length + 1) * w.interval.nanos + w.interval.nanos := by
          rw [List.length_append, List.length_singleton, Nat.add_mul _ 1, Nat.one_mul,
            Nat.add_assoc]
      _ ≤ s.loop.timer.deadline + s.loop.timer.period.nanos := by
          rw [hs.period]
          exact Nat.add_le_add_right h.next _
      _ ≤ (s.loop.timer.tick s.now).deadline := Watch.Timer.deadline_add_le_tick hdue
  · rcases getElem?_concat_eq_some_iff.mp hb' with hb' | ⟨hk, rfl⟩
    · have hlt : k < s.begun.length := by
        have := (List.getElem?_eq_some_iff.mp hb').1
        omega
      rw [List.getElem?_append_left hlt] at hb
      exact h.spread k b b' hb hb'
    · -- The pass before is the last one that began.
      have hlast : s.begun.getLast? = some b := by
        rw [List.getElem?_append_left (by omega)] at hb
        rw [List.getLast?_eq_getElem?, ← hb]
        congr 1
        omega
      calc b + w.interval.nanos
          ≤ s.loop.timer.deadline + Watch.Timer.tolerance.nanos := hs.paced b hlast
        _ ≤ s.now + Watch.Timer.tolerance.nanos := Nat.add_le_add_right hdue _

/-- Every move keeps the invariant. -/
lemma move (h : Paced w t s) (hs : Sound w s) (hm : Move w s s') : Paced w t s' := by
  cases hm with
  | elapse hle hprompt =>
      exact ⟨fun b hb => (h.begunBy b hb).trans hle, fun e he => (h.finishedBy e he).trans hle,
        h.lasts, h.apart, h.planned, h.next, h.spread⟩
  | others l => exact ⟨h.begunBy, h.finishedBy, h.lasts, h.apart, h.planned, h.next, h.spread⟩
  | cancel => exact ⟨h.begunBy, h.finishedBy, h.lasts, h.apart, h.planned, h.next, h.spread⟩
  | takeUp hphase hbranch =>
      exact h.takeUp hs hphase (Watch.Loop.pass_mem_branches_iff.mp hbranch)
  | answer hphase hanswer =>
      have hlength := hs.oneByOne
      rw [hphase, Phase.underWay] at hlength
      exact h.runOn hlength _
  | close hphase hbranch =>
      exact ⟨h.begunBy, h.finishedBy, h.lasts, h.apart, h.planned, h.next, h.spread⟩

lemma of_leads (hl : Leads w (Vigil.start w t l) s) : Paced w t s := by
  induction hl with
  | refl => exact start w t l
  | tail hl hm ih => exact ih.move ((Sound.start w t l).leads hl) hm

/-- No more passes began within a time than there were intervals. -/
lemma countP_begun_le (h : Paced w t s) (hpos : 0 < w.interval.nanos) (T : Nat) :
    s.begun.countP (· ≤ t + T) ≤ T / w.interval.nanos := by
  have hlate : (s.begun.drop (T / w.interval.nanos)).countP (· ≤ t + T) = 0 := by
    rw [List.countP_eq_zero]
    intro b hb
    obtain ⟨k, hk⟩ := List.mem_iff_getElem?.mp hb
    rw [List.getElem?_drop] at hk
    have hlt : T < (T / w.interval.nanos + k + 1) * w.interval.nanos := by
      rw [← Nat.div_lt_iff_lt_mul hpos]
      omega
    have hb : t + T < b := (Nat.add_lt_add_left hlt t).trans_le (h.planned _ b hk)
    simpa using hb
  calc s.begun.countP (· ≤ t + T)
      = (s.begun.take (T / w.interval.nanos)).countP (· ≤ t + T) := by
        rw [← Nat.add_zero (List.countP _ (List.take _ _)), ← hlate, ← List.countP_append,
          List.take_append_drop]
    _ ≤ (s.begun.take (T / w.interval.nanos)).length := List.countP_le_length
    _ ≤ T / w.interval.nanos := by
        rw [List.length_take]
        exact Nat.min_le_left _ _

end Paced

/-! ### Passes that last any times -/

/-- A loop that waits and was not told to stop can make a pass that lasts any time; it begins as
soon as its tick is due. -/
lemma exists_leads_lasting_once (w : Watch) (s : Vigil τ) (hphase : s.phase = .waiting)
    (hcancelled : s.loop.cancelled = false) (d : Duration) :
    ∃ s', Leads w s s' ∧ s'.phase = .waiting ∧
      s'.now = max s.now s.loop.timer.deadline + d.nanos ∧
      s'.loop = s.loop.beginPass (max s.now s.loop.timer.deadline) ∧
      s'.begun = s.begun ++ [max s.now s.loop.timer.deadline] ∧
      s'.finished = s.finished ++ [max s.now s.loop.timer.deadline + d.nanos] := by
  -- The next tick comes, if it is not due yet.
  let b := max s.now s.loop.timer.deadline
  let s₁ : Vigil τ := { s with now := b }
  have h₁ : Move w s s₁ := .elapse (le_max_left _ _) fun _ t hle ht => by
    rw [Watch.Loop.branches_eq_nil_iff]
    exact ⟨hcancelled, (lt_max_iff.mp ht).resolve_left (Nat.not_lt.mpr hle)⟩
  have h₂ : Move w s₁ (s₁.takeUp w) :=
    .takeUp hphase (Watch.Loop.pass_mem_branches_iff.mpr (le_max_right _ _))
  -- All answers come together when the time is over.
  obtain ⟨limit, as, next, hasks⟩ := phase_takeUp w s₁
  let s₂ : Vigil τ := { s₁.takeUp w with now := b + d.nanos }
  have h₃ : Move w (s₁.takeUp w) s₂ := by
    refine .elapse ?_ fun hwaits => ?_
    · rw [now_takeUp]
      exact Nat.le_add_right _ _
    · rw [hasks] at hwaits
      cases hwaits
  have hanswer : Answered (.probe limit as next) []
      (next (as.map fun a => .error (.noAnswer a limit))) := .probe _ (List.length_map _)
  have h₄ : Move w s₂ (s₂.runOn (next (as.map fun a => .error (.noAnswer a limit)))) :=
    .answer hasks hanswer
  obtain ⟨l', h₅⟩ := exists_leads_over w (next (as.map fun a => .error (.noAnswer a limit)))
    { s₂.ledger with now := s₂.now } s₂
  refine ⟨_, .head h₁ (.head h₂ (.head h₃ (.head h₄ h₅))), rfl, rfl, ?_, ?_, rfl⟩
  · simp [s₂, s₁, b]
  · simp [s₂, s₁, b]

/-- The passes of a loop may last any times. -/
lemma exists_leads_lasting (w : Watch) (t : Instant) (l : Ledger) (durations : List Duration) :
    ∃ s : Vigil τ, Leads w (start w t l) s ∧ s.phase = .waiting ∧ s.loop.cancelled = false ∧
      s.begun.length = durations.length ∧
      s.finished = List.zipWith (fun b d => b + d.nanos) s.begun durations := by
  induction durations using List.reverseRecOn with
  | nil => exact ⟨_, .refl, rfl, rfl, rfl, rfl⟩
  | append_singleton ds d ih =>
      obtain ⟨s, hl, hphase, hcancelled, hlength, hfinished⟩ := ih
      obtain ⟨s', hl', hphase', -, hloop, hbegun, hfinished'⟩ :=
        exists_leads_lasting_once w s hphase hcancelled d
      refine ⟨s', hl.trans hl', hphase', by simpa [hloop] using hcancelled,
        by simp [hbegun, hlength], ?_⟩
      rw [hfinished', hbegun, hfinished, List.zipWith_append hlength]
      rfl

/-- **Pace.** Take a loop that begins at a time, with any interval, and anything that happens to it.

* Passes are made one after the other: at most one is under way, and each begins after the one
  before it is over.
* No pass begins before as many intervals are over as there are passes so far, it included.
* So within any time no more passes begin than there are intervals in it.
* A pass begins an interval after the one before it, less at most the 5 ms by which a tick may be
  handled late.
* Passes may last any times. -/
theorem passes_keep_pace (hpos : 0 < w.interval.nanos) (hl : Leads w (start w t l) s) :
    (s.begun.length = s.finished.length ∨ s.begun.length = s.finished.length + 1) ∧
    (∀ (k : Nat) b e, s.begun[k]? = some b → s.finished[k]? = some e → b ≤ e) ∧
    (∀ (k : Nat) e b, s.finished[k]? = some e → s.begun[k + 1]? = some b → e ≤ b) ∧
    (∀ (k : Nat) b, s.begun[k]? = some b → t + (k + 1) * w.interval.nanos ≤ b) ∧
    (∀ T, s.begun.countP (· ≤ t + T) ≤ T / w.interval.nanos) ∧
    (∀ (k : Nat) b b', s.begun[k]? = some b → s.begun[k + 1]? = some b' →
      b + w.interval.nanos ≤ b' + (Duration.ofMillis 5).nanos) ∧
    ∀ durations : List Duration, ∃ s' : Vigil τ, Leads w (start w t l) s' ∧
      s'.begun.length = durations.length ∧
      s'.finished = List.zipWith (fun b d => b + d.nanos) s'.begun durations := by
  have hsound : Sound w s := (Sound.start w t l).leads hl
  have hpaced : Paced w t s := .of_leads hl
  refine ⟨?_, hpaced.lasts, hpaced.apart, hpaced.planned, hpaced.countP_begun_le hpos,
    hpaced.spread, fun durations => ?_⟩
  · have hlength := hsound.oneByOne
    cases hphase : s.phase with
    | waiting | ended =>
        rw [hphase] at hlength
        exact Or.inl hlength
    | passing rest =>
        rw [hphase] at hlength
        exact Or.inr hlength
  · obtain ⟨s', hl', -, -, hlength, hfinished⟩ := exists_leads_lasting w t l durations
    exact ⟨s', hl', hlength, hfinished⟩

/-- A loop with a tick every 100 ms begins at 40 ms, and its first pass lasts 250 ms. The second one
begins at once when that is over, and the third one a whole interval later, not when the third tick
was planned. -/
lemma passes_keep_pace_overrun :
    let w : Watch := ⟨⟨.ofSeconds 1, true⟩, .ofMillis 100, none⟩
    ∃ s : Vigil Unit, Leads w (start w 40000000 (.start 0 .first)) s ∧
      s.begun = [140000000, 390000000, 490000000] ∧
      s.finished = [390000000, 400000000, 500000000] ∧
      (∀ (k : Nat) b, s.begun[k]? = some b → 40000000 + (k + 1) * w.interval.nanos ≤ b) ∧
      s.begun.countP (· ≤ 40000000 + 450000000) ≤ 450000000 / w.interval.nanos := by
  intro w
  obtain ⟨s₁, hl₁, hphase₁, hnow₁, hloop₁, hbegun₁, hfinished₁⟩ :=
    exists_leads_lasting_once w (start w 40000000 (.start 0 .first) : Vigil Unit) rfl rfl
      (.ofMillis 250)
  obtain ⟨s₂, hl₂, hphase₂, hnow₂, hloop₂, hbegun₂, hfinished₂⟩ :=
    exists_leads_lasting_once w s₁ hphase₁ (by rw [hloop₁]; rfl) (.ofMillis 10)
  obtain ⟨s₃, hl₃, -, -, -, hbegun₃, hfinished₃⟩ :=
    exists_leads_lasting_once w s₂ hphase₂ (by rw [hloop₂, hloop₁]; rfl) (.ofMillis 10)
  have hl := (hl₁.trans hl₂).trans hl₃
  obtain ⟨-, -, -, hplanned, hcount, -, -⟩ := passes_keep_pace (by decide) hl
  refine ⟨s₃, hl, ?_, ?_, hplanned, hcount _⟩
  · rw [hbegun₃, hbegun₂, hbegun₁, hloop₂, hnow₂, hloop₁, hnow₁]
    decide
  · rw [hfinished₃, hfinished₂, hfinished₁, hloop₂, hnow₂, hloop₁, hnow₁]
    decide

end Vigil

end Roster
