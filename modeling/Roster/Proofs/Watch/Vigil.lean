import Mathlib.Data.List.Basic
import Mathlib.Logic.Relation
import Roster.Proofs.Activity.Safety
import Roster.Watch.Loop

/-!
# A loop that is told to stop

A loop of the watch at work, while time passes, nodes answer as late as they like, and others
change the ledger. A pass that is under way is always finished. But a loop that is told to stop
takes one more pass if the tick of that pass is due by then, and so it may go on for as long as
each of its passes takes longer than the time between two ticks.

* `Vigil`: a loop at work, with the moments at which its passes began and were over.
* `Vigil.Move`: what may happen next. A loop that waits does not let a moment pass at which it
  can go on.
* `Vigil.Sound`: the invariant. Passes are made one after the other, and the next tick is not due
  before an interval from the beginning of the last pass, but for what ticks may be handled late.
* `Vigil.Overrun`: a pass begins at once when the one before it is over, which took too long.
* `Vigil.Winding`: the invariant of a loop that was told to stop. Each pass that begins then is an
  overrun, or begins at once.
* `Vigil.Reachable.winds_down`: what becomes of a loop that is told to stop.
-/

namespace Roster

open Activity

variable {τ : Type}

namespace Watch

/-! ### The timer of a loop -/

variable {now : Instant} {t : Timer} {p : Loop}

/-- The tick after one that is handled now is not due before a period from now, but for what this
one may be handled late. -/
lemma Timer.le_deadline_tick :
    now + t.period.nanos ≤ (t.tick now).deadline + tolerance.nanos := by
  unfold tick
  split_ifs with hlate
  · exact Nat.le_add_right _ _
  · have hintime : now ≤ t.deadline + tolerance.nanos := Nat.le_of_not_lt hlate
    calc now + t.period.nanos
        ≤ t.deadline + tolerance.nanos + t.period.nanos := Nat.add_le_add_right hintime _
      _ = t.deadline + t.period.nanos + tolerance.nanos := Nat.add_right_comm _ _ _

@[simp]
lemma Timer.period_tick : (t.tick now).period = t.period := by
  unfold tick
  split <;> rfl

@[simp]
lemma Loop.pass_mem_branches_iff : .pass ∈ p.branches now ↔ p.timer.deadline ≤ now := by
  simp [branches, Timer.isDue]

@[simp]
lemma Loop.shutDown_mem_branches_iff : .shutDown ∈ p.branches now ↔ p.cancelled = true := by
  simp [branches]

@[simp]
lemma Loop.cancelled_beginPass : (p.beginPass now).cancelled = p.cancelled := by
  cases p
  rfl

end Watch

/-- What a loop does. -/
inductive Vigil.Phase (τ : Type)
  /-- It waits for a tick, or to be told to stop. -/
  | waiting
  /-- It is in a pass, which waits for answers. -/
  | passing (rest : Activity τ Unit)
  /-- It has ended. -/
  | ended

/-- A loop at work. -/
structure Vigil (τ : Type) where
  /-- The clock. The time of the ledger is set from it whenever the loop goes on. -/
  now : Instant
  ledger : Ledger
  loop : Watch.Loop
  phase : Vigil.Phase τ
  /-- When the passes began, the first one first. -/
  begun : List Instant
  /-- When they were over. -/
  finished : List Instant

namespace Vigil

/-- A loop that begins. -/
def start (w : Watch) (now : Instant) (l : Ledger) : Vigil τ :=
  ⟨now, l.note (Watch.started w.interval), .start now w.interval, .waiting, [], []⟩

/-- The loop after a stretch of its pass, which left a ledger and the rest of the pass. -/
def after : Ledger × Activity τ Unit → Vigil τ → Vigil τ
  | (l, .done ()), s => { s with ledger := l, phase := .waiting, finished := s.finished ++ [s.now] }
  | (l, rest), s => { s with ledger := l, phase := .passing rest }

/-- Lets a pass run on to its next wait, or to its end. -/
def runOn (pass : Activity τ Unit) (s : Vigil τ) : Vigil τ :=
  s.after (pass.settle { s.ledger with now := s.now })

/-- The loop with a pass that begins now. -/
def takeUp (w : Watch) (s : Vigil τ) : Vigil τ :=
  { s with loop := s.loop.beginPass s.now, begun := s.begun ++ [s.now] }.runOn w.notedPass

/-- The loop when it ends. -/
def close (s : Vigil τ) : Vigil τ :=
  { s with ledger := s.ledger.note Watch.shuttingDown, phase := .ended }

/-- What may happen next. -/
inductive Move (w : Watch) : Vigil τ → Vigil τ → Prop
  /-- Time passes. A loop that waits does not let a moment pass at which it can go on. -/
  | elapse {s : Vigil τ} {now : Instant} (hle : s.now ≤ now)
      (hprompt : s.phase = .waiting → ∀ t, s.now ≤ t → t < now → s.loop.branches t = []) :
      Move w s { s with now := now }
  /-- Others change the ledger. -/
  | others {s : Vigil τ} (l : Ledger) : Move w s { s with ledger := l }
  /-- The loop is told to stop. -/
  | cancel {s : Vigil τ} : Move w s { s with loop := s.loop.cancel }
  /-- The loop begins a pass. -/
  | takeUp {s : Vigil τ} (hphase : s.phase = .waiting)
      (hbranch : .pass ∈ s.loop.branches s.now) : Move w s (s.takeUp w)
  /-- The pass is answered, and goes on. -/
  | answer {s : Vigil τ} {rest next : Activity τ Unit} {told : List (Except Failure τ)}
      (hphase : s.phase = .passing rest) (hanswer : Answered rest told next) :
      Move w s (s.runOn next)
  /-- The loop ends. -/
  | close {s : Vigil τ} (hphase : s.phase = .waiting)
      (hbranch : .shutDown ∈ s.loop.branches s.now) : Move w s s.close

/-- One loop at work is followed by another one. -/
def Leads (w : Watch) : Vigil τ → Vigil τ → Prop := Relation.ReflTransGen (Move w)

/-- The loops at work that can be reached. A loop without any time between its ticks never
begins. -/
def Reachable (w : Watch) (s : Vigil τ) : Prop :=
  0 < w.interval.nanos ∧ ∃ now l, Leads w (start w now l) s

variable {w : Watch} {s s' : Vigil τ} {pass : Activity τ Unit}

/-! ### One stretch of a pass -/

/-- What one stretch leaves is over, or it waits for an answer. -/
lemma settle_cases (a : Activity τ Unit) (l : Ledger) :
    (a.settle l).2 = .done () ∨ ∃ told next, Answered (a.settle l).2 told next := by
  induction a generalizing l with
  | done r => exact Or.inl rfl
  | update f next ih => exact ih l (f l)
  | probe limit as next _ =>
      exact Or.inr ⟨_, _, .probe (as.map fun a => .error (.noAnswer a limit)) (List.length_map _)⟩
  | gossip limit a next _ => exact Or.inr ⟨_, _, .gossip (.error (.noAnswer a limit))⟩
  | call node next _ => exact Or.inr ⟨_, _, .call (.error .noActiveNodes)⟩

lemma runOn_cases (pass : Activity τ Unit) (s : Vigil τ) :
    (∃ l, s.runOn pass =
      { s with ledger := l, phase := .waiting, finished := s.finished ++ [s.now] }) ∨
    ∃ l rest, s.runOn pass = { s with ledger := l, phase := .passing rest } ∧
      ∃ told next, Answered rest told next := by
  have hcases := settle_cases pass { s.ledger with now := s.now }
  unfold runOn
  generalize pass.settle { s.ledger with now := s.now } = x at hcases
  obtain ⟨l, rest⟩ := x
  rcases hcases with rfl | hwaits
  · exact Or.inl ⟨l, rfl⟩
  · refine Or.inr ⟨l, rest, ?_, hwaits⟩
    obtain ⟨told, next, hanswer⟩ := hwaits
    cases hanswer <;> rfl

@[simp]
lemma now_runOn : (s.runOn pass).now = s.now := by
  rcases runOn_cases pass s with ⟨l, h⟩ | ⟨l, rest, h, -⟩ <;> rw [h]

@[simp]
lemma loop_runOn : (s.runOn pass).loop = s.loop := by
  rcases runOn_cases pass s with ⟨l, h⟩ | ⟨l, rest, h, -⟩ <;> rw [h]

@[simp]
lemma begun_runOn : (s.runOn pass).begun = s.begun := by
  rcases runOn_cases pass s with ⟨l, h⟩ | ⟨l, rest, h, -⟩ <;> rw [h]

@[simp]
lemma now_takeUp : (s.takeUp w).now = s.now := now_runOn

@[simp]
lemma loop_takeUp : (s.takeUp w).loop = s.loop.beginPass s.now := loop_runOn

@[simp]
lemma begun_takeUp : (s.takeUp w).begun = s.begun ++ [s.now] := begun_runOn

/-- A pass asks nodes first. -/
lemma phase_takeUp (w : Watch) (s : Vigil τ) :
    ∃ limit as next, (s.takeUp w).phase = .passing (.probe limit as next) := ⟨_, _, _, rfl⟩

lemma finished_takeUp : (s.takeUp w).finished = s.finished := rfl

/-! ### Every loop -/

/-- The passes that a loop in some phase has under way. -/
def Phase.underWay : Phase τ → Nat
  | passing _ => 1
  | waiting | ended => 0

/-- What holds of every loop at work that can be reached. -/
structure Sound (w : Watch) (s : Vigil τ) : Prop where
  period : s.loop.timer.period = w.interval
  /-- Passes are made one after the other, and none is broken off. -/
  oneByOne : s.begun.length = s.finished.length + s.phase.underWay
  /-- A pass that is under way waits for an answer. -/
  waits : ∀ rest, s.phase = .passing rest → ∃ told next, Answered rest told next
  /-- The next tick comes an interval after the last pass began. -/
  paced : ∀ b ∈ s.begun.getLast?,
    b + w.interval.nanos ≤ s.loop.timer.deadline + Watch.Timer.tolerance.nanos

lemma Sound.start (w : Watch) (now : Instant) (l : Ledger) :
    Sound w (start w now l : Vigil τ) :=
  ⟨rfl, rfl, by simp [Vigil.start], by simp [Vigil.start]⟩

/-- A pass that runs on is under way, or over. -/
lemma Sound.runOn (hperiod : s.loop.timer.period = w.interval)
    (hlength : s.begun.length = s.finished.length + 1)
    (hpaced : ∀ b ∈ s.begun.getLast?,
      b + w.interval.nanos ≤ s.loop.timer.deadline + Watch.Timer.tolerance.nanos)
    (pass : Activity τ Unit) : Sound w (s.runOn pass) := by
  rcases runOn_cases pass s with ⟨l, h⟩ | ⟨l, rest, h, hwaits⟩ <;> rw [h]
  · exact ⟨hperiod, by simpa [Phase.underWay] using hlength, by simp, hpaced⟩
  · refine ⟨hperiod, by simpa [Phase.underWay] using hlength, fun rest' hrest => ?_, hpaced⟩
    cases hrest
    exact hwaits

/-- Every move keeps the invariant. -/
lemma Sound.move (h : Sound w s) (hm : Move w s s') : Sound w s' := by
  cases hm with
  | elapse hle hprompt => exact ⟨h.period, h.oneByOne, h.waits, h.paced⟩
  | others l => exact ⟨h.period, h.oneByOne, h.waits, h.paced⟩
  | cancel => exact ⟨h.period, h.oneByOne, h.waits, h.paced⟩
  | takeUp hphase hbranch =>
      have hlength := h.oneByOne
      rw [hphase, Phase.underWay, Nat.add_zero] at hlength
      refine Sound.runOn ?_ ?_ (fun b hb => ?_) w.notedPass
      · simpa [Watch.Loop.beginPass] using h.period
      · simp [hlength]
      · obtain rfl : s.now = b := by simpa using hb
        rw [← h.period]
        exact Watch.Timer.le_deadline_tick
  | answer hphase hanswer =>
      have hlength := h.oneByOne
      rw [hphase, Phase.underWay] at hlength
      exact Sound.runOn h.period hlength h.paced _
  | close hphase hbranch =>
      have hlength := h.oneByOne
      rw [hphase] at hlength
      exact ⟨h.period, hlength, by simp [Vigil.close], h.paced⟩

lemma Sound.leads (h : Sound w s) (hl : Leads w s s') : Sound w s' := by
  induction hl with
  | refl => exact h
  | tail _ hm ih => exact ih.move hm

lemma Reachable.sound (h : Reachable w s) : Sound w s := by
  obtain ⟨-, now, l, hl⟩ := h
  exact (Sound.start w now l).leads hl

/-! ### A loop that was told to stop -/

/-- The pass that begins with number `k` at a moment begins at once when the one before it is over,
which took an interval or longer, but for what ticks may be handled late. -/
def Overrun (w : Watch) (s : Vigil τ) (k : Nat) (b : Instant) : Prop :=
  ∃ i b₀, k = i + 1 ∧ s.begun[i]? = some b₀ ∧ s.finished[i]? = some b ∧
    b₀ + w.interval.nanos ≤ b + Watch.Timer.tolerance.nanos

/-- The loop waits, and a tick is due. -/
def IsDue (s : Vigil τ) : Prop := s.phase = .waiting ∧ s.loop.timer.deadline ≤ s.now

/-- The pass that begins with number `k` at a moment is one that a loop which was told to stop
begins at once, since its tick is due. -/
def Pending (s : Vigil τ) (k : Nat) (b : Instant) : Prop :=
  s.IsDue ∧ k = s.begun.length ∧ b = s.now

/-- What holds of every loop at work that comes from one that was told to stop. -/
structure Winding (w : Watch) (s s' : Vigil τ) : Prop where
  cancelled : s'.loop.cancelled = true
  begun : s.begun <+: s'.begun
  /-- The passes that begin are those whose ticks were due already. -/
  late : ∀ k b, s.begun.length ≤ k → s'.begun[k]? = some b → Pending s k b ∨ Overrun w s' k b
  /-- A loop that waits does so from the moment on at which it was told to stop, or at which its
  last pass was over. -/
  prompt : s'.phase = .waiting →
    (s'.begun = s.begun ∧ s'.now = s.now ∧ s'.loop.timer = s.loop.timer ∧ s.phase = .waiting) ∨
      s'.finished.getLast? = some s'.now

/-- What is over stays so, and so do overruns. -/
lemma Overrun.mono {k : Nat} {b : Instant} (h : Overrun w s k b) (hbegun : s.begun <+: s'.begun)
    (hfinished : s.finished <+: s'.finished) : Overrun w s' k b := by
  obtain ⟨i, b₀, hk, hb₀, hb, hle⟩ := h
  obtain ⟨later, hbegun⟩ := hbegun
  obtain ⟨later', hfinished⟩ := hfinished
  refine ⟨i, b₀, hk, ?_, ?_, hle⟩
  · rw [← hbegun, List.getElem?_append_left (List.getElem?_eq_some_iff.mp hb₀).1, hb₀]
  · rw [← hfinished, List.getElem?_append_left (List.getElem?_eq_some_iff.mp hb).1, hb]

lemma finished_prefix_runOn : s.finished <+: (s.runOn pass).finished := by
  rcases runOn_cases pass s with ⟨l, h⟩ | ⟨l, rest, h, -⟩ <;> simp [h]

/-- If a pass runs on and the loop waits then, the pass is over now. -/
lemma getLast?_finished_runOn (h : (s.runOn pass).phase = .waiting) :
    (s.runOn pass).finished.getLast? = some s.now := by
  rcases runOn_cases pass s with ⟨l, heq⟩ | ⟨l, rest, heq, -⟩
  · simp [heq]
  · simp [heq] at h

/-- If the last pass of a loop that waits was over just now, and the next tick is due, then the pass
took too long. -/
lemma Sound.overrun (h : Sound w s) (hphase : s.phase = .waiting)
    (hfinished : s.finished.getLast? = some s.now) (hdue : s.loop.timer.deadline ≤ s.now) :
    Overrun w s s.begun.length s.now := by
  have hlength : s.begun.length = s.finished.length := by
    simpa [hphase, Phase.underWay] using h.oneByOne
  have hpos : 0 < s.finished.length := by
    rw [List.length_pos_iff]
    rintro hnil
    simp [hnil] at hfinished
  obtain ⟨b₀, hlast⟩ : ∃ b₀, s.begun.getLast? = some b₀ :=
    ⟨_, List.getLast?_eq_some_getLast (List.ne_nil_of_length_pos (hlength ▸ hpos))⟩
  refine ⟨s.finished.length - 1, b₀, by omega, ?_, ?_, ?_⟩
  · rw [← hlength, ← List.getLast?_eq_getElem?, hlast]
  · rw [← List.getLast?_eq_getElem?, hfinished]
  · calc b₀ + w.interval.nanos
        ≤ s.loop.timer.deadline + Watch.Timer.tolerance.nanos := h.paced b₀ hlast
      _ ≤ s.now + Watch.Timer.tolerance.nanos := Nat.add_le_add_right hdue _

lemma Winding.refl (hc : s.loop.cancelled = true) : Winding w s s := by
  refine ⟨hc, List.prefix_rfl, fun k b hk hb => ?_, fun hphase => Or.inl ⟨rfl, rfl, rfl, hphase⟩⟩
  rw [List.getElem?_eq_none hk] at hb
  cases hb

/-- The pass that a loop takes up after it was told to stop was due already. -/
lemma Winding.takeUp {s₁ : Vigil τ} (hs : Sound w s₁) (h : Winding w s s₁)
    (hphase : s₁.phase = .waiting) (hdue : s₁.loop.timer.deadline ≤ s₁.now) :
    Winding w s (s₁.takeUp w) := by
  have hbegun : s₁.begun <+: (s₁.takeUp w).begun := by
    rw [begun_takeUp]
    exact List.prefix_append _ _
  have hmono : ∀ k b, Overrun w s₁ k b → Overrun w (s₁.takeUp w) k b := by
    intro k b ho
    refine ho.mono hbegun ?_
    rw [finished_takeUp]
  refine ⟨by simpa using h.cancelled, h.begun.trans hbegun, fun k b hk hb => ?_, fun hwaits => ?_⟩
  · rw [begun_takeUp] at hb
    rcases Nat.lt_or_ge k s₁.begun.length with hlt | hge
    · rw [List.getElem?_append_left hlt] at hb
      exact (h.late k b hk hb).imp_right (hmono k b)
    · -- The new pass: nothing happened since the loop was told to stop, or a pass is just over.
      obtain ⟨hk', rfl⟩ : k = s₁.begun.length ∧ s₁.now = b := by
        rw [List.getElem?_append_right hge, List.getElem?_singleton] at hb
        split_ifs at hb with hzero
        exact ⟨by omega, Option.some.inj hb⟩
      subst hk'
      rcases h.prompt hphase with ⟨heq, hnow, htimer, hwaits⟩ | hfinished
      · exact Or.inl ⟨⟨hwaits, by rwa [← hnow, ← htimer]⟩, by rw [heq], hnow⟩
      · exact Or.inr (hmono _ _ (hs.overrun hphase hfinished hdue))
  · obtain ⟨limit, as, next, hphase'⟩ := phase_takeUp w s₁
    rw [hphase'] at hwaits
    cases hwaits

/-- Every move keeps the invariant. -/
lemma Winding.move {s₁ s₂ : Vigil τ} (hs : Sound w s₁) (h : Winding w s s₁)
    (hm : Move w s₁ s₂) : Winding w s s₂ := by
  cases hm with
  | @elapse now hle hprompt =>
      refine ⟨h.cancelled, h.begun, h.late, fun hphase => ?_⟩
      -- A loop that was told to stop can end, and so no time passes while it waits.
      have hnow : now = s₁.now := by
        by_contra hne
        have hnone := hprompt hphase s₁.now le_rfl (lt_of_le_of_ne hle (Ne.symm hne))
        simp [Watch.Loop.branches_eq_nil_iff, h.cancelled] at hnone
      subst hnow
      exact h.prompt hphase
  | others l => exact ⟨h.cancelled, h.begun, h.late, h.prompt⟩
  | cancel => exact ⟨rfl, h.begun, h.late, h.prompt⟩
  | takeUp hphase hbranch =>
      exact h.takeUp hs hphase (Watch.Loop.pass_mem_branches_iff.mp hbranch)
  | answer hphase hanswer =>
      refine ⟨by simpa using h.cancelled, by simpa using h.begun, fun k b hk hb => ?_,
        fun hwaits => Or.inr (by simpa using getLast?_finished_runOn hwaits)⟩
      rw [begun_runOn] at hb
      refine (h.late k b hk hb).imp_right fun ho => ho.mono ?_ finished_prefix_runOn
      rw [begun_runOn]
  | close hphase hbranch => exact ⟨h.cancelled, h.begun, h.late, fun hwaits => by cases hwaits⟩

lemma Winding.leads (hs : Sound w s) (hc : s.loop.cancelled = true) (hl : Leads w s s') :
    Winding w s s' := by
  induction hl with
  | refl => exact Winding.refl hc
  | tail hl hm ih => exact ih.move (hs.leads hl) hm

/-! ### What a loop can do next -/

/-- A pass can be answered until it is over, without delay. -/
lemma exists_leads_over (w : Watch) (a : Activity τ Unit) (l : Ledger) (s : Vigil τ) :
    ∃ l', Leads w (s.after (a.settle l))
      { s with ledger := l', phase := .waiting, finished := s.finished ++ [s.now] } := by
  induction a generalizing l s with
  | done r => exact ⟨l, .refl⟩
  | update f next ih => exact ih l (f l) s
  | probe limit as next ih =>
      let answers : List (Except Failure TopologyView) := as.map fun a => .error (.noAnswer a limit)
      have hanswer : Answered (.probe limit as next) [] (next answers) :=
        .probe answers (List.length_map _)
      obtain ⟨l', hl⟩ := ih answers _ { s with ledger := l, phase := _ }
      exact ⟨l', .head (.answer rfl hanswer) hl⟩
  | gossip limit a next ih =>
      have hanswer : Answered (.gossip limit a next) [] (next (.error (.noAnswer a limit))) :=
        .gossip _
      obtain ⟨l', hl⟩ := ih _ _ { s with ledger := l, phase := _ }
      exact ⟨l', .head (.answer rfl hanswer) hl⟩
  | call node next ih =>
      have hanswer : Answered (.call node next) [.error .noActiveNodes]
        (next (.error .noActiveNodes)) := .call _
      obtain ⟨l', hl⟩ := ih _ _ { s with ledger := l, phase := _ }
      exact ⟨l', .head (.answer rfl hanswer) hl⟩

/-- Then the loop waits, and no other pass has begun. -/
lemma exists_leads_waiting (w : Watch) (a : Activity τ Unit) (l : Ledger) (s : Vigil τ) :
    ∃ s', Leads w (s.after (a.settle l)) s' ∧ s'.phase = .waiting ∧ s'.now = s.now ∧
      s'.loop = s.loop ∧ s'.begun = s.begun := by
  obtain ⟨l', hl⟩ := exists_leads_over w a l s
  exact ⟨_, hl, rfl, rfl, rfl, rfl⟩

/-- A loop begins a pass exactly if it waits and a tick is due. -/
lemma exists_move_begun_iff :
    (∃ s', Move w s s' ∧ s'.begun = s.begun ++ [s.now]) ↔ s.IsDue := by
  constructor
  · rintro ⟨s', hm, hbegun⟩
    cases hm with
    | elapse hle hprompt => simp at hbegun
    | others l => simp at hbegun
    | cancel => simp at hbegun
    | takeUp hphase hbranch => exact ⟨hphase, Watch.Loop.pass_mem_branches_iff.mp hbranch⟩
    | answer hphase hanswer => simp at hbegun
    | close hphase hbranch => simp [Vigil.close] at hbegun
  · rintro ⟨hphase, hdue⟩
    exact ⟨s.takeUp w, .takeUp hphase (Watch.Loop.pass_mem_branches_iff.mpr hdue),
      by simp [Vigil.takeUp]⟩

/-- If the first pass of a loop lasts until after the next tick, the loop can make another one, also
when it is told to stop while the first one is under way. -/
lemma exists_overrun (τ : Type) (hpos : 0 < w.interval.nanos) (l : Ledger) (told later : Instant)
    (htold : w.interval.nanos ≤ told) (hlater : told ≤ later)
    (hlong : 2 * w.interval.nanos ≤ later) :
    ∃ s s' : Vigil τ, Reachable w s ∧ s.loop.cancelled = true ∧ s.now = told ∧ ¬ s.IsDue ∧
      Leads w s s' ∧ s.begun = [w.interval.nanos] ∧ s'.begun = [w.interval.nanos, later] := by
  have hdeadline : (start w 0 l : Vigil τ).loop.timer.deadline = w.interval.nanos := Nat.zero_add _
  -- The first tick comes, and the pass begins.
  let s₁ : Vigil τ := { start w 0 l with now := w.interval.nanos }
  have h₁ : Leads w (start w 0 l) s₁ := .single <| .elapse (Nat.zero_le _) fun _ t _ ht => by
    rw [Watch.Loop.branches_eq_nil_iff, hdeadline]
    exact ⟨rfl, ht⟩
  have h₂ : Leads w (start w 0 l) (s₁.takeUp w) :=
    h₁.tail (.takeUp rfl (Watch.Loop.pass_mem_branches_iff.mpr hdeadline.le))
  have hbegun : (s₁.takeUp w).begun = [w.interval.nanos] := begun_takeUp
  have hnext : (s₁.takeUp w).loop.timer.deadline ≤ later := by
    have hintime : ¬ s₁.loop.timer.deadline + Watch.Timer.tolerance.nanos < s₁.now :=
      Nat.not_lt.mpr ((Nat.le_of_eq hdeadline.symm).trans (Nat.le_add_right _ _))
    rw [loop_takeUp, Watch.Loop.beginPass, Watch.Timer.tick, if_neg hintime]
    calc s₁.loop.timer.deadline + w.interval.nanos = 2 * w.interval.nanos := by
          rw [hdeadline, Nat.two_mul]
      _ ≤ later := hlong
  obtain ⟨limit, as, next, hphase⟩ := phase_takeUp w s₁
  -- It still waits when the loop is told to stop.
  let s : Vigil τ := { s₁.takeUp w with now := told, loop := (s₁.takeUp w).loop.cancel }
  have hs : Leads w (start w 0 l) s := by
    have helapse : Move w (s₁.takeUp w) { s₁.takeUp w with now := told } :=
      .elapse (now_takeUp.trans_le htold) fun hwaits => by simp [hphase] at hwaits
    exact (h₂.tail helapse).tail .cancel
  -- It is over at once when it is answered, and then the second tick is due.
  have hlate : Move w s { s with now := later } := .elapse hlater fun hwaits => by
    simp [s, hphase] at hwaits
  have hanswer : Answered (.probe limit as next) []
      (next (as.map fun a => .error (.noAnswer a limit))) := .probe _ (List.length_map _)
  obtain ⟨s₂, hwaiting, hwaits, hnow, hloop, hbegun'⟩ :=
    exists_leads_waiting w (next _) { s.ledger with now := later } { s with now := later }
  have hdue : s₂.loop.timer.deadline ≤ s₂.now := by
    rw [hloop, hnow]
    exact hnext
  have hlast : Move w s₂ (s₂.takeUp w) :=
    .takeUp hwaits (Watch.Loop.pass_mem_branches_iff.mpr hdue)
  refine ⟨s, s₂.takeUp w, ⟨hpos, 0, l, hs⟩, rfl, rfl, fun h => ?_,
    .head hlate (.head (.answer hphase hanswer) (hwaiting.tail hlast)), hbegun, ?_⟩
  · simp [IsDue, s, hphase] at h
  · rw [begun_takeUp, hbegun', hnow]
    exact congrArg (· ++ [later]) hbegun

/-- **Winding down.** Take any loop at work that was told to stop, and anything that happens then,
with passes that last as long as they like.

* Passes are made one after the other; a pass that is under way can always be finished, and the
  loop has not ended before.
* As soon as no pass is under way, the loop can end. But if the next tick is due, and only then, it
  can as well begin another pass.
* So each pass that begins now begins at once, since its tick was due when the loop was told to
  stop, or it begins at the moment at which the one before it is over, and that one took an
  interval or longer, but for what ticks may be handled late.
* If no tick was due and all passes are shorter than that, no pass begins any more. -/
theorem Reachable.winds_down (h : Reachable w s) (hcancelled : s.loop.cancelled = true)
    (hl : Leads w s s') :
    s'.begun.length = s'.finished.length + s'.phase.underWay ∧
    (∀ rest, s'.phase = .passing rest →
      ∃ s'', Leads w s' s'' ∧ s''.phase = .waiting ∧ s''.begun = s'.begun) ∧
    (s'.phase = .waiting → Move w s' s'.close) ∧
    ((∃ s'', Move w s' s'' ∧ s''.begun = s'.begun ++ [s'.now]) ↔ s'.IsDue) ∧
    s.begun <+: s'.begun ∧
    (∀ k b, s.begun.length ≤ k → s'.begun[k]? = some b → Pending s k b ∨ Overrun w s' k b) ∧
    (¬ s.IsDue → (∀ (k : Nat) b e, s'.begun[k]? = some b → s'.finished[k]? = some e →
      e + Watch.Timer.tolerance.nanos < b + w.interval.nanos) → s'.begun = s.begun) := by
  have hwind : Winding w s s' := .leads h.sound hcancelled hl
  refine ⟨(h.sound.leads hl).oneByOne, fun rest hphase => ?_, fun hphase => ?_,
    exists_move_begun_iff, hwind.begun, hwind.late, fun hdue hshort => ?_⟩
  · obtain ⟨told, next, hanswer⟩ := (h.sound.leads hl).waits rest hphase
    obtain ⟨s'', hl', hwaits, -, -, hbegun⟩ :=
      exists_leads_waiting w next { s'.ledger with now := s'.now } s'
    exact ⟨s'', .head (.answer hphase hanswer) hl', hwaits, hbegun⟩
  · exact .close hphase (Watch.Loop.shutDown_mem_branches_iff.mpr hwind.cancelled)
  · -- If another pass had begun, the one before it would have been too long.
    obtain ⟨new, hnew⟩ := hwind.begun
    cases new with
    | nil => simpa using hnew.symm
    | cons b new =>
        have hb : s'.begun[s.begun.length]? = some b := by simp [← hnew]
        rcases hwind.late _ b le_rfl hb with hpending | ⟨i, b₀, -, hb₀, he, hle⟩
        · exact absurd hpending.1 hdue
        · exact absurd hle (Nat.not_le.mpr (hshort i b₀ b hb₀ he))

/-- A loop with a tick every 100 ms is told to stop at 150 ms, while its first pass waits; the pass
is over at 300 ms, and the next one may begin then, since the one before it took too long. -/
lemma winds_down_overrun :
    let w : Watch := ⟨⟨.ofSeconds 1, true⟩, .ofMillis 100, none⟩
    ∃ s s' : Vigil Unit, Reachable w s ∧ s.loop.cancelled = true ∧ Leads w s s' ∧
      s'.begun.length = s'.finished.length + s'.phase.underWay ∧ ¬ s.IsDue ∧
      s.begun.length = 1 ∧ Overrun w s' 1 300000000 := by
  intro w
  obtain ⟨s, s', hreach, hcancelled, -, hdue, hl, hbegun, hbegun'⟩ :=
    exists_overrun (w := w) Unit (by decide) (.start 0 .first) 150000000 300000000 (by decide)
      (by decide) (by decide)
  obtain ⟨hwhole, -, -, -, -, hlate, -⟩ := hreach.winds_down hcancelled hl
  refine ⟨s, s', hreach, hcancelled, hl, hwhole, hdue, by rw [hbegun]; rfl, ?_⟩
  have hlast : s'.begun[1]? = some 300000000 := by rw [hbegun']; rfl
  rcases hlate 1 _ (by rw [hbegun]; rfl) hlast with hpending | hoverrun
  · exact absurd hpending.1 hdue
  · exact hoverrun

/-- A loop that is told to stop may begin another pass. -/
lemma begins_after_cancel : ¬ ∀ (w : Watch) (s s' : Vigil Unit), Reachable w s →
    s.loop.cancelled = true → Leads w s s' → s'.begun = s.begun := by
  intro hstops
  let w : Watch := ⟨⟨.ofSeconds 1, true⟩, .ofMillis 100, none⟩
  obtain ⟨s, s', hreach, hcancelled, -, -, hl, hbegun, hbegun'⟩ :=
    exists_overrun (w := w) Unit (by decide) (.start 0 .first) 150000000 300000000 (by decide)
      (by decide) (by decide)
  have heq := hstops w s s' hreach hcancelled hl
  rw [hbegun, hbegun'] at heq
  cases heq

end Vigil

end Roster
