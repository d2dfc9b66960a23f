import Mathlib.Data.Set.Finite.Lemmas
import Mathlib.Logic.Relation
import Roster.Proofs.Activity.Run

/-!
# Calls that are waited for together

When nodes are asked together, each call ends by itself, at the moment of its answer or at its
deadline, and in whatever order these moments come. The activity goes on when the last call has
ended, with the answers in the order of the questions. Time is told by the ledger, and never passes
over the end of a call.

* `Timetable`: what the calls of a round are answered, and after which time; `Timetable.outcomes`: how
  they end, in the order in which they are made.
* `Moment`, `Step`, `Leads`: the state of an activity, one thing that may happen next, and all that
  may happen.
* `Underway`: what holds during a round; `Underway.step`: every step within a round keeps it, or ends
  the round with its outcomes; `Underway.leads_goOn`: the round can end.
* `punctual`: an activity that asks nodes once waits for all calls, and ends with what comes of their
  outcomes.
-/

namespace Roster

namespace Reply

variable {α : Type}

/-- What becomes of a reply: it comes within the limit, or the limit is over before it comes. -/
lemma within_cases (limit : Duration) (a : Address) (r : Reply α) :
    (∃ d, r.after = some d ∧ d.nanos ≤ limit.nanos ∧ r.within limit a = (r.answer, d)) ∨
      (∀ d, r.after = some d → limit.nanos < d.nanos) ∧
        r.within limit a = (.error (.noAnswer a limit), limit) := by
  cases hr : r.after with
  | none => exact Or.inr ⟨by simp, by simp only [within, hr]⟩
  | some d =>
      by_cases hd : d.nanos ≤ limit.nanos
      · exact Or.inl ⟨d, rfl, hd, within_of_le hr hd⟩
      · refine Or.inr ⟨?_, by simp only [within, hr, if_neg hd]⟩
        rintro _ ⟨rfl⟩
        exact Nat.lt_of_not_le hd

/-- A reply is waited for until it comes, and no longer than the limit. -/
lemma le_within_iff {limit : Duration} {a : Address} {r : Reply α} {n b : ℕ} :
    n ≤ b + (r.within limit a).2.nanos ↔
      n ≤ b + limit.nanos ∧ ∀ d, r.after = some d → n ≤ b + d.nanos := by
  obtain ⟨d, hr, hd, heq⟩ | ⟨hlate, heq⟩ := r.within_cases limit a
  · rw [heq]
    refine ⟨fun h => ⟨h.trans (Nat.add_le_add_left hd b), ?_⟩, fun h => h.2 d hr⟩
    intro d' hd'
    obtain rfl : d = d' := Option.some.inj (hr.symm.trans hd')
    exact h
  · rw [heq]
    exact ⟨fun h => ⟨h, fun d hd => h.trans (Nat.add_le_add_left (hlate d hd).le b)⟩, fun h => h.1⟩

end Reply

/-- A round lasts until the last of its calls ends. -/
lemma Round.lasts_le_iff {α : Type} {limit : Duration} {replies : List (Address × Reply α)} {n : ℕ} :
    (Round.ofReplies limit replies).lasts.nanos ≤ n ↔
      ∀ x ∈ replies, (x.2.within limit x.1).2.nanos ≤ n := by
  have hfold : ∀ (ns : List ℕ) (b : ℕ), ns.foldl max b ≤ n ↔ b ≤ n ∧ ∀ x ∈ ns, x ≤ n := by
    intro ns
    induction ns with
    | nil => simp
    | cons x ns ih =>
        intro b
        rw [List.foldl_cons, ih, max_le_iff, List.forall_mem_cons, and_assoc]
  rw [ofReplies, hfold, List.forall_mem_map, List.forall_mem_map]
  exact and_iff_right n.zero_le

namespace Activity

variable {τ α : Type}

/-! ### What may happen -/

/-- What the calls of a round are answered, and after which time; a call is known by its place in the
round and its address. Without a time the answer never comes. -/
structure Timetable where
  delay : ℕ → Address → Option Duration
  answer : ℕ → Address → Except Failure TopologyView

/-- The calls of a round, with the replies that will come. -/
def Timetable.replies (s : Timetable) (as : List Address) : List (Address × Reply TopologyView) :=
  as.mapIdx fun i a => (a, ⟨s.delay i a, s.answer i a⟩)

/-- What becomes of a round. -/
def Timetable.round (s : Timetable) (limit : Duration) (as : List Address) : Round TopologyView :=
  .ofReplies limit (s.replies as)

/-- Whether an answer comes until the deadline. -/
def Timetable.inTime (s : Timetable) (limit : Duration) (i : ℕ) (a : Address) : Bool :=
  (s.delay i a).any fun d => d.nanos ≤ limit.nanos

/-- How the calls of a round end, in the order in which they are made: with an answer that comes until
the deadline, and otherwise as a call that took too long. -/
def Timetable.outcomes (s : Timetable) (limit : Duration) (as : List Address) :
    List (Except Failure TopologyView) :=
  as.mapIdx fun i a =>
    if s.inTime limit i a then s.answer i a
    else .error (.unreachable a.text s!"no answer within {limit.text}" true)

lemma Timetable.answers_round (s : Timetable) (limit : Duration) (as : List Address) :
    (s.round limit as).answers = s.outcomes limit as := by
  refine List.ext_getElem? fun i => ?_
  simp only [round, Round.ofReplies, replies, outcomes, List.getElem?_map, List.getElem?_mapIdx,
    Option.map_map]
  refine congrArg (fun f => Option.map f as[i]?) (funext fun a => ?_)
  rw [Function.comp_apply, Function.comp_apply, Reply.within, inTime]
  cases hd : s.delay i a with
  | none => rfl
  | some d =>
      by_cases hin : d.nanos ≤ limit.nanos
      · simp [hin]
      · simp [hin, Failure.noAnswer]

/-- The same calls are answered until the deadline, and in the same way. -/
def Timetable.Alike (s s' : Timetable) (limit : Duration) (as : List Address) : Prop :=
  ∀ i a, as[i]? = some a → s'.inTime limit i a = s.inTime limit i a ∧
    (s.inTime limit i a = true → s'.answer i a = s.answer i a)

lemma Timetable.Alike.outcomes_eq {s s' : Timetable} {limit : Duration} {as : List Address}
    (h : s.Alike s' limit as) : s'.outcomes limit as = s.outcomes limit as := by
  refine List.ext_getElem? fun i => ?_
  rw [outcomes, outcomes, List.getElem?_mapIdx, List.getElem?_mapIdx]
  refine Option.map_congr fun a ha => ?_
  obtain ⟨hin, hanswer⟩ := h i a ha
  rw [hin]
  split_ifs with hi
  · exact hanswer hi
  · rfl

/-- A call, with the reply that will come, and how it ended if it has. -/
structure Call where
  address : Address
  reply : Reply TopologyView
  outcome : Option (Except Failure TopologyView)

/-- What an activity is doing. -/
inductive Phase (τ α : Type)
  /-- It is about to do this. -/
  | running (a : Activity τ α)
  /-- It waits for calls, each of which may take some time from the moment at which all began. -/
  | waiting (limit : Duration) (began : Instant) (calls : List Call)
      (next : List (Except Failure TopologyView) → Activity τ α)

/-- The state of an activity and of the ledger. -/
structure Moment (τ α : Type) where
  ledger : Ledger
  phase : Phase τ α

/-- What may happen next. -/
inductive Step (s : Timetable) : Moment τ α → Moment τ α → Prop
  /-- The activity changes the ledger. -/
  | update {l} (f : Ledger → Ledger) (next : Ledger → Activity τ α) :
      Step s ⟨l, .running (.update f next)⟩ ⟨f l, .running (next l)⟩
  /-- It calls nodes, all at once. -/
  | ask {l limit as next} : Step s ⟨l, .running (.probe limit as next)⟩
      ⟨l, .waiting limit l.now ((s.replies as).map fun x => ⟨x.1, x.2, none⟩) next⟩
  /-- The answer to a call comes; at the deadline it still counts. -/
  | answer {l limit began before c after next} {d : Duration} (hopen : c.outcome = none)
      (hreply : c.reply.after = some d) (hdue : began + d.nanos ≤ l.now) :
      Step s ⟨l, .waiting limit began (before ++ c :: after) next⟩
        ⟨l, .waiting limit began
          (before ++ { c with outcome := some c.reply.answer } :: after) next⟩
  /-- The deadline of a call is over, and its answer has not come. -/
  | expire {l limit began before c after next} (hopen : c.outcome = none)
      (hlate : ∀ d : Duration, c.reply.after = some d → l.now < began + d.nanos)
      (hdue : began + limit.nanos ≤ l.now) :
      Step s ⟨l, .waiting limit began (before ++ c :: after) next⟩
        ⟨l, .waiting limit began
          (before ++ { c with outcome := some (.error (.noAnswer c.address limit)) } :: after) next⟩
  /-- Time passes while calls are waited for, but not beyond the answer or the deadline of any. -/
  | elapse {l limit began calls next} (n : ℕ) (hopen : ∃ c ∈ calls, c.outcome = none)
      (hlimit : l.now + n ≤ began + limit.nanos)
      (hdue : ∀ c ∈ calls, c.outcome = none → ∀ d : Duration, c.reply.after = some d →
        l.now + n ≤ began + d.nanos) :
      Step s ⟨l, .waiting limit began calls next⟩
        ⟨{ l with now := l.now + n }, .waiting limit began calls next⟩
  /-- All calls have ended, and the activity goes on with how they did. -/
  | goOn {l limit began calls next answers} (hall : calls.map Call.outcome = answers.map some) :
      Step s ⟨l, .waiting limit began calls next⟩ ⟨l, .running (next answers)⟩

/-- What may happen, one thing after the other. -/
def Leads (s : Timetable) : Moment τ α → Moment τ α → Prop := Relation.ReflTransGen (Step s)

/-- The ledger in the end of a round. -/
def Timetable.afterRound (s : Timetable) (limit : Duration) (as : List Address) (l : Ledger) :
    Ledger :=
  { l with now := l.now + (s.round limit as).lasts.nanos }

variable {s : Timetable} {l l₀ l' : Ledger} {limit : Duration} {as : List Address}
  {calls : List Call} {next : List (Except Failure TopologyView) → Activity τ α} {m m' : Moment τ α}

/-! ### During a round -/

/-- A call that is still open has not reached its end, and one that has ended did so as
`Reply.within` says. -/
def Call.Sound (limit : Duration) (began now : Instant) (c : Call) : Prop :=
  (c.outcome = none ∧ now ≤ began + (c.reply.within limit c.address).2.nanos) ∨
    (c.outcome = some (c.reply.within limit c.address).1 ∧
      began + (c.reply.within limit c.address).2.nanos ≤ now)

/-- What holds while some calls are waited for that began with a ledger `l₀`. -/
structure Underway (s : Timetable) (limit : Duration) (as : List Address) (l₀ : Ledger)
    (calls : List Call) (l : Ledger) : Prop where
  /-- These calls are the ones of the round, in its order. -/
  replies : calls.map (fun c => (c.address, c.reply)) = s.replies as
  sound : ∀ c ∈ calls, c.Sound limit l₀.now l.now
  /-- Nothing but time has passed. -/
  ledger : l = { l₀ with now := l.now }
  began : l₀.now ≤ l.now
  lasts : l.now ≤ l₀.now + (s.round limit as).lasts.nanos

namespace Underway

lemma start (s : Timetable) (limit : Duration) (as : List Address) (l : Ledger) :
    Underway s limit as l ((s.replies as).map fun x => ⟨x.1, x.2, none⟩) l where
  replies := by
    rw [List.map_map]
    exact List.map_id _
  sound := by
    intro c hc
    obtain ⟨x, -, rfl⟩ := List.mem_map.mp hc
    exact Or.inl ⟨rfl, Nat.le_add_right _ _⟩
  ledger := rfl
  began := le_rfl
  lasts := Nat.le_add_right _ _

/-- The addresses that are called. -/
lemma map_address (h : Underway s limit as l₀ calls l) : calls.map Call.address = as := by
  have haddress : calls.map Call.address = (s.replies as).map Prod.fst := by
    rw [← h.replies, List.map_map]
    rfl
  rw [haddress, Timetable.replies]
  exact List.ext_getElem? fun i => by simp [Function.comp_def]

/-- A call ends before its round does. -/
lemma ends_le (h : Underway s limit as l₀ calls l) {c : Call} (hc : c ∈ calls) :
    (c.reply.within limit c.address).2.nanos ≤ (s.round limit as).lasts.nanos := by
  have hmem : (c.address, c.reply) ∈ s.replies as := h.replies ▸ List.mem_map_of_mem hc
  exact Round.lasts_le_iff.mp le_rfl _ hmem

/-- The outcomes of the round are how its calls end. -/
lemma outcomes_eq (h : Underway s limit as l₀ calls l) :
    s.outcomes limit as = calls.map fun c => (c.reply.within limit c.address).1 := by
  rw [← s.answers_round, Timetable.round, Round.ofReplies, ← h.replies, List.map_map, List.map_map]
  rfl

/-- One call of a round ends as it does. -/
lemma told {before after : List Call} {c : Call}
    (h : Underway s limit as l₀ (before ++ c :: after) l) {x : Except Failure TopologyView}
    (hx : x = (c.reply.within limit c.address).1)
    (hdue : l₀.now + (c.reply.within limit c.address).2.nanos ≤ l.now) :
    Underway s limit as l₀ (before ++ { c with outcome := some x } :: after) l where
  replies := by
    rw [← h.replies, List.map_append, List.map_append, List.map_cons, List.map_cons]
  sound := by
    intro c' hc'
    rcases List.mem_append.mp hc' with hc' | hc'
    · exact h.sound c' (List.mem_append_left _ hc')
    · rcases List.mem_cons.mp hc' with rfl | hc'
      · exact Or.inr ⟨congrArg some hx, hdue⟩
      · exact h.sound c' (List.mem_append_right _ (List.mem_cons_of_mem _ hc'))
  ledger := h.ledger
  began := h.began
  lasts := h.lasts

/-- When all calls have ended, the round has lasted until now, and these are its answers. -/
lemma finished (h : Underway s limit as l₀ calls l) (hall : ∀ c ∈ calls, c.outcome ≠ none) :
    l = s.afterRound limit as l₀ ∧
      calls.map Call.outcome = (s.outcomes limit as).map some := by
  have hended : ∀ c ∈ calls, c.outcome = some (c.reply.within limit c.address).1 ∧
      l₀.now + (c.reply.within limit c.address).2.nanos ≤ l.now :=
    fun c hc => (h.sound c hc).resolve_left fun hopen => hall c hc hopen.1
  have hlasts : (s.round limit as).lasts.nanos ≤ l.now - l₀.now := by
    refine Round.lasts_le_iff.mpr fun x hx => ?_
    rw [← h.replies] at hx
    obtain ⟨c, hc, rfl⟩ := List.mem_map.mp hx
    exact Nat.le_sub_of_add_le' (hended c hc).2
  have hnow : l.now = l₀.now + (s.round limit as).lasts.nanos :=
    le_antisymm h.lasts (Nat.add_le_of_le_sub' h.began hlasts)
  refine ⟨h.ledger.trans (by rw [hnow, Timetable.afterRound]), ?_⟩
  rw [h.outcomes_eq, List.map_map]
  exact List.map_congr_left fun c hc => (hended c hc).1

/-- Time passes, but no call that is open comes to its end before. -/
lemma elapsed (h : Underway s limit as l₀ calls l) {n : ℕ} (hopen : ∃ c ∈ calls, c.outcome = none)
    (hdue : ∀ c ∈ calls, c.outcome = none →
      l.now + n ≤ l₀.now + (c.reply.within limit c.address).2.nanos) :
    Underway s limit as l₀ calls { l with now := l.now + n } where
  replies := h.replies
  sound := by
    intro c hc
    rcases h.sound c hc with ⟨hnone, -⟩ | ⟨hsome, hend⟩
    · exact Or.inl ⟨hnone, hdue c hc hnone⟩
    · exact Or.inr ⟨hsome, hend.trans (Nat.le_add_right _ _)⟩
  ledger := by
    rw [h.ledger]
  began := h.began.trans (Nat.le_add_right _ _)
  lasts := by
    obtain ⟨c, hc, hnone⟩ := hopen
    exact (hdue c hc hnone).trans (Nat.add_le_add_left (h.ends_le hc) _)

/-- Whatever happens within a round, it goes on, or it ends with its answers, after its time. -/
lemma step (h : Underway s limit as l₀ calls l)
    (hstep : Step s ⟨l, .waiting limit l₀.now calls next⟩ m) :
    (∃ calls' l', m = ⟨l', .waiting limit l₀.now calls' next⟩ ∧
        Underway s limit as l₀ calls' l') ∨
      m = ⟨s.afterRound limit as l₀, .running (next (s.outcomes limit as))⟩ := by
  cases hstep with
  | @answer _ _ _ before c after _ d hopen hreply hdue =>
      -- The answer came before the deadline, since the call has not reached its end.
      have hnow := Reply.le_within_iff.mp ((h.sound c (by simp)).resolve_right (by simp [hopen])).2
      have hin : d.nanos ≤ limit.nanos := Nat.le_of_add_le_add_left (hdue.trans hnow.1)
      have hends := Reply.within_of_le (a := c.address) hreply hin
      exact Or.inl ⟨_, _, rfl, h.told (by rw [hends]) (by rwa [hends])⟩
  | @expire _ _ _ before c after _ hopen hlate hdue =>
      have hends : c.reply.within limit c.address = (.error (.noAnswer c.address limit), limit) := by
        obtain ⟨d, hd, hin, -⟩ | ⟨-, heq⟩ := c.reply.within_cases limit c.address
        · exact absurd (hdue.trans_lt (hlate d hd)) (Nat.not_lt.mpr (Nat.add_le_add_left hin _))
        · exact heq
      exact Or.inl ⟨_, _, rfl, h.told (by rw [hends]) (by rwa [hends])⟩
  | elapse n hopen hlimit hdue =>
      exact Or.inl ⟨_, _, rfl, h.elapsed hopen fun c hc hnone =>
        Reply.le_within_iff.mpr ⟨hlimit, hdue c hc hnone⟩⟩
  | @goOn _ _ _ _ _ answers hall =>
      have hnone : ∀ c ∈ calls, c.outcome ≠ none := by
        intro c hc hopen
        have hmem : c.outcome ∈ answers.map some := hall ▸ List.mem_map_of_mem hc
        simp [hopen] at hmem
      obtain ⟨rfl, hanswers⟩ := h.finished hnone
      have heq : answers = s.outcomes limit as :=
        List.map_injective_iff.mpr (Option.some_injective _) (hall.symm.trans hanswers)
      exact Or.inr (by rw [heq])

/-- All that can happen from some moment of a round on. -/
lemma leads_cases (h : Underway s limit as l₀ calls l)
    (hl : Leads s ⟨l, .waiting limit l₀.now calls next⟩ m) :
    (∃ calls' l', m = ⟨l', .waiting limit l₀.now calls' next⟩ ∧
        Underway s limit as l₀ calls' l') ∨
      Leads s ⟨s.afterRound limit as l₀, .running (next (s.outcomes limit as))⟩ m := by
  generalize hm : (⟨l, .waiting limit l₀.now calls next⟩ : Moment τ α) = m₀ at hl
  induction hl using Relation.ReflTransGen.head_induction_on generalizing calls l with
  | refl => exact Or.inl ⟨calls, l, hm.symm, h⟩
  | head hstep hrest ih =>
      subst hm
      obtain ⟨calls', l', rfl, h'⟩ | rfl := h.step hstep
      · exact ih h' rfl
      · exact Or.inr hrest

/-! ### The end of a round -/

/-- Time can pass until an open call comes to its end. -/
lemma leads_due (h : Underway s limit as l₀ calls l) (hopen : ∃ c ∈ calls, c.outcome = none)
    (next : List (Except Failure TopologyView) → Activity τ α) :
    ∃ l', Leads s ⟨l, .waiting limit l₀.now calls next⟩ ⟨l', .waiting limit l₀.now calls next⟩ ∧
      Underway s limit as l₀ calls l' ∧ ∃ c ∈ calls, c.outcome = none ∧
        l₀.now + (c.reply.within limit c.address).2.nanos ≤ l'.now := by
  have hfinite : {c | c ∈ calls ∧ c.outcome = none}.Finite :=
    calls.finite_toSet.subset fun c hc => hc.1
  obtain ⟨c, ⟨hc, hnone⟩, hfirst⟩ := Set.exists_min_image _
    (fun c : Call => (c.reply.within limit c.address).2.nanos) hfinite hopen
  have hnow := ((h.sound c hc).resolve_right (by simp [hnone])).2
  obtain ⟨n, hn⟩ := Nat.exists_eq_add_of_le hnow
  have hdue : ∀ c ∈ calls, c.outcome = none →
      l.now + n ≤ l₀.now + (c.reply.within limit c.address).2.nanos := by
    intro c' hc' hnone'
    rw [← hn]
    exact Nat.add_le_add_left (hfirst c' ⟨hc', hnone'⟩) _
  refine ⟨{ l with now := l.now + n }, .single (.elapse n hopen ?_ ?_), h.elapsed hopen hdue, c, hc,
    hnone, hn.le⟩
  · exact (Reply.le_within_iff.mp (hdue c hc hnone)).1
  · exact fun c hc hnone => (Reply.le_within_iff.mp (hdue c hc hnone)).2

/-- An open call that has come to its end can end. -/
lemma step_told {before after : List Call} {c : Call}
    (h : Underway s limit as l₀ (before ++ c :: after) l) (hopen : c.outcome = none)
    (hdue : l₀.now + (c.reply.within limit c.address).2.nanos ≤ l.now)
    (next : List (Except Failure TopologyView) → Activity τ α) :
    Step s ⟨l, .waiting limit l₀.now (before ++ c :: after) next⟩
      ⟨l, .waiting limit l₀.now (before ++
        { c with outcome := some (c.reply.within limit c.address).1 } :: after) next⟩ := by
  obtain ⟨d, hd, -, hends⟩ | ⟨hlate, hends⟩ := c.reply.within_cases limit c.address
  · rw [hends] at hdue ⊢
    exact .answer hopen hd hdue
  · have hnow := Reply.le_within_iff.mp ((h.sound c (by simp)).resolve_right (by simp [hopen])).2
    rw [hends] at hdue ⊢
    exact .expire hopen (fun d hd => hnow.1.trans_lt (Nat.add_lt_add_left (hlate d hd) _)) hdue

/-- From every moment of a round on, it can come to its end. -/
lemma leads_goOn (h : Underway s limit as l₀ calls l)
    (next : List (Except Failure TopologyView) → Activity τ α) :
    Leads s ⟨l, .waiting limit l₀.now calls next⟩
      ⟨s.afterRound limit as l₀, .running (next (s.outcomes limit as))⟩ := by
  -- By induction on the number of calls that are open.
  induction hn : calls.countP (fun c => c.outcome.isNone) generalizing calls l with
  | zero =>
      have hnone : ∀ c ∈ calls, c.outcome ≠ none := by
        simpa [List.countP_eq_zero] using hn
      obtain ⟨rfl, hanswers⟩ := h.finished hnone
      exact .single (.goOn hanswers)
  | succ n ih =>
      have hopen : ∃ c ∈ calls, c.outcome = none := by
        obtain ⟨c, hc, hnone⟩ := List.countP_pos_iff.mp (n.succ_pos.trans_eq hn.symm)
        exact ⟨c, hc, Option.isNone_iff_eq_none.mp hnone⟩
      obtain ⟨l', hlead, h', c, hc, hnone, hdue⟩ := h.leads_due hopen next
      obtain ⟨before, after, rfl⟩ := List.append_of_mem hc
      refine hlead.trans (.head (h'.step_told hnone hdue next) (ih (h'.told rfl hdue) ?_))
      simp only [List.countP_append, List.countP_cons, hnone, Option.isNone_none, if_true] at hn
      simp only [List.countP_append, List.countP_cons, Option.isNone_some, Bool.false_eq_true,
        if_false]
      omega

end Underway

/-! ### An activity that asks nodes once -/

lemma leads_settle (s : Timetable) (a : Activity τ α) (l : Ledger) :
    Leads s ⟨l, .running a⟩ ⟨(a.settle l).1, .running (a.settle l).2⟩ := by
  induction a generalizing l with
  | update f next ih => exact .head (.update f next) (ih l (f l))
  | done _ | probe _ _ _ _ | gossip _ _ _ _ | call _ _ _ => exact .refl

/-- An activity that is about to do something changes the ledger until it waits or is over. -/
lemma leads_running_cases {a : Activity τ α} (hl : Leads s ⟨l, .running a⟩ m) :
    (∃ l' a', m = ⟨l', .running a'⟩ ∧ Leads s m ⟨(a.settle l).1, .running (a.settle l).2⟩) ∨
      Leads s ⟨(a.settle l).1, .running (a.settle l).2⟩ m := by
  induction a generalizing l with
  | update f next ih =>
      rcases hl.cases_head with rfl | ⟨m₁, hstep, hrest⟩
      · exact Or.inl ⟨l, _, rfl, leads_settle s _ l⟩
      · cases hstep with
        | update => exact ih l hrest
  | done _ | probe _ _ _ _ | gossip _ _ _ _ | call _ _ _ => exact Or.inr hl

/-- What is over stays as it is. -/
lemma eq_of_leads_done {r : α} (hl : Leads s ⟨l, .running (.done r)⟩ m) :
    m = ⟨l, .running (.done r)⟩ := by
  rcases hl.cases_head with h | ⟨m₁, hstep, -⟩
  · exact h.symm
  · cases hstep

/-- Where an activity can be that begins with questions. -/
lemma leads_probe_cases (hl : Leads s ⟨l, .running (.probe limit as next)⟩ m) :
    m = ⟨l, .running (.probe limit as next)⟩ ∨
      (∃ calls l', m = ⟨l', .waiting limit l.now calls next⟩ ∧ Underway s limit as l calls l') ∨
      Leads s ⟨s.afterRound limit as l, .running (next (s.outcomes limit as))⟩ m := by
  rcases hl.cases_head with h | ⟨m₁, hstep, hrest⟩
  · exact Or.inl h.symm
  · cases hstep with
    | ask => exact Or.inr ((Underway.start s limit as l).leads_cases hrest)

lemma leads_round (s : Timetable) (l : Ledger) (limit : Duration) (as : List Address)
    (next : List (Except Failure TopologyView) → Activity τ α) :
    Leads s ⟨l, .running (.probe limit as next)⟩
      ⟨s.afterRound limit as l, .running (next (s.outcomes limit as))⟩ :=
  .head .ask ((Underway.start s limit as l).leads_goOn next)

/-- An activity, from a ledger on, that asks some nodes once, with the ledger `l₀`, and then does at
one stretch what `take` makes of the answers. -/
structure Punctual (s : Timetable) (a : Activity τ α) (l l₀ : Ledger) (limit : Duration)
    (as : List Address)
    (take : List (Except Failure TopologyView) → Ledger → α × Ledger) : Prop where
  /-- Whatever has happened so far, the activity can come to its end. -/
  completes : ∀ m, Leads s ⟨l, .running a⟩ m → ∃ r l', Leads s m ⟨l', .running (.done r)⟩
  /-- In whatever order the calls end, it ends with what comes of the answers in the order of the
  questions, once the last call has ended. -/
  ends : ∀ r l', Leads s ⟨l, .running a⟩ ⟨l', .running (.done r)⟩ →
    (r, l') = take (s.outcomes limit as) (s.afterRound limit as l₀)
  /-- As long as calls are waited for, they are those of the round, and nothing but time has passed
  since they began. -/
  waits : ∀ l' limit' began calls next,
    Leads s ⟨l, .running a⟩ ⟨l', .waiting limit' began calls next⟩ →
    limit' = limit ∧ calls.map Call.address = as ∧ l' = { l₀ with now := l'.now }

section Once

variable {a : Activity τ α} {take : List (Except Failure TopologyView) → Ledger → α × Ledger}
  (hfirst : a.settle l = (l₀, .probe limit as next))
  (hlast : ∀ answers l, (next answers).settle l = ((take answers l).2, .done (take answers l).1))

include hfirst hlast

/-- Where an activity can be that asks nodes once, before its round, within it or after it: its end
can be reached from there. -/
lemma leads_once_cases (hm : Leads s ⟨l, .running a⟩ m) :
    Leads s m ⟨(take (s.outcomes limit as) (s.afterRound limit as l₀)).2,
        .running (.done (take (s.outcomes limit as) (s.afterRound limit as l₀)).1)⟩ ∧
      ((∃ l' a', m = ⟨l', .running a'⟩) ∨ ∃ calls l',
        m = ⟨l', .waiting limit l₀.now calls next⟩ ∧ Underway s limit as l₀ calls l') := by
  have hround := leads_round s l₀ limit as next
  have hend := leads_settle s (next (s.outcomes limit as)) (s.afterRound limit as l₀)
  rw [hlast] at hend
  obtain ⟨l', a', rfl, hbefore⟩ | hm := leads_running_cases hm
  · rw [hfirst] at hbefore
    exact ⟨hbefore.trans (hround.trans hend), Or.inl ⟨l', a', rfl⟩⟩
  rw [hfirst] at hm
  obtain rfl | ⟨calls, l', rfl, hunder⟩ | hm := leads_probe_cases hm
  · exact ⟨hround.trans hend, Or.inl ⟨_, _, rfl⟩⟩
  · exact ⟨(hunder.leads_goOn next).trans hend, Or.inr ⟨calls, l', rfl, hunder⟩⟩
  obtain ⟨l', a', rfl, hafter⟩ | hm := leads_running_cases hm
  · rw [hlast] at hafter
    exact ⟨hafter, Or.inl ⟨l', a', rfl⟩⟩
  · rw [hlast] at hm
    obtain rfl := eq_of_leads_done hm
    exact ⟨.refl, Or.inl ⟨_, _, rfl⟩⟩

/-- All that can happen of an activity that asks nodes once. -/
lemma punctual : Punctual s a l l₀ limit as take where
  completes _ hm := ⟨_, _, (leads_once_cases hfirst hlast hm).1⟩
  ends := by
    intro r l' hm
    obtain ⟨hl, hphase⟩ :=
      Moment.mk.inj (eq_of_leads_done (leads_once_cases hfirst hlast hm).1)
    exact Prod.ext (Activity.done.inj (Phase.running.inj hphase)).symm hl.symm
  waits := by
    intro l' limit' began calls next' hm
    obtain ⟨-, ⟨l₂, a', heq⟩ | ⟨calls', l₂, heq, hunder⟩⟩ := leads_once_cases hfirst hlast hm
    · exact absurd heq (by simp)
    · obtain ⟨rfl, hphase⟩ := Moment.mk.inj heq
      obtain ⟨rfl, -, rfl, -⟩ := Phase.waiting.inj hphase
      exact ⟨rfl, hunder.map_address, hunder.ledger⟩

end Once

end Activity

end Roster
