import Roster.Proofs.Activity.Run

/-!
# Activities that do not look at listed members

An activity is blind to the members that nodes list if it goes on in the same way whatever they
list. Two runs of such an activity in which nodes tell the same but for the members that they list
cannot be told apart.

* `Activity.Alike`, `Exchange.Alike`: answers and exchanges that differ at most in listed members.
* `Activity.Blind`: an activity that does not look at listed members.
* `Blind.runs`: in a run of a blind activity, listed members can be exchanged.
* `Client.Resembles`: clients whose answers differ at most in listed members.
* `trial`: what comes of an activity with a client that writes down what it is asked;
  `questions` are the questions that it wrote down.
* `Blind.runWith_eq`: nothing else comes of a blind activity with a client that resembles it, and
  nothing else is asked.
-/

namespace Roster

namespace Activity

variable {τ α β σ σ' : Type}

/-- Answers that differ at most in the members that they list. -/
inductive Alike : Except Failure TopologyView → Except Failure TopologyView → Prop
  | failed (f : Failure) : Alike (.error f) (.error f)
  | told (id hash : String) (ms ms' : List Listing) :
      Alike (.ok ⟨id, hash, ms⟩) (.ok ⟨id, hash, ms'⟩)

/-- Exchanges that differ at most in the members that are listed. -/
inductive Exchange.Alike : Exchange τ → Exchange τ → Prop
  | probed (reg : Registry) (asked : List Address)
      {answers answers' : List (Except Failure TopologyView)}
      (h : List.Forall₂ Activity.Alike answers answers') :
      Alike (.probed reg asked answers) (.probed reg asked answers')
  | gossiped (reg : Registry) (peer : Address) (answer : Except Failure GossipView) :
      Alike (.gossiped reg peer answer) (.gossiped reg peer answer)
  | called (reg : Registry) (node : Record) (answer : Except Failure τ) :
      Alike (.called reg node answer) (.called reg node answer)

/-- An activity goes on in the same way whatever members are listed. -/
def Blind : Activity τ α → Prop
  | done _ => True
  | update _ next => ∀ l, Blind (next l)
  | probe _ _ next => (∀ answers, Blind (next answers)) ∧
      ∀ answers answers', List.Forall₂ Alike answers answers' → next answers = next answers'
  | gossip _ _ next => ∀ answer, Blind (next answer)
  | call _ next => ∀ answer, Blind (next answer)

/-! ### One stretch after the other -/

namespace Blind

variable {a : Activity τ α} {k : α → Activity τ β}

lemma bind (h : Blind a) (hk : ∀ r, Blind (k r)) : Blind (a.bind k) := by
  induction a with
  | done r => exact hk r
  | update f next ih => exact fun l => ih l (h l)
  | probe limit as next ih =>
      refine ⟨fun answers => ih answers (h.1 answers), fun answers answers' halike => ?_⟩
      exact congrArg (Activity.bind · k) (h.2 answers answers' halike)
  | gossip limit a next ih => exact fun answer => ih answer (h answer)
  | call node next ih => exact fun answer => ih answer (h answer)

lemma look (f : Ledger → α) : Blind (Activity.look f : Activity τ α) := fun _ => trivial

lemma change (f : Ledger → α × Ledger) : Blind (Activity.change f : Activity τ α) :=
  fun _ => trivial

lemma note (e : Log.Event) : Blind (Activity.note e : Activity τ Unit) := fun _ => trivial

lemma gossipOne (limit : Duration) (a : Address) :
    Blind (Activity.gossipOne limit a : Activity τ (Except Failure GossipView)) := fun _ => trivial

lemma callOne (node : Record) : Blind (Activity.callOne node : Activity τ (Except Failure τ)) :=
  fun _ => trivial

/-- Answers after which the ledger changes in the same way whatever they list. -/
lemma probeAll_bind_change {limit : Duration} {as : List Address}
    {f : List (Except Failure TopologyView) → Ledger → α × Ledger}
    (h : ∀ answers answers', List.Forall₂ Alike answers answers' → f answers = f answers') :
    Blind ((probeAll limit as).bind fun answers => Activity.change (f answers) : Activity τ α) :=
  ⟨fun answers => change (f answers),
    fun answers answers' halike => congrArg Activity.change (h answers answers' halike)⟩

end Blind

/-! ### Two runs -/

/-- In a run of a blind activity the members that are listed can be exchanged: the same is asked in
the same ledgers, and the same comes of it. -/
lemma Blind.runs {others : Ledger → Ledger → Prop} {a : Activity τ α} {l l' : Ledger}
    {t t' : List (Exchange τ)} {r : α} (h : Blind a) (hrun : Runs others a l t r l')
    (halike : List.Forall₂ Exchange.Alike t t') : Runs others a l t' r l' := by
  induction hrun generalizing t' with
  | done r l =>
      cases halike
      exact .done r l
  | update _ ih => exact .update (ih (h _) halike)
  | probe hlength hwait _ ih =>
      obtain ⟨x, t₁', hx, ht, rfl⟩ := List.forall₂_cons_left_iff.mp halike
      cases hx with
      | probed reg asked hanswers =>
          have hrest := ih (h.1 _) ht
          rw [h.2 _ _ hanswers] at hrest
          exact .probe (hanswers.length_eq.symm.trans hlength) hwait hrest
  | gossip hwait _ ih =>
      obtain ⟨x, t₁', hx, ht, rfl⟩ := List.forall₂_cons_left_iff.mp halike
      cases hx with
      | gossiped reg peer answer => exact .gossip hwait (ih (h _) ht)
  | call hwait _ ih =>
      obtain ⟨x, t₁', hx, ht, rfl⟩ := List.forall₂_cons_left_iff.mp halike
      cases hx with
      | called reg node answer => exact .call hwait (ih (h _) ht)

/-! ### Two clients -/

/-- A question to a client. -/
inductive Question
  | probe (limit : Duration) (addresses : List Address)
  | gossip (limit : Duration) (address : Address)
  | call (node : Record)
deriving DecidableEq

namespace Client

/-- A client that writes down what it is asked. -/
def noting (c : Client (StateM σ) τ) : Client (StateM (σ × List Question)) τ where
  probe limit as := do
    let (st, asked) ← get
    let (answers, st) := (c.probe limit as).run st
    set (st, asked ++ [Question.probe limit as])
    return answers
  gossip limit a := do
    let (st, asked) ← get
    let (answer, st) := (c.gossip limit a).run st
    set (st, asked ++ [Question.gossip limit a])
    return answer
  call node := do
    let (st, asked) ← get
    let (answer, st) := (c.call node).run st
    set (st, asked ++ [Question.call node])
    return answer

/-- In related states two clients give answers that differ at most in the members that they list,
and are in related states afterwards. -/
structure Resembles (R : σ → σ' → Prop) (c : Client (StateM σ) τ)
    (c' : Client (StateM σ') τ) : Prop where
  probe : ∀ limit as st st', R st st' →
    List.Forall₂ Alike ((c.probe limit as).run st).1 ((c'.probe limit as).run st').1 ∧
      R ((c.probe limit as).run st).2 ((c'.probe limit as).run st').2
  gossip : ∀ limit a st st', R st st' →
    ((c.gossip limit a).run st).1 = ((c'.gossip limit a).run st').1 ∧
      R ((c.gossip limit a).run st).2 ((c'.gossip limit a).run st').2
  call : ∀ node st st', R st st' →
    ((c.call node).run st).1 = ((c'.call node).run st').1 ∧
      R ((c.call node).run st).2 ((c'.call node).run st').2

end Client

/-- What comes of an activity with a client that has been asked some questions before: the result
and the ledger in the end, and all questions. -/
def trial (c : Client (StateM σ) τ) (a : Activity τ α) (l : Ledger) (st : σ)
    (asked : List Question) : (α × Ledger) × List Question :=
  let x := ((runWith c.noting a).run l).run (st, asked)
  (x.1, x.2.2)

/-- Writing down what is asked makes no difference to the result and the ledger. -/
lemma fst_trial (c : Client (StateM σ) τ) (a : Activity τ α) (l : Ledger) (st : σ)
    (asked : List Question) : (trial c a l st asked).1 = (((runWith c a).run l).run st).1 := by
  induction a generalizing l st asked with
  | done r => rfl
  | update f next ih => exact ih l (f l) st asked
  | probe limit as next ih => exact ih _ l _ _
  | gossip limit a next ih => exact ih _ l _ _
  | call node next ih => exact ih _ l _ _

/-- What is asked in an activity with a client, in this order. -/
def questions (c : Client (StateM σ) τ) (a : Activity τ α) (l : Ledger) (st : σ) :
    List Question :=
  (trial c a l st []).2

/-- With clients that resemble each other a blind activity comes to the same result and the same
ledger, and asks the same. -/
lemma Blind.trial_eq {R : σ → σ' → Prop} {c : Client (StateM σ) τ} {c' : Client (StateM σ') τ}
    {a : Activity τ α} (h : Blind a) (hc : Client.Resembles R c c') (l : Ledger) {st : σ} {st' : σ'}
    (hst : R st st') (asked : List Question) : trial c a l st asked = trial c' a l st' asked := by
  induction a generalizing l st st' asked with
  | done r => rfl
  | update f next ih => exact ih l (h l) (f l) hst asked
  | probe limit as next ih =>
      obtain ⟨hanswers, hst⟩ := hc.probe limit as st st' hst
      calc trial c (next ((c.probe limit as).run st).1) l ((c.probe limit as).run st).2
            (asked ++ [.probe limit as])
          = trial c' (next ((c.probe limit as).run st).1) l ((c'.probe limit as).run st').2
            (asked ++ [.probe limit as]) := ih _ (h.1 _) l hst _
        _ = trial c' (next ((c'.probe limit as).run st').1) l ((c'.probe limit as).run st').2
            (asked ++ [.probe limit as]) := by rw [h.2 _ _ hanswers]
  | gossip limit a next ih =>
      obtain ⟨hanswer, hst⟩ := hc.gossip limit a st st' hst
      calc trial c (next ((c.gossip limit a).run st).1) l ((c.gossip limit a).run st).2
            (asked ++ [.gossip limit a])
          = trial c' (next ((c.gossip limit a).run st).1) l ((c'.gossip limit a).run st').2
            (asked ++ [.gossip limit a]) := ih _ (h _) l hst _
        _ = trial c' (next ((c'.gossip limit a).run st').1) l ((c'.gossip limit a).run st').2
            (asked ++ [.gossip limit a]) := by rw [hanswer]
  | call node next ih =>
      obtain ⟨hanswer, hst⟩ := hc.call node st st' hst
      calc trial c (next ((c.call node).run st).1) l ((c.call node).run st).2
            (asked ++ [.call node])
          = trial c' (next ((c.call node).run st).1) l ((c'.call node).run st').2
            (asked ++ [.call node]) := ih _ (h _) l hst _
        _ = trial c' (next ((c'.call node).run st').1) l ((c'.call node).run st').2
            (asked ++ [.call node]) := by rw [hanswer]

/-- The same, with the clients as they are. -/
lemma Blind.runWith_eq {R : σ → σ' → Prop} {c : Client (StateM σ) τ} {c' : Client (StateM σ') τ}
    {a : Activity τ α} (h : Blind a) (hc : Client.Resembles R c c') (l : Ledger) {st : σ} {st' : σ'}
    (hst : R st st') :
    (((runWith c a).run l).run st).1 = (((runWith c' a).run l).run st').1 ∧
      questions c a l st = questions c' a l st' := by
  have hsame := h.trial_eq hc l hst []
  refine ⟨?_, congrArg Prod.snd hsame⟩
  rw [← fst_trial c a l st [], ← fst_trial c' a l st' [], hsame]

end Activity

end Roster
