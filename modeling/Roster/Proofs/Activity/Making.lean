import Roster.Proofs.Activity.Run
import Roster.Proofs.Registry.Deeds

/-!
# What an activity does to the registry

Which changes an activity makes may depend on what it was told before, and others may do to the
ledger what they like while it waits.

* `Activity.Makes`: an activity makes only changes that it may make after what it was told.
* `Activity.Told`: how an activity goes on when it is told something.
* `Makes.settle`, `Makes.told`: one stretch, and what is told after it.
-/

namespace Roster

namespace Activity

open Registry

variable {τ α β : Type}

/-- From a ledger on, and after some exchanges, an activity makes only changes that it may make
after the exchanges that it has had. While it waits, the ledger may become any other one. -/
def Makes (may : List (Exchange τ) → Change → Prop) :
    Activity τ α → List (Exchange τ) → Ledger → Prop
  | done _, _, _ => True
  | update f next, t, l => Via (may t) l.registry (f l).registry ∧ Makes may (next l) t (f l)
  | probe _ as next, t, l => ∀ answers, answers.length = as.length →
      ∀ l', Makes may (next answers) (t ++ [.probed l.registry as answers]) l'
  | gossip _ a next, t, l => ∀ answer l',
      Makes may (next answer) (t ++ [.gossiped l.registry a answer]) l'
  | call node next, t, l => ∀ answer l',
      Makes may (next answer) (t ++ [.called l.registry node answer]) l'

variable {may : List (Exchange τ) → Change → Prop} {a a' : Activity τ α} {t : List (Exchange τ)}
  {l : Ledger}

/-- One stretch: the changes that the activity makes, and what it may make afterwards. -/
lemma Makes.settle (h : Makes may a t l) :
    Via (may t) l.registry (a.settle l).1.registry ∧
      Makes may (a.settle l).2 t (a.settle l).1 := by
  induction a generalizing l with
  | done r => exact ⟨Via.refl _, h⟩
  | update f next ih =>
      obtain ⟨hstep, hrest⟩ := ih l h.2
      exact ⟨h.1.trans hstep, hrest⟩
  | probe limit as next _ => exact ⟨Via.refl _, h⟩
  | gossip limit a next _ => exact ⟨Via.refl _, h⟩
  | call node next _ => exact ⟨Via.refl _, h⟩

/-- How an activity that began to wait with a registry goes on, and the exchange that it has had
then. -/
inductive Told (reg : Registry) : Activity τ α → Exchange τ → Activity τ α → Prop
  | probe {limit : Duration} {as : List Address}
      {next : List (Except Failure TopologyView) → Activity τ α}
      (answers : List (Except Failure TopologyView)) (hlength : answers.length = as.length) :
      Told reg (.probe limit as next) (.probed reg as answers) (next answers)
  | gossip {limit : Duration} {a : Address} {next : Except Failure GossipView → Activity τ α}
      (answer : Except Failure GossipView) :
      Told reg (.gossip limit a next) (.gossiped reg a answer) (next answer)
  | call {node : Record} {next : Except Failure τ → Activity τ α} (answer : Except Failure τ) :
      Told reg (.call node next) (.called reg node answer) (next answer)

/-- Whatever it is told, and whatever the ledger is then. -/
lemma Makes.told {x : Exchange τ} (h : Makes may a t l) (hx : Told l.registry a x a')
    (l' : Ledger) : Makes may a' (t ++ [x]) l' := by
  cases hx with
  | probe answers hlength => exact h answers hlength l'
  | gossip answer => exact h answer l'
  | call answer => exact h answer l'

/-! ### One stretch after the other -/

variable {k : β → Activity τ α}

lemma makes_look_bind {f : Ledger → β} (h : Makes may (k (f l)) t l) :
    Makes may ((look f).bind k) t l := ⟨Via.refl _, h⟩

lemma makes_note_bind {e : Log.Event} {k : Unit → Activity τ α}
    (h : Makes may (k ()) t (l.note e)) : Makes may ((note e).bind k) t l := ⟨Via.refl _, h⟩

lemma makes_change_bind {f : Ledger → β × Ledger} (hstep : Via (may t) l.registry (f l).2.registry)
    (h : Makes may (k (f l).1) t (f l).2) : Makes may ((change f).bind k) t l := ⟨hstep, h⟩

end Activity

end Roster
