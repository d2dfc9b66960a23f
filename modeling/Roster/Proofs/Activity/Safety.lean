import Mathlib.Tactic.Lemma
import Roster.Activity
import Roster.Proofs.Registry.Reachable

/-!
# Activities among others

An activity relies on the others to change the registry in an orderly way while it waits, and
promises the same of its own changes. What it knows of the registry when it begins to wait has to
hold of every registry that orderly changes may lead to.

* `Activity.Safe`: an activity makes orderly changes only, and what it yields in the end fits the
  answers of the nodes that it called.
* `Safe.mono`: the changes that others make do not matter.
* `Safe.settle`: what one stretch of a safe activity does.
* `Activity.Answered`: how an activity goes on when it is answered.
-/

namespace Roster

namespace Activity

open Registry

variable {τ α β : Type}

/-- From a registry on, an activity makes orderly changes only, as long as all others do, and what
it yields has a property together with the answers to its calls, of which it has heard some. -/
def Safe (post : List (Except Failure τ) → α → Prop) :
    Activity τ α → List (Except Failure τ) → Registry → Prop
  | done r, heard, _ => post heard r
  | update f next, heard, reg => ∀ l : Ledger, l.registry.Orderly → LeadsTo reg l.registry →
      LeadsTo l.registry (f l).registry ∧ Safe post (next l) heard (f l).registry
  | probe _ as next, heard, reg => ∀ answers, answers.length = as.length →
      Safe post (next answers) heard reg
  | gossip _ _ next, heard, reg => ∀ answer, Safe post (next answer) heard reg
  | call _ next, heard, reg => ∀ answer, Safe post (next answer) (heard ++ [answer]) reg

variable {post : List (Except Failure τ) → α → Prop} {heard : List (Except Failure τ)}
  {reg reg' : Registry} {a : Activity τ α}

/-- Orderly changes of others keep an activity safe. -/
lemma Safe.mono (h : Safe post a heard reg) (hlead : LeadsTo reg reg') :
    Safe post a heard reg' := by
  induction a generalizing heard with
  | done r => exact h
  | update f next ih => exact fun l ho hl => h l ho (hlead.trans hl)
  | probe limit as next ih => exact fun answers hlength => ih answers (h answers hlength)
  | gossip limit a next ih => exact fun answer => ih answer (h answer)
  | call node next ih => exact fun answer => ih answer (h answer)

/-- One stretch of a safe activity: its changes are orderly, and the rest of it is safe. -/
lemma Safe.settle {l : Ledger} (h : Safe post a heard reg) (ho : l.registry.Orderly)
    (hlead : LeadsTo reg l.registry) :
    LeadsTo l.registry (a.settle l).1.registry ∧
      Safe post (a.settle l).2 heard (a.settle l).1.registry := by
  induction a generalizing l reg with
  | done r => exact ⟨LeadsTo.refl _, h⟩
  | update f next ih =>
      obtain ⟨hstep, hnext⟩ := h l ho hlead
      obtain ⟨hrest, hsafe⟩ := ih l hnext (hstep.orderly ho) (LeadsTo.refl _)
      exact ⟨hstep.trans hrest, hsafe⟩
  | probe limit as next _ => exact ⟨LeadsTo.refl _, h.mono hlead⟩
  | gossip limit a next _ => exact ⟨LeadsTo.refl _, h.mono hlead⟩
  | call node next _ => exact ⟨LeadsTo.refl _, h.mono hlead⟩

/-! ### Answers -/

/-- How an activity that waits goes on when it is answered, and the answers of called nodes that
it hears. -/
inductive Answered : Activity τ α → List (Except Failure τ) → Activity τ α → Prop
  | probe {limit : Duration} {as : List Address}
      {next : List (Except Failure TopologyView) → Activity τ α}
      (answers : List (Except Failure TopologyView)) (hlength : answers.length = as.length) :
      Answered (.probe limit as next) [] (next answers)
  | gossip {limit : Duration} {a : Address} {next : Except Failure GossipView → Activity τ α}
      (answer : Except Failure GossipView) : Answered (.gossip limit a next) [] (next answer)
  | call {node : Record} {next : Except Failure τ → Activity τ α} (answer : Except Failure τ) :
      Answered (.call node next) [answer] (next answer)

/-- Whatever it is answered, a safe activity goes on safely. -/
lemma Safe.answered {told : List (Except Failure τ)} {a' : Activity τ α}
    (h : Safe post a heard reg) (ha : Answered a told a') : Safe post a' (heard ++ told) reg := by
  cases ha with
  | probe answers hlength => simpa using h answers hlength
  | gossip answer => simpa using h answer
  | call answer => exact h answer

/-! ### One stretch after the other -/

variable {k : β → Activity τ α}

lemma safe_look_bind {f : Ledger → β}
    (h : ∀ l : Ledger, l.registry.Orderly → LeadsTo reg l.registry →
      Safe post (k (f l)) heard l.registry) :
    Safe post ((look f).bind k) heard reg := fun l ho hl => ⟨LeadsTo.refl _, h l ho hl⟩

lemma safe_note_bind {e : Log.Event} {k : Unit → Activity τ α}
    (h : ∀ reg', LeadsTo reg reg' → Safe post (k ()) heard reg') :
    Safe post ((note e).bind k) heard reg := fun _ _ hl => ⟨LeadsTo.refl _, h _ hl⟩

lemma safe_change_bind {f : Ledger → β × Ledger}
    (h : ∀ l : Ledger, l.registry.Orderly → LeadsTo reg l.registry →
      LeadsTo l.registry (f l).2.registry ∧ Safe post (k (f l).1) heard (f l).2.registry) :
    Safe post ((change f).bind k) heard reg := h

end Activity

end Roster
