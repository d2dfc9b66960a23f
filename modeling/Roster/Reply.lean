import Roster.Address.Basic
import Roster.Duration
import Roster.Failure

/-!
# Replies and the time that they take

A reply is an answer and the time after which it comes, or no answer at all.

* `Reply.within` is what becomes of a reply if one waits for a limited time: an answer that
  comes in time counts, also at the last moment, and otherwise there is a failure when the time
  is over.
* `Round` is what becomes of several replies that are waited for together.
-/

namespace Roster

/-- An answer and the time after which it comes; without a time it never comes. -/
structure Reply (α : Type) where
  after : Option Duration
  answer : Except Failure α

/-- What is wrong if a node gave no answer for some time. -/
def Failure.noAnswer (a : Address) (limit : Duration) : Failure :=
  .unreachable a.text s!"no answer within {limit.text}" true

namespace Reply

variable {α : Type}

/-- What is known after waiting for at most `limit`, and after which time it is known. -/
def within (limit : Duration) (a : Address) (r : Reply α) : Except Failure α × Duration :=
  match r.after with
  | some d => if d.nanos ≤ limit.nanos then (r.answer, d) else (.error (.noAnswer a limit), limit)
  | none => (.error (.noAnswer a limit), limit)

theorem within_of_le {limit d : Duration} {a : Address} {r : Reply α} (h : r.after = some d)
    (hd : d.nanos ≤ limit.nanos) : r.within limit a = (r.answer, d) := by
  simp [within, h, hd]

/-- No reply is waited for longer than the limit. -/
theorem within_le (limit : Duration) (a : Address) (r : Reply α) :
    (r.within limit a).2.nanos ≤ limit.nanos := by
  unfold within
  split
  · split
    · assumption
    · exact Nat.le_refl _
  · exact Nat.le_refl _

end Reply

/-- What becomes of replies that are waited for together: the answers in the order of the
questions, and the time after which the last one is known. -/
structure Round (α : Type) where
  answers : List (Except Failure α)
  lasts : Duration

namespace Round

variable {α : Type}

/-- The round of some questions, each of which is waited for at most `limit`. -/
def ofReplies (limit : Duration) (replies : List (Address × Reply α)) : Round α :=
  let known := replies.map fun (a, r) => r.within limit a
  ⟨known.map Prod.fst, ⟨(known.map fun k => k.2.nanos).foldl max 0⟩⟩

end Round

end Roster
