import Roster.Proofs.Address.Segments
import Roster.Proofs.Http.Exchanges

/-!
# A question in two requests

Both questions that nodes are asked over HTTP are of one kind: the state of the node is asked for,
and then, unless it settles the matter, a list. Whatever the outcomes of the two requests are, a
failure speaks against the node: it is unreachable if it could not be asked or an answer did not
arrive, and it broke the protocol if an answer arrived that cannot be used.

* `Outcome.timedOut`, `Outcome.Tells`, `Outcome.Unusable`: what an outcome is to the one who asked.
* `Inquiry`: a question of this kind. `Inquiry.Course` is every way in which it can turn out.
* `Fair`: a failure speaks against the node that was asked, and says whether the time was over.
* `Spoilt`: an answer arrived that broke the protocol.
* `Inquiry.ends_of_course`: what comes of a question, whatever the course was.
* `Inquiry.ok_of_course`: what an answer that is no failure is put together from.
-/

namespace Roster

/-- The text of the address of the node that a failure speaks against. -/
def Failure.address? : Failure → Option String
  | unreachable address _ _ => some address
  | protocol address _ => some address
  | _ => none

namespace Http

open Exchange
open Address hiding Fault
open Json (Fault)

variable {α β γ : Type} {read : List Char → Except Fault α} {node url url' : Address}
  {o o' : Outcome} {s : NodeState} {t t' : List (Address × Outcome)}

/-! ### What an outcome is -/

namespace Outcome

/-- Whether the time was over, before there was an answer or before all of it had arrived. The body
of an answer is not waited for if its status is that of an error. -/
def timedOut : Outcome → Bool
  | silence timedOut => timedOut
  | answer status _ body => decide (¬(400 ≤ status ∧ status < 600) ∧ body = .late)

/-- An answer can be read, and this is what it tells. -/
inductive Tells (read : List Char → Except Fault α) : Outcome → α → Prop
  | whole {status : Nat} {reason : String} {bytes : List UInt8} {a : α}
      (hstatus : ¬(400 ≤ status ∧ status < 600)) (h : readBody read bytes = some a) :
      Tells read (.answer status reason (.whole bytes)) a

/-- An answer arrived that cannot be used: its status is that of an error, it was cut off, or it is
not what was asked for. -/
inductive Unusable (read : List Char → Except Fault α) : Outcome → Prop
  | status {status : Nat} {reason : String} {body : Body} (h : 400 ≤ status ∧ status < 600) :
      Unusable read (.answer status reason body)
  | cut {status : Nat} {reason : String} : Unusable read (.answer status reason .cut)
  | unreadable {status : Nat} {reason : String} {bytes : List UInt8}
      (h : readBody read bytes = none) : Unusable read (.answer status reason (.whole bytes))

lemma Tells.not_timedOut {a : α} (h : o.Tells read a) : o.timedOut = false := by
  cases h
  simp [timedOut]

lemma received_eq_ok_iff {a : α} : received read node url o = .ok a ↔ o.Tells read a := by
  constructor
  · intro h
    unfold received at h
    split at h
    · cases h
    · split_ifs at h with hstatus
      split at h
      · cases h
      · cases h
      · split at h
        · next hbody =>
          cases h
          exact .whole hstatus hbody
        · cases h
  · rintro ⟨hstatus, hbody⟩
    simp [received, hstatus, hbody]

/-- A node that gave no answer in time is unreachable, and one whose answer cannot be used broke the
protocol. -/
lemma received_eq_error {f : Failure} (h : received read node url o = .error f) :
    o.Unusable read ∧ o.timedOut = false ∧ (∃ reason, f = .protocol node.text reason) ∨
    ¬o.Unusable read ∧ ∃ reason, f = .unreachable node.text reason o.timedOut := by
  unfold received at h
  split at h
  · cases h
    exact Or.inr ⟨nofun, _, rfl⟩
  · split_ifs at h with hstatus
    · cases h
      exact Or.inl ⟨.status hstatus, by simp [timedOut, hstatus], _, rfl⟩
    · split at h
      · cases h
        exact Or.inl ⟨.cut, by simp [timedOut], _, rfl⟩
      · cases h
        refine Or.inr ⟨?_, _, by simp [timedOut, hstatus]; rfl⟩
        rintro ⟨hin⟩
        exact hstatus hin
      · split at h
        · cases h
        · next hbody =>
          cases h
          exact Or.inl ⟨.unreadable hbody, by simp [timedOut], _, rfl⟩

lemma Tells.not_unusable {a : α} (h : o.Tells read a) : ¬o.Unusable read := by
  rintro hunusable
  obtain ⟨hstatus, hbody⟩ := h
  cases hunusable with
  | status hin => exact hstatus hin
  | unreadable hnone =>
      rw [hbody] at hnone
      cases hnone

lemma Tells.unique {a b : α} (h : o.Tells read a) (h' : o.Tells read b) : a = b := by
  cases h with
  | whole hstatus hbody =>
      cases h' with
      | whole hstatus' hbody' =>
          rw [hbody] at hbody'
          exact Option.some.inj hbody'

end Outcome

open Outcome

/-! ### The course of a question -/

/-- Once a node was asked, it can be asked for whatever has an address that is short enough. -/
lemma isRequest_of_add? {segments segments' : List String} (h : node.add? segments = some url)
    (h' : node.add? segments' = some url') (hrequest : isRequest url = true) :
    isRequest url' = fits url' := by
  rw [isRequest, Bool.and_eq_true, scheme_of_add? h, hostText?_of_add? h] at hrequest
  rw [isRequest, scheme_of_add? h', hostText?_of_add? h', hrequest.1, Bool.true_and]

/-- A question for the state of a node, which may settle the matter, and then for a list. -/
structure Inquiry (α γ β : Type) where
  /-- What comes of the question if the state of the node settles it. -/
  settled : NodeState → Option (Except Failure β)
  /-- Where the list is. -/
  segments : NodeState → List String
  read : List Char → Except Fault (List α)
  /-- What a line of the list says. -/
  line : α → Except Failure γ
  view : NodeState → List γ → β

namespace Inquiry

variable {q : Inquiry α γ β} {r : Except Failure β}

/-- The exchange with a node that is asked. -/
def exchange (q : Inquiry α γ β) (node : Address) : Exchange (Except Failure β) :=
  (getJson node ["state"] readState).bind fun
    | .error f => .done (.error f)
    | .ok s =>
      match q.settled s with
      | some r => .done r
      | none => (getJson node (q.segments s) q.read).bind fun lines =>
          .done (lines.bind fun xs => (xs.mapM q.line).map (q.view s))

/-- The ways in which an inquiry can turn out. -/
inductive Course (q : Inquiry α γ β) (node : Address) :
    List (Address × Outcome) → Except Failure β → Prop
  /-- The node cannot be asked. -/
  | unasked {reason : String} : Course q node [] (.error (.unreachable node.text reason false))
  /-- The node does not tell its state. -/
  | stateless {url : Address} {o : Outcome} {f : Failure} (hurl : node.add? ["state"] = some url)
      (h : received readState node url o = .error f) : Course q node [(url, o)] (.error f)
  /-- The state of the node settles the matter. -/
  | settled {url : Address} {o : Outcome} {s : NodeState} {r : Except Failure β}
      (hurl : node.add? ["state"] = some url) (h : o.Tells readState s)
      (hr : q.settled s = some r) : Course q node [(url, o)] r
  /-- The node cannot be asked for the list, since the address of the list is too long. -/
  | unlisted {url url' : Address} {o : Outcome} {s : NodeState}
      (hurl : node.add? ["state"] = some url) (h : o.Tells readState s)
      (hnone : q.settled s = none) (hurl' : node.add? (q.segments s) = some url')
      (hlong : fits url' = false) : Course q node [(url, o)] (.error (notMade node url'))
  /-- The node does not tell the list. -/
  | listless {url url' : Address} {o o' : Outcome} {s : NodeState} {f : Failure}
      (hurl : node.add? ["state"] = some url) (h : o.Tells readState s)
      (hnone : q.settled s = none) (hurl' : node.add? (q.segments s) = some url')
      (hfits : fits url' = true) (h' : received q.read node url' o' = .error f) :
      Course q node [(url, o), (url', o')] (.error f)
  /-- The node tells the list. -/
  | told {url url' : Address} {o o' : Outcome} {s : NodeState} {xs : List α}
      (hurl : node.add? ["state"] = some url) (h : o.Tells readState s)
      (hnone : q.settled s = none) (hurl' : node.add? (q.segments s) = some url')
      (hfits : fits url' = true) (h' : o'.Tells q.read xs) :
      Course q node [(url, o), (url', o')] ((xs.mapM q.line).map (q.view s))

/-- Every run of an inquiry is one of these. -/
lemma course_of_yields (hpath : ∃ ps, node.path = .segments ps) (h : Yields (q.exchange node) t r) :
    q.Course node t r := by
  have hadd : ∀ segments, node.add? segments ≠ none := by
    obtain ⟨ps, hps⟩ := hpath
    intro segments hnone
    obtain ⟨ps', hsome⟩ := exists_add? hps segments
    rw [hnone] at hsome
    cases hsome
  obtain ⟨t₁, t₂, state, rfl, hstate, hrest⟩ := yields_bind_iff.mp h
  rcases yields_getJson_iff.mp hstate with
    ⟨rfl, ⟨hnone, -⟩ | ⟨url, -, -, rfl⟩⟩ | ⟨url, o, hurl, hrequest, rfl, rfl⟩
  · exact absurd hnone (hadd _)
  · obtain ⟨rfl, rfl⟩ := yields_done_iff.mp hrest
    exact .unasked
  · cases hreceived : received readState node url o with
    | error f =>
        rw [hreceived] at hrest
        obtain ⟨rfl, rfl⟩ := yields_done_iff.mp hrest
        exact .stateless hurl hreceived
    | ok s =>
        have htells := received_eq_ok_iff.mp hreceived
        rw [hreceived] at hrest
        dsimp only at hrest
        cases hsettled : q.settled s with
        | some result =>
            rw [hsettled] at hrest
            obtain ⟨rfl, rfl⟩ := yields_done_iff.mp hrest
            exact .settled hurl htells hsettled
        | none =>
            rw [hsettled] at hrest
            obtain ⟨lines, hlines, rfl⟩ := yields_bind_done_iff.mp hrest
            -- The node was asked for its state, so only the length of the address counts.
            rcases yields_getJson_iff.mp hlines with
              ⟨rfl, ⟨hnone, -⟩ | ⟨url', hurl', hrequest', rfl⟩⟩ |
                ⟨url', o', hurl', hrequest', rfl, rfl⟩
            · exact absurd hnone (hadd _)
            · rw [isRequest_of_add? hurl hurl' hrequest] at hrequest'
              exact .unlisted hurl htells hsettled hurl' hrequest'
            · rw [isRequest_of_add? hurl hurl' hrequest] at hrequest'
              cases hreceived' : received q.read node url' o' with
              | error f => exact .listless hurl htells hsettled hurl' hrequest' hreceived'
              | ok xs =>
                  exact .told hurl htells hsettled hurl' hrequest' (received_eq_ok_iff.mp hreceived')

end Inquiry

/-! ### Failures that speak against a node -/

/-- A failure speaks against the node that was asked, and says whether the time was over for some
request to it. -/
structure Fair (node : Address) (t : List (Address × Outcome)) (r : Except Failure β) : Prop where
  blames : ∀ f, r = .error f → f.isNodeFailure = true ∧ f.address? = some node.text
  late : (∃ f, r = .error f ∧ f.isTimeout = true) ↔ ∃ x ∈ t, x.2.timedOut = true

/-- An answer arrived that broke the protocol: it is unusable, or the state of the node is one that
is refused, or there is something wrong with a line of the list. -/
inductive Spoilt (refused : NodeState → Prop) (read : List Char → Except Fault (List α))
    (wrong : α → Prop) : List (Address × Outcome) → Prop
  | state {url : Address} {o : Outcome} (h : o.Unusable readState) :
      Spoilt refused read wrong [(url, o)]
  | refused {url : Address} {o : Outcome} {s : NodeState} (h : o.Tells readState s)
      (hs : refused s) : Spoilt refused read wrong [(url, o)]
  | list {url url' : Address} {o o' : Outcome} {s : NodeState} (h : o.Tells readState s)
      (h' : o'.Unusable read) : Spoilt refused read wrong [(url, o), (url', o')]
  | line {url url' : Address} {o o' : Outcome} {s : NodeState} {xs : List α} {x : α}
      (h : o.Tells readState s) (h' : o'.Tells read xs) (hx : x ∈ xs) (hwrong : wrong x) :
      Spoilt refused read wrong [(url, o), (url', o')]

/-- What is asked of a node: nothing, or its state, and perhaps a list that its state names. -/
inductive Asks (node : Address) (segments : NodeState → List String) :
    List (Address × Outcome) → Prop
  | nothing : Asks node segments []
  | state {url : Address} {o : Outcome} (hurl : node.add? ["state"] = some url) :
      Asks node segments [(url, o)]
  | list {url url' : Address} {o o' : Outcome} {s : NodeState}
      (hurl : node.add? ["state"] = some url) (h : o.Tells readState s)
      (hurl' : node.add? (segments s) = some url') :
      Asks node segments [(url, o), (url', o')]

/-- What comes of a question: a failure is fair, and it says that the protocol was broken exactly if
this is what happened. -/
structure Ends (node : Address) (segments : NodeState → List String) (refused : NodeState → Prop)
    (read : List Char → Except Fault (List α)) (wrong : α → Prop) (t : List (Address × Outcome))
    (r : Except Failure β) : Prop extends Fair node t r where
  asks : Asks node segments t
  spoilt : (∃ reason, r = .error (.protocol node.text reason)) ↔ Spoilt refused read wrong t

lemma fair_protocol {f : Failure} (h : ∃ reason, f = .protocol node.text reason)
    (ht : ∀ x ∈ t, x.2.timedOut = false) : Fair node t (.error f : Except Failure β) := by
  obtain ⟨reason, rfl⟩ := h
  refine ⟨fun f hf => ?_, ?_⟩
  · cases hf
    exact ⟨rfl, rfl⟩
  · simp only [Except.error.injEq, exists_eq_left', Failure.isTimeout]
    simpa using ht

lemma fair_ok {v : β} (ht : ∀ x ∈ t, x.2.timedOut = false) :
    Fair node t (.ok v : Except Failure β) := by
  refine ⟨nofun, ?_⟩
  simpa using ht

/-- The failure of the last request is fair, if the time was not over before. -/
lemma fair_received {f : Failure} (h : received read node url o = .error f)
    (ht : ∀ x ∈ t, x.2.timedOut = false) :
    Fair node (t ++ [(url, o)]) (.error f : Except Failure β) := by
  rcases received_eq_error h with ⟨-, hlate, hf⟩ | ⟨-, reason, rfl⟩
  · refine fair_protocol hf fun x hx => ?_
    rcases List.mem_append.mp hx with hx | hx
    · exact ht x hx
    · rwa [List.mem_singleton.mp hx]
  · refine ⟨fun f hf => ?_, ?_⟩
    · cases hf
      exact ⟨rfl, rfl⟩
    · simp only [Except.error.injEq, exists_eq_left', Failure.isTimeout, List.mem_append,
        List.mem_singleton]
      constructor
      · exact fun hlate => ⟨_, Or.inr rfl, hlate⟩
      · rintro ⟨x, hx | rfl, hlate⟩
        · rw [ht x hx] at hlate
          cases hlate
        · exact hlate

lemma protocol_iff_unusable {f : Failure} (h : received read node url o = .error f) :
    (∃ reason, (.error f : Except Failure β) = .error (.protocol node.text reason)) ↔
      o.Unusable read := by
  rcases received_eq_error h with ⟨hunusable, -, reason, rfl⟩ | ⟨husable, reason, rfl⟩
  · exact iff_of_true ⟨reason, rfl⟩ hunusable
  · refine iff_of_false ?_ husable
    rintro ⟨_, heq⟩
    cases heq

section Spoilt

variable {refused : NodeState → Prop} {wrong : α → Prop}
  {read : List Char → Except Fault (List α)}

lemma not_spoilt_nil : ¬Spoilt refused read wrong [] := nofun

lemma spoilt_singleton_iff : Spoilt refused read wrong [(url, o)] ↔
    o.Unusable readState ∨ ∃ s, o.Tells readState s ∧ refused s := by
  constructor
  · intro h
    cases h with
    | state h => exact Or.inl h
    | refused h hs => exact Or.inr ⟨_, h, hs⟩
  · rintro (h | ⟨s, h, hs⟩)
    · exact .state h
    · exact .refused h hs

lemma spoilt_pair_iff (h : o.Tells readState s) : Spoilt refused read wrong [(url, o), (url', o')] ↔
    o'.Unusable read ∨ ∃ xs, o'.Tells read xs ∧ ∃ x ∈ xs, wrong x := by
  constructor
  · intro h
    cases h with
    | list _ h' => exact Or.inl h'
    | line _ h' hx hwrong => exact Or.inr ⟨_, h', _, hx, hwrong⟩
  · rintro (h' | ⟨xs, h', x, hx, hwrong⟩)
    · exact .list h h'
    · exact .line h h' hx hwrong

end Spoilt

namespace Inquiry

variable {q : Inquiry α γ β} {r : Except Failure β} {refused : NodeState → Prop} {wrong : α → Prop}

/-- What is wrong with the state of a node or with a line of a list breaks the protocol, and these
are the states and the lines with which something is wrong. -/
structure Honest (q : Inquiry α γ β) (node : Address) (refused : NodeState → Prop)
    (wrong : α → Prop) : Prop where
  settled : ∀ s f, q.settled s = some (.error f) → ∃ reason, f = .protocol node.text reason
  refused_iff : ∀ s, refused s ↔ ∃ f, q.settled s = some (.error f)
  line : ∀ x f, q.line x = .error f → ∃ reason, f = .protocol node.text reason
  wrong_iff : ∀ x, wrong x ↔ ∃ f, q.line x = .error f

lemma asks_of_course (h : q.Course node t r) : Asks node q.segments t := by
  cases h with
  | unasked => exact .nothing
  | stateless hurl h => exact .state hurl
  | settled hurl h hr => exact .state hurl
  | unlisted hurl h hnone hurl' hlong => exact .state hurl
  | listless hurl h hnone hurl' hfits h' => exact .list hurl h hurl'
  | told hurl h hnone hurl' hfits h' => exact .list hurl h hurl'

/-- A list is asked for unless the state of the node settles the matter or the address of the list
is too long; and then this is what is wrong. -/
lemma list_asked_iff (h : q.Course node ((url, o) :: t') r) (hs : o.Tells readState s)
    (hurl' : node.add? (q.segments s) = some url') :
    (t' ≠ [] ↔ q.settled s = none ∧ fits url' = true) ∧
      (q.settled s = none → fits url' = false → r = .error (notMade node url')) := by
  cases h with
  | stateless hurl h =>
      rw [received_eq_ok_iff.mpr hs] at h
      cases h
  | settled hurl h hr =>
      rw [hs.unique h]
      simp [hr]
  | unlisted hurl h hnone hurl₁ hlong =>
      obtain rfl := hs.unique h
      obtain rfl := Option.some.inj (hurl₁.symm.trans hurl')
      simp [hlong]
  | listless hurl h hnone hurl₁ hfits h' =>
      obtain rfl := hs.unique h
      obtain rfl := Option.some.inj (hurl₁.symm.trans hurl')
      simp [hnone, hfits]
  | told hurl h hnone hurl₁ hfits h' =>
      obtain rfl := hs.unique h
      obtain rfl := Option.some.inj (hurl₁.symm.trans hurl')
      simp [hnone, hfits]

/-- What comes of the lines of a list. -/
lemma concluded_cases (xs : List α) (s : NodeState) :
    (∃ x ∈ xs, ∃ f, q.line x = .error f ∧ (xs.mapM q.line).map (q.view s) = .error f) ∨
    ∃ ys, List.Forall₂ (fun x y => q.line x = .ok y) xs ys ∧
      (xs.mapM q.line).map (q.view s) = .ok (q.view s ys) := by
  cases h : xs.mapM q.line with
  | error f =>
      obtain ⟨x, hx, hline⟩ := exists_of_mapM_eq_error h
      exact Or.inl ⟨x, hx, f, hline, rfl⟩
  | ok ys => exact Or.inr ⟨ys, mapM_eq_ok_iff.mp h, rfl⟩

/-- An answer that is no failure comes from the state of the node alone, or from all lines of the
list. -/
lemma ok_of_course {v : β} (h : q.Course node t (.ok v)) :
    (∃ url o s, t = [(url, o)] ∧ o.Tells readState s ∧ q.settled s = some (.ok v)) ∨
    ∃ url o url' o' s xs ys, t = [(url, o), (url', o')] ∧ o.Tells readState s ∧
      o'.Tells q.read xs ∧ List.Forall₂ (fun x y => q.line x = .ok y) xs ys ∧ v = q.view s ys := by
  generalize hr : (.ok v : Except Failure β) = r at h
  cases h with
  | unasked => cases hr
  | stateless => cases hr
  | @settled url o s r hurl h hsettled =>
      subst hr
      exact Or.inl ⟨url, o, s, rfl, h, hsettled⟩
  | unlisted => cases hr
  | listless => cases hr
  | @told url url' o o' s xs hurl h hnone hurl' hfits h' =>
      rcases concluded_cases xs s with ⟨x, -, f, -, heq⟩ | ⟨ys, hys, heq⟩ <;> rw [heq] at hr <;>
        cases hr
      exact Or.inr ⟨url, o, url', o', s, xs, ys, rfl, h, h', hys, rfl⟩

lemma fair_of_course (hq : q.Honest node refused wrong) (h : q.Course node t r) :
    Fair node t r := by
  cases h with
  | unasked =>
      refine ⟨fun f hf => ?_, ?_⟩
      · cases hf
        exact ⟨rfl, rfl⟩
      · simp [Failure.isTimeout]
  | stateless hurl h => exact fair_received (t := []) h (by simp)
  | @settled url o s r hurl h hr =>
      have ht : ∀ x ∈ [(url, o)], x.2.timedOut = false := by simpa using h.not_timedOut
      cases r with
      | error f => exact fair_protocol (hq.settled s f hr) ht
      | ok v => exact fair_ok ht
  | @unlisted url url' o s hurl h hnone hurl' hlong =>
      refine ⟨fun f hf => ?_, ?_⟩
      · cases hf
        exact ⟨rfl, rfl⟩
      · simp [notMade, Failure.isTimeout, h.not_timedOut]
  | @listless url _ o _ s f hurl h hnone hurl' hfits h' =>
      exact fair_received (t := [(url, o)]) h' (by simpa using h.not_timedOut)
  | @told url url' o o' s xs hurl h hnone hurl' hfits h' =>
      have ht : ∀ x ∈ [(url, o), (url', o')], x.2.timedOut = false := by
        simpa using ⟨h.not_timedOut, h'.not_timedOut⟩
      rcases concluded_cases xs s with ⟨x, -, f, hline, hr⟩ | ⟨ys, -, hr⟩ <;> rw [hr]
      · exact fair_protocol (hq.line x f hline) ht
      · exact fair_ok ht

/-- The protocol is broken exactly if what arrived is spoilt. -/
lemma protocol_iff_spoilt (hq : q.Honest node refused wrong) (h : q.Course node t r) :
    (∃ reason, r = .error (.protocol node.text reason)) ↔ Spoilt refused q.read wrong t := by
  cases h with
  | unasked => exact iff_of_false nofun not_spoilt_nil
  | stateless hurl h =>
      rw [protocol_iff_unusable h, spoilt_singleton_iff, iff_self_or]
      rintro ⟨s, hs, -⟩
      rw [received_eq_ok_iff.mpr hs] at h
      cases h
  | @settled url o s r hurl h hr =>
      rw [spoilt_singleton_iff, or_iff_right h.not_unusable]
      constructor
      · rintro ⟨reason, rfl⟩
        exact ⟨s, h, (hq.refused_iff s).mpr ⟨_, hr⟩⟩
      · rintro ⟨s', h', hrefused⟩
        rw [h'.unique h] at hrefused
        obtain ⟨f, hf⟩ := (hq.refused_iff s).mp hrefused
        obtain ⟨reason, rfl⟩ := hq.settled s f hf
        rw [hr] at hf
        exact ⟨reason, Option.some.inj hf⟩
  | @unlisted url url' o s hurl h hnone hurl' hlong =>
      refine iff_of_false nofun ?_
      rw [spoilt_singleton_iff, or_iff_right h.not_unusable]
      rintro ⟨s', h', hrefused⟩
      obtain ⟨f, hf⟩ := (hq.refused_iff s').mp hrefused
      rw [h'.unique h, hnone] at hf
      cases hf
  | listless hurl h hnone hurl' hfits h' =>
      rw [protocol_iff_unusable h', spoilt_pair_iff h, iff_self_or]
      rintro ⟨xs, hxs, -⟩
      rw [received_eq_ok_iff.mpr hxs] at h'
      cases h'
  | @told url url' o o' s xs hurl h hnone hurl' hfits h' =>
      rw [spoilt_pair_iff h, or_iff_right h'.not_unusable]
      rcases concluded_cases (q := q) xs s with ⟨x, hx, f, hline, hr⟩ | ⟨ys, hys, hr⟩ <;> rw [hr]
      · obtain ⟨reason, rfl⟩ := hq.line x f hline
        exact iff_of_true ⟨reason, rfl⟩ ⟨xs, h', x, hx, (hq.wrong_iff x).mpr ⟨_, hline⟩⟩
      · refine iff_of_false nofun ?_
        rintro ⟨xs', hxs', x, hx, hwrong⟩
        rw [hxs'.unique h'] at hx
        obtain ⟨f, hf⟩ := (hq.wrong_iff x).mp hwrong
        obtain ⟨y, -, hy⟩ := exists_of_forall₂ hys hx
        rw [hf] at hy
        cases hy

lemma ends_of_course (hq : q.Honest node refused wrong) (h : q.Course node t r) :
    Ends node q.segments refused q.read wrong t r :=
  ⟨fair_of_course hq h, asks_of_course h, protocol_iff_spoilt hq h⟩

end Inquiry

end Http

end Roster
