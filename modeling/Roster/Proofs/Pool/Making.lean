import Roster.Proofs.Activity.Making
import Roster.Proofs.Pool.Safety

/-!
# What each call does to the registry

Looking for members makes nobody inactive, and registers only identifiers that somebody mentioned. A
pass makes members inactive once, and those are some that it asked first; and calling nodes does
nothing but make the one inactive that was called last and failed.

* `Discovery.Mentioned`: the identifiers that somebody mentioned.
* `makes_probeNodes_bind`, `makes_refresh_bind`, `makes_bootstrap_bind`: looking for members.
* `Watch.Retires`: the members that a pass makes inactive, in terms of what it was told.
* `makes_pass_bind`: a pass.
* `makes_withActiveNode_bind`: calling nodes.
-/

namespace Roster

open Activity Registry

variable {τ α : Type} {may : List (Exchange τ) → Change → Prop} {t : List (Exchange τ)} {l : Ledger}

/-! ### Looking for members -/

namespace Discovery

/-- In some exchanges, a member answered under an identifier; or, if listed members are taken over,
one was listed under it. -/
def Mentioned (merges : Bool) (t : List (Exchange τ)) (i : String) : Prop :=
  ∃ reg asked answers v, .probed reg asked answers ∈ t ∧ .ok v ∈ answers ∧
    (v.identifier = i ∨ merges = true ∧ v.contains i = true)

variable {d : Discovery} (merges : Bool)

/-- Members that may become active are asked in one round. -/
lemma makes_probeNodes_bind
    (hmay : ∀ t c, c.IsGentle → (∀ i, c.Names i → Mentioned merges t i) → may t c)
    {records : List Record} {k : Except Failure ProbeReport → Activity τ α}
    (h : ∀ answers l₁, Makes may (k (takeProbes (records.zip answers) {} l₁).1)
      (t ++ [.probed l.registry (records.map Record.address) answers])
      (takeProbes (records.zip answers) {} l₁).2) :
    Makes may ((d.probeNodes records).bind k) t l := by
  rw [probeNodes, bind_eq, Activity.bind_assoc]
  intro answers _ l₁
  refine makes_change_bind ((takeProbes_gentle _ _ l₁).mono fun c hc => ?_) (h answers l₁)
  refine hmay _ c hc.1 fun i hi => ?_
  obtain ⟨r, v, hx, hv⟩ := hc.2 i hi
  exact ⟨_, _, answers, v, List.mem_concat_self, (List.of_mem_zip hx).2, Or.inl hv⟩

/-- The active members are asked in one round. -/
lemma makes_refresh_bind
    (hmay : ∀ t c, c.IsGentle → (∀ i, c.Names i → Mentioned d.merges t i) → may t c)
    {k : RefreshReport → Activity τ α}
    (h : ∀ answers l₁, Makes may (k (takeRefresh d.merges (asked l.registry answers) l₁).1)
      (t ++ [.probed l.registry (l.registry.active.map Record.address) answers])
      (takeRefresh d.merges (asked l.registry answers) l₁).2) :
    Makes may (d.refresh.bind k) t l := by
  rw [refresh, bind_eq, Activity.bind_assoc]
  refine makes_look_bind ?_
  rw [bind_eq, Activity.bind_assoc]
  intro answers _ l₁
  refine makes_change_bind (takeRefresh_via.mono fun c hc => ?_) (h answers l₁)
  refine hmay _ c hc.1.gentle fun i hi => ?_
  obtain ⟨hmerges, v, ⟨r, hx⟩, hv⟩ := hc.2 i hi
  exact ⟨_, _, answers, v, List.mem_concat_self, (List.of_mem_zip hx).2, Or.inr ⟨hmerges, hv⟩⟩

/-- Members to start from are entered, and then asked. -/
lemma makes_bootstrap_bind
    (hmay : ∀ t c, c.IsGentle → (∀ i, c.Names i → Mentioned merges t i) → may t c)
    {seeds : List Address} {k : Except Failure Nat → Activity τ α}
    (h : ∀ result t' l', Makes may (k result) t' l') :
    Makes may ((d.bootstrap seeds).bind k) t l := by
  cases hseeds : seeds.isEmpty with
  | true =>
      simp only [bootstrap, hseeds, if_true]
      exact h (.error noSeeds) t l
  | false =>
      simp only [bootstrap, hseeds, Bool.false_eq_true, if_false, bind_eq, Activity.bind_assoc]
      refine makes_change_bind (Via.single (c := .add (seeds.map Record.unresolved))
        (hmay _ _ trivial (by simp [Change.Names, Record.unresolved])) l.now _) ?_
      refine makes_probeNodes_bind merges hmay fun answers l₁ => ?_
      refine makes_change_bind ?_ (h _ _ _)
      cases (takeProbes ((seeds.map Record.unresolved).zip answers) {} l₁).1 with
      | error f => exact Via.refl _
      | ok report =>
          rw [(bootstrapResult_ok seeds.length report _).2]
          exact Via.refl _

end Discovery

/-! ### A pass -/

namespace Watch

open Discovery

variable {w : Watch} {report : RefreshReport}

/-- The members that a pass makes inactive after it was told something: it asked the active members
and then perhaps some of them what they had heard, and these are the ones that failed and are not
vouched for, and the ones that answered and are not listed. -/
def Retires (w : Watch) (t : List (Exchange τ)) (records : List Record) : Prop :=
  ∃ reg answers gossips kept l,
    t = .probed reg (reg.active.map Record.address) answers :: gossips ∧
    (∀ x ∈ gossips, (peer? x).isSome = true) ∧
    (∀ id, id ∈ kept ↔ id ∈ timedOut (takeRefresh w.discovery.merges (asked reg answers) l).1 ∧
      Vouched w gossips id) ∧
    records = retired w.discovery.merges
      (takeRefresh w.discovery.merges (asked reg answers) l).1 kept

lemma makes_consult_bind {d : Discovery} {maxAge : Duration} {ids : List String}
    {gossips : List (Exchange τ)} {peers : List Record} {k : List String → Activity τ α}
    (hsilent : gossips.findSome? heard? = none) (hgossips : ∀ x ∈ gossips, (peer? x).isSome = true)
    (h : ∀ gossips l', (∀ x ∈ gossips, (peer? x).isSome = true) →
      Makes may (k (((gossips.findSome? heard?).map fun v => fresh maxAge v ids).getD []))
        (t ++ gossips) l') :
    Makes may ((consult d maxAge ids peers).bind k) (t ++ gossips) l := by
  induction peers generalizing gossips l with
  | nil =>
      have hnobody := h gossips l hgossips
      rw [hsilent] at hnobody
      exact hnobody
  | cons peer peers ih =>
      rw [consult, bind_eq, Activity.bind_assoc]
      intro answer l₁
      have hgossips' : ∀ x ∈ gossips ++ [.gossiped l.registry peer.address answer],
          (peer? x).isSome = true := by
        intro x hx
        rcases List.mem_append.mp hx with hx | hx
        · exact hgossips x hx
        · rw [List.mem_singleton.mp hx]
          rfl
      rw [List.append_assoc]
      cases answer with
      | ok v =>
          refine makes_change_bind (Via.refl _) ?_
          simpa [List.findSome?_append, hsilent, heard?] using h _ _ hgossips'
      | error f =>
          refine makes_note_bind (k := fun _ => (consult d maxAge ids peers).bind k) ?_
          exact ih (by simp [List.findSome?_append, hsilent, heard?]) hgossips'

/-- Asking what was heard changes no member. -/
lemma makes_vouchers_bind {k : List String → Activity τ α}
    (h : ∀ gossips kept l', (∀ x ∈ gossips, (peer? x).isSome = true) →
      (∀ id, id ∈ kept ↔ id ∈ timedOut report ∧ Vouched w gossips id) →
      Makes may (k kept) (t ++ gossips) l') :
    Makes may ((w.vouchers report).bind k) t l := by
  have hnobody : ∀ l', (∀ id, id ∈ timedOut report → ¬ Vouched w ([] : List (Exchange τ)) id) →
      Makes may (k []) t l' := by
    intro l' hnone
    simpa using h [] [] l' (by simp) fun id => by simpa using hnone id
  have hsilent : ∀ id, ¬ Vouched w ([] : List (Exchange τ)) id := by
    rintro id ⟨maxAge, v, age, -, hv, -⟩
    exact absurd hv (by simp)
  unfold vouchers
  cases hage : w.gossipMaxAge with
  | none => exact hnobody l fun id _ => hsilent id
  | some maxAge =>
      cases hids : (timedOut report).isEmpty with
      | true =>
          simp only [hids, if_true]
          exact hnobody l fun id _ => hsilent id
      | false =>
          simp only [hids, Bool.false_eq_true, if_false]
          rw [← List.append_nil t]
          exact makes_consult_bind rfl (by simp) fun gossips l' hgossips =>
            h gossips _ l' hgossips (mem_heard_iff hage)

/-- A pass makes somebody inactive in one stretch only. -/
lemma makes_pass_bind {k : Except Failure PassSummary → Activity τ α}
    (hmay : ∀ t c, c.IsGentle → (∀ i, c.Names i → Mentioned w.discovery.merges t i) → may t c)
    (hretire : ∀ t records, w.Retires t records → may t (.deactivate records))
    (h : ∀ result t' l', Makes may (k result) t' l') : Makes may (w.pass.bind k) [] l := by
  rw [pass_eq, Activity.bind_assoc]
  refine makes_look_bind ?_
  rw [Activity.bind_assoc]
  refine makes_refresh_bind hmay fun answers l₁ => ?_
  rw [Activity.bind_assoc]
  refine makes_vouchers_bind fun gossips kept l₂ hgossips hkept => ?_
  rw [Activity.bind_assoc]
  refine makes_change_bind ?_ ?_
  · rw [registry_retire]
    exact Via.single (c := .deactivate _) (hretire _ _
      ⟨l.registry, answers, gossips, kept, l₁, rfl, hgossips, hkept, rfl⟩) l₂.now _
  · cases hresult : (retire w.discovery.merges
        (takeRefresh w.discovery.merges (asked l.registry answers) l₁).1 kept
        (l.registry.inactive.map Record.key) l₂).1 with
    | error f => exact h _ _ _
    | ok x =>
        obtain ⟨n, again⟩ := x
        rw [finish, Activity.bind_assoc]
        exact makes_probeNodes_bind _ hmay fun answers' l₃ => h _ _ _

end Watch

/-! ### Calls of active nodes -/

namespace Pool

/-- Each node that is called and fails is made inactive, and nothing else is changed. -/
lemma makes_callUntil_bind {nodes : List Record} {last : Option Failure}
    {k : Except Failure τ → Activity τ α}
    (hmay : ∀ t reg node f, f.isNodeFailure = true →
      may (t ++ [.called reg node (.error f)]) (.deactivate [node]))
    (h : ∀ result t' l', Makes may (k result) t' l') :
    Makes may ((callUntil nodes last).bind k) t l := by
  induction nodes generalizing last t l with
  | nil => exact h _ _ _
  | cons node nodes ih =>
      rw [callUntil, bind_eq, Activity.bind_assoc]
      intro answer l₁
      cases answer with
      | ok v => exact h _ _ _
      | error f =>
          cases hf : f.isNodeFailure with
          | false =>
              simp only [hf, Bool.false_eq_true, if_false, done_bind]
              exact h _ _ _
          | true =>
              simp only [hf, if_true, done_bind, bind_eq, Activity.bind_assoc]
              refine makes_change_bind ?_ ?_
              · rw [registry_reportFailure]
                exact Via.single (c := .deactivate [node]) (hmay t l.registry node f hf) l₁.now _
              · cases (reportFailure node f l₁).1 with
                | ok _ => exact ih
                | error f' => exact h _ _ _

/-- Calling active nodes changes nothing but that those become inactive that fail. -/
lemma makes_withActiveNode_bind {drawn : Nat} {k : Except Failure τ → Activity τ α}
    (hmay : ∀ t reg node f, f.isNodeFailure = true →
      may (t ++ [.called reg node (.error f)]) (.deactivate [node]))
    (h : ∀ result t' l', Makes may (k result) t' l') :
    Makes may ((withActiveNode drawn).bind k) t l := by
  rw [withActiveNode, bind_eq, Activity.bind_assoc]
  exact makes_change_bind (Via.refl _) (makes_callUntil_bind hmay h)

end Pool

end Roster
