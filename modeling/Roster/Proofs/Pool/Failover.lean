import Roster.Proofs.Pool.Safety

/-!
# Calls that go on with the next node

Active nodes are called one after the other until one of them does not fail. Here it is told which
nodes are called, what is yielded and who is inactive afterwards, if nobody else changes the registry
meanwhile. What a call yields may depend on the node and on how many calls were made before.

* `Registry.Retires`: nothing has changed but that the entries under some keys are inactive.
* `blamesNode`: whether what a call yielded speaks against its node.
* `Failover`: what comes of calling nodes in an order.
* `failover_of_runs`: this is what every run comes to, by induction on the nodes.
* `failover_outcome`: the same of the nodes that are active.
-/

namespace Roster

namespace Registry

variable {keys keys' : List Key} {reg reg' reg'' : Registry} {e e' e'' : Entry} {now : Instant}

/-! ### Entries that become inactive -/

/-- An entry keeps its record; it is inactive if it stands under one of some keys, and otherwise the
same as before. -/
structure Entry.Retires (keys : List Key) (e e' : Entry) : Prop where
  key : e'.key = e.key
  record : e'.record = e.record
  inactive : e.key ∈ keys → e'.active = false
  same : e.key ∉ keys → e' = e

lemma Entry.Retires.trans (h : Entry.Retires keys e e') (h' : Entry.Retires keys' e' e'') :
    Entry.Retires (keys ++ keys') e e'' := by
  refine ⟨h'.key.trans h.key, h'.record.trans h.record, fun hmem => ?_, fun hout => ?_⟩
  · by_cases hlater : e.key ∈ keys'
    · exact h'.inactive (h.key ▸ hlater)
    · rw [h'.same (h.key ▸ hlater)]
      exact h.inactive ((List.mem_append.mp hmem).resolve_right hlater)
  · rw [List.mem_append, not_or] at hout
    exact (h'.same (h.key ▸ hout.2)).trans (h.same hout.1)

/-- Nothing has changed but that the entries under some keys are inactive. -/
def Retires (keys : List Key) (reg reg' : Registry) : Prop :=
  List.Forall₂ (Entry.Retires keys) reg.entries reg'.entries

namespace Retires

lemma refl (reg : Registry) : Retires [] reg reg :=
  List.forall₂_same.mpr fun _ _ => ⟨rfl, rfl, fun hmem => absurd hmem (by simp), fun _ => rfl⟩

lemma trans (h : Retires keys reg reg') (h' : Retires keys' reg' reg'') :
    Retires (keys ++ keys') reg reg'' := by
  unfold Retires at h h' ⊢
  generalize reg.entries = es, reg'.entries = es', reg''.entries = es'' at h h' ⊢
  induction h generalizing es'' with
  | nil =>
      cases h'
      exact .nil
  | cons he _ ih =>
      cases h' with
      | cons he' h' => exact .cons (he.trans he') (ih _ h')

lemma setStatus (h : reg.WellFormed) (records : List Record)
    (hall : ∀ r ∈ records, reg.contains r.key = true) :
    Retires (records.map Record.key) reg (reg.setStatus now false records).2 := by
  rw [Retires, entries_setStatus h hall, List.forall₂_map_right_iff]
  refine List.forall₂_same.mpr fun e _ => ?_
  split_ifs with hmem
  · exact ⟨by simp, by simp, fun _ => by simp, fun hout => absurd hmem hout⟩
  · exact ⟨rfl, rfl, fun hmem' => absurd hmem' hmem, fun _ => rfl⟩

/-- Who is registered stays so. -/
lemma contains (h : Retires keys reg reg') (k : Key) : reg'.contains k = reg.contains k := by
  unfold Retires at h
  unfold Registry.contains
  generalize reg.entries = es, reg'.entries = es' at h ⊢
  induction h with
  | nil => rfl
  | cons he _ ih => rw [List.any_cons, List.any_cons, he.key, ih]

end Retires

end Registry

namespace Pool

open Activity Registry

variable {τ : Type} {op : ℕ → Record → Except Failure τ} {node : Record} {nodes called : List Record}
  {last : Option Failure} {l l' : Ledger} {t : List (Exchange τ)} {r : Except Failure τ}
  {reg reg' : Registry}

/-! ### What calls yield -/

/-- Whether what a call yielded speaks against its node. -/
def blamesNode : Except Failure τ → Bool
  | .ok _ => false
  | .error f => f.isNodeFailure

/-- What speaks against a node is a failure. -/
lemma blamesNode_iff : blamesNode r = true ↔ ∃ f, r = .error f ∧ f.isNodeFailure = true := by
  cases r <;> simp [blamesNode]

/-- The node that was called in an exchange. -/
def callee? : Exchange τ → Option Record
  | .called _ node _ => some node
  | _ => none

/-- In the exchanges of a run, what a call yields depends on the node and on how many exchanges there
were before. -/
def YieldedBy (op : ℕ → Record → Except Failure τ) (t : List (Exchange τ)) : Prop :=
  ∀ k reg node answer, t[k]? = some (.called reg node answer) → answer = op k node

lemma yieldedBy_cons_iff {answer : Except Failure τ} :
    YieldedBy op (.called reg node answer :: t) ↔
      answer = op 0 node ∧ YieldedBy (fun k => op (k + 1)) t := by
  constructor
  · exact fun h => ⟨h 0 reg node answer rfl, fun k reg' node' answer' hk =>
      h (k + 1) reg' node' answer' (by simpa using hk)⟩
  · rintro ⟨rfl, h⟩ (_ | k) reg' node' answer' hk
    · obtain ⟨-, rfl, rfl⟩ := Exchange.called.inj (Option.some.inj hk)
      rfl
    · exact h k reg' node' answer' (by simpa using hk)

/-- A node fails when it is called: it becomes inactive, and no other entry changes. -/
lemma retires_reportFailure (h : l.registry.WellFormed)
    (hc : l.registry.contains node.key = true) (f : Failure) :
    (reportFailure node f l).1 = .ok () ∧
      Retires [node.key] l.registry (reportFailure node f l).2.registry ∧
      (reportFailure node f l).2.registry.WellFormed := by
  obtain ⟨hok, hstep⟩ := reportFailure_ok hc f
  refine ⟨hok, ?_, hstep.wellFormed h⟩
  rw [registry_reportFailure]
  exact Retires.setStatus h [node] (by simpa using hc)

/-- The first call: either it ends the calls, or its node becomes inactive and the next one is
called. -/
lemma runs_callUntil_cons_iff (hc : l.registry.contains node.key = true) :
    Runs Ledger.Later (callUntil (node :: nodes) last) l t r l' ↔
      ∃ answer l₁ t', l.Later l₁ ∧ t = .called l.registry node answer :: t' ∧
        ((blamesNode answer = false ∧ t' = [] ∧ r = answer ∧ l' = l₁) ∨
          ∃ f, answer = .error f ∧ f.isNodeFailure = true ∧
            Runs Ledger.Later (callUntil nodes (some f)) (reportFailure node f l₁).2 t' r l') := by
  rw [callUntil, bind_eq, runs_callOne_bind_iff]
  refine exists_congr fun answer => exists_congr fun l₁ => exists_congr fun t' =>
    and_congr_right fun hwait => and_congr_right fun _ => ?_
  cases answer with
  | ok v => simp [blamesNode, runs_done_iff, pure]
  | error f =>
      cases hf : f.isNodeFailure with
      | false => simp [blamesNode, hf, runs_done_iff, pure]
      | true =>
          have hok := (reportFailure_ok (hwait.registry_eq ▸ hc) f).1
          simp [blamesNode, hf, bind_eq, runs_change_bind_iff, hok]

/-! ### Calling nodes in an order -/

/-- What comes of calling nodes in an order: which of them are called, what is yielded in the end,
and what becomes of the registry. `last` is the failure of the call before. -/
inductive Failover (op : ℕ → Record → Except Failure τ) (last : Option Failure)
    (nodes : List Record) (reg : Registry) (called : List Record) (r : Except Failure τ)
    (reg' : Registry) : Prop
  /-- The calls end with the first one that does not speak against its node. -/
  | served (before : List Record) (node : Record) (after : List Record)
      (hnodes : nodes = before ++ node :: after) (hcalled : called = before ++ [node])
      (hfailed : ∀ k m, before[k]? = some m → blamesNode (op k m) = true)
      (hserved : blamesNode (op before.length node) = false) (hr : r = op before.length node)
      (hreg : Retires (before.map Record.key) reg reg')
  /-- All calls speak against their nodes, and the last failure is yielded. -/
  | exhausted (hcalled : called = nodes)
      (hfailed : ∀ k m, nodes[k]? = some m → blamesNode (op k m) = true)
      (hr : ∀ before node, nodes = before ++ [node] → r = op before.length node)
      (hnobody : nodes = [] → r = .error (last.getD .noActiveNodes))
      (hreg : Retires (nodes.map Record.key) reg reg')

/-- A node that is called before the others, and fails. -/
lemma Failover.cons {f : Failure} {reg₁ : Registry} (hf : f.isNodeFailure = true)
    (hnode : op 0 node = .error f) (hretires : Retires [node.key] reg reg₁)
    (h : Failover (fun k => op (k + 1)) (some f) nodes reg₁ called r reg') :
    Failover op last (node :: nodes) reg (node :: called) r reg' := by
  have hblames : blamesNode (op 0 node) = true := blamesNode_iff.mpr ⟨f, hnode, hf⟩
  have hall : ∀ {ms : List Record}, (∀ k m, ms[k]? = some m → blamesNode (op (k + 1) m) = true) →
      ∀ k m, (node :: ms)[k]? = some m → blamesNode (op k m) = true := by
    rintro ms hms (_ | k) m hm
    · obtain rfl : node = m := by simpa using hm
      exact hblames
    · exact hms k m (by simpa using hm)
  cases h with
  | served before m after hnodes hcalled hfailed hserved hr hreg =>
      exact .served (node :: before) m after (by rw [hnodes]; rfl) (by rw [hcalled]; rfl)
        (hall hfailed) hserved hr (hretires.trans hreg)
  | exhausted hcalled hfailed hr hnobody hreg =>
      refine .exhausted (by rw [hcalled]) (hall hfailed) (fun before m hnodes => ?_) (by simp)
        (hretires.trans hreg)
      cases before with
      | nil =>
          -- It is the only one, and its failure is the last one.
          obtain ⟨rfl, rfl⟩ : node = m ∧ nodes = [] := by simpa using hnodes
          exact (hnobody rfl).trans hnode.symm
      | cons m' before => exact hr before m (List.cons.inj hnodes).2

namespace Failover

/-- Nodes are called in the order, and none is left out. -/
lemma initial (h : Failover op last nodes reg called r reg') : called <+: nodes := by
  cases h with
  | served before node after hnodes hcalled =>
      exact ⟨after, by rw [hnodes, hcalled, ← List.append_cons]⟩
  | exhausted hcalled => rw [hcalled]

/-- What is yielded is what a call yielded, unless there is nobody to call. -/
lemma yielded (h : Failover op last nodes reg called r reg') :
    (nodes = [] ∧ r = .error (last.getD .noActiveNodes)) ∨
      ∃ k m, called[k]? = some m ∧ r = op k m := by
  cases h with
  | served before node after hnodes hcalled hfailed hserved hr =>
      exact Or.inr ⟨before.length, node, by simp [hcalled], hr⟩
  | exhausted hcalled hfailed hr hnobody =>
      rcases List.eq_nil_or_concat nodes with hnil | ⟨before, node, hnodes⟩
      · exact Or.inl ⟨hnil, hnobody hnil⟩
      · rw [List.concat_eq_append] at hnodes
        exact Or.inr ⟨before.length, node, by simp [hcalled, hnodes], hr before node hnodes⟩

/-- If all calls speak against their nodes, it is told that there is nobody exactly if there was
nobody to call. -/
lemma noActiveNodes_iff (h : Failover op none nodes reg called r reg')
    (hfailed : ∀ k m, nodes[k]? = some m → blamesNode (op k m) = true) :
    r = .error .noActiveNodes ↔ nodes = [] := by
  rcases h.yielded with ⟨hnil, hr⟩ | ⟨k, m, hm, hr⟩
  · exact iff_of_true hr hnil
  · obtain ⟨rest, rfl⟩ := h.initial
    have hk : k < called.length := (List.getElem?_eq_some_iff.mp hm).1
    have hblames := hfailed k m (by rw [List.getElem?_append_left hk, hm])
    refine iff_of_false (fun hnobody => ?_) (fun hnil => ?_)
    · rw [← hr, hnobody] at hblames
      exact Bool.false_ne_true hblames
    · rw [(List.append_eq_nil_iff.mp hnil).1] at hk
      exact absurd hk (by simp)

end Failover

/-- What every run comes to that calls nodes with entries. -/
lemma failover_of_runs (h : l.registry.WellFormed)
    (hc : ∀ m ∈ nodes, l.registry.contains m.key = true)
    (hrun : Runs Ledger.Later (callUntil nodes last) l t r l') (hop : YieldedBy op t) :
    ∃ called, t.map callee? = called.map some ∧
      Failover op last nodes l.registry called r l'.registry := by
  induction nodes generalizing op last l t with
  | nil =>
      obtain ⟨rfl, rfl, rfl⟩ := runs_done_iff.mp hrun
      exact ⟨[], rfl, .exhausted rfl (by simp) (by simp) (fun _ => rfl) (Retires.refl _)⟩
  | cons node nodes ih =>
      obtain ⟨hnode, hnodes⟩ := List.forall_mem_cons.mp hc
      obtain ⟨answer, l₁, t', hwait, rfl, hrest⟩ := (runs_callUntil_cons_iff hnode).mp hrun
      obtain ⟨rfl, hop'⟩ := yieldedBy_cons_iff.mp hop
      rcases hrest with ⟨hserved, rfl, rfl, rfl⟩ | ⟨f, hanswer, hf, hrest⟩
      · exact ⟨[node], rfl, .served [] node nodes rfl rfl (by simp) hserved rfl
          (hwait.registry_eq ▸ Retires.refl _)⟩
      · rw [← hwait.registry_eq] at h hnode hnodes ⊢
        obtain ⟨-, hretires, hwell⟩ := retires_reportFailure h hnode f
        obtain ⟨called, hcalled, hfailover⟩ := ih hwell
          (fun m hm => (hretires.contains m.key).trans (hnodes m hm)) hrest hop'
        exact ⟨node :: called, by simp [hcalled, callee?], hfailover.cons hf hanswer hretires⟩

/-- Whatever calls yield, there is a run of this kind. -/
lemma exists_runs_callUntil (op : ℕ → Record → Except Failure τ) (last : Option Failure)
    (h : l.registry.WellFormed) (hc : ∀ m ∈ nodes, l.registry.contains m.key = true) :
    ∃ t r l', Runs Ledger.Later (callUntil nodes last) l t r l' ∧ YieldedBy op t := by
  induction nodes generalizing op last l with
  | nil => exact ⟨[], _, l, .done _ l, fun k reg node answer hk => absurd hk (by simp)⟩
  | cons node nodes ih =>
      obtain ⟨hnode, hnodes⟩ := List.forall_mem_cons.mp hc
      cases hblames : blamesNode (op 0 node) with
      | false =>
          refine ⟨_, _, _, (runs_callUntil_cons_iff hnode).mpr
            ⟨op 0 node, l, [], Ledger.Later.refl l, rfl, Or.inl ⟨hblames, rfl, rfl, rfl⟩⟩, ?_⟩
          exact yieldedBy_cons_iff.mpr ⟨rfl, fun k reg node answer hk => absurd hk (by simp)⟩
      | true =>
          obtain ⟨f, hf, hfail⟩ := blamesNode_iff.mp hblames
          obtain ⟨-, hretires, hwell⟩ := retires_reportFailure h hnode f
          obtain ⟨t, r, l', hrun, hop⟩ := ih (fun k => op (k + 1)) (some f) hwell
            fun m hm => (hretires.contains m.key).trans (hnodes m hm)
          exact ⟨_, r, l', (runs_callUntil_cons_iff hnode).mpr
            ⟨op 0 node, l, t, Ledger.Later.refl l, rfl, Or.inr ⟨f, hf, hfail, hrun⟩⟩,
            yieldedBy_cons_iff.mpr ⟨rfl, hop⟩⟩

/-! ### Calling active nodes -/

/-- **Failover.** Let nobody else change the registry while active nodes are called, and let what a
call yields depend on the node and on how many calls were made before. There is such a run, and in
every such run:

* The nodes that are called are the first ones of the active nodes, in their order from some place on
  and wrapped around, and none of them twice.
* If some call does not speak against its node, the first such call ends the calls, and what it
  yielded is yielded. The nodes that were called before it are inactive then.
* Otherwise all active nodes are called and are inactive then. The last failure is yielded, or that
  there is no active node; the latter exactly if there was none.
* No other entry changes and all records stay what they were. That the registry lacks an entry is
  yielded only if a call yielded it. -/
theorem failover_outcome (h : l.registry.WellFormed) (drawn : ℕ)
    (op : ℕ → Record → Except Failure τ) :
    (∃ t r l', Runs Ledger.Later (withActiveNode drawn) l t r l' ∧ YieldedBy op t) ∧
    ∀ t r l', Runs Ledger.Later (withActiveNode drawn) l t r l' → YieldedBy op t →
      ∃ nodes called, nodes ~r l.registry.active ∧ (nodes.map Record.key).Nodup ∧
        t.map callee? = called.map some ∧ called <+: nodes ∧
        Failover op none nodes l.registry called r l'.registry ∧
        ((∀ k m, nodes[k]? = some m → blamesNode (op k m) = true) →
          (r = .error .noActiveNodes ↔ l.registry.active = [])) ∧
        ∀ text, r = .error (.invariantViolation text) → ∃ k m, called[k]? = some m ∧ r = op k m := by
  have hrotated : (candidates drawn l).1 ~r l.registry.active :=
    l.selector.order_isRotated drawn l.registry.active
  have hc : ∀ m ∈ (candidates drawn l).1,
      (candidates drawn l).2.registry.contains m.key = true := by
    intro m hm
    obtain ⟨e, he, -⟩ := h.mem_withStatus_iff.mp (hrotated.mem_iff.mp hm)
    exact contains_iff_exists_find?.mpr ⟨e, he⟩
  have hruns : ∀ t r l', Runs Ledger.Later (withActiveNode drawn) l t r l' ↔
      Runs Ledger.Later (callUntil (candidates drawn l).1 none : Activity τ _)
        (candidates drawn l).2 t r l' := by
    intro t r l'
    rw [withActiveNode, bind_eq, runs_change_bind_iff]
  have hwell : (candidates drawn l).2.registry.WellFormed := h
  simp only [hruns]
  refine ⟨exists_runs_callUntil op none hwell hc, fun t r l' hrun hop => ?_⟩
  obtain ⟨called, hcalled, hfailover⟩ := failover_of_runs hwell hc hrun hop
  refine ⟨_, called, hrotated, ?_, hcalled, hfailover.initial, hfailover, fun hfailed => ?_,
    fun text hr => ?_⟩
  · rw [(hrotated.map Record.key).nodup_iff]
    exact h.keys_withStatus_nodup true
  · rw [hfailover.noActiveNodes_iff hfailed]
    exact ⟨fun hnil => (List.isRotated_nil_iff'.mp (hnil ▸ hrotated)).symm,
      fun hnil => List.isRotated_nil_iff.mp (hnil ▸ hrotated)⟩
  · refine hfailover.yielded.resolve_left ?_
    rintro ⟨-, hnobody⟩
    rw [hnobody] at hr
    exact absurd hr (by simp)

/-- Three active nodes that are called in turns, of which the first one to be called fails: the next
one serves. -/
lemma failover_outcome_inTurns :
    let place (name : String) : Address := ⟨"http", none, .whole name, none, none⟩
    let node (name : String) : Record := .resolved (place name) name none
    let l : Ledger := ⟨0, ⟨[.fresh (node "a") true 0, .fresh (node "b") true 0,
      .fresh (node "c") true 0]⟩, ⟨.roundRobin, 1⟩, []⟩
    let op (k : ℕ) (m : Record) : Except Failure Unit :=
      if k = 0 then .error (.protocol m.address.text "no answer") else .ok ()
    l.registry.WellFormed ∧ ∃ (t : List (Exchange Unit)) (r : Except Failure Unit) (l' : Ledger),
      Runs Ledger.Later (withActiveNode 0) l t r l' ∧ YieldedBy op t ∧ r = .ok () := by
  intro place node l op
  have h : l.registry.WellFormed := ⟨by decide, by decide⟩
  obtain ⟨⟨t, r, l', hrun, hop⟩, hall⟩ := failover_outcome h 0 op
  obtain ⟨nodes, called, hrotated, -, -, -, hfailover, -⟩ := hall t r l' hrun hop
  refine ⟨h, t, r, l', hrun, hop, ?_⟩
  have hserved : ∀ k m, k ≠ 0 → op k m = .ok () := fun k m hk => if_neg hk
  have hlength : nodes.length = 3 := hrotated.perm.length_eq
  cases hfailover with
  | served before m after hnodes hcalled hfailed hend hr =>
      rw [hr]
      refine hserved _ m fun hzero => ?_
      rw [hzero] at hend
      exact absurd hend (by simp [op, blamesNode, Failure.isNodeFailure])
  | exhausted hcalled hfailed =>
      -- The second call does not fail.
      have hsecond := hfailed 1 nodes[1] (List.getElem?_eq_getElem (by omega))
      rw [hserved 1 _ one_ne_zero] at hsecond
      exact absurd hsecond Bool.false_ne_true

end Pool

end Roster
