import Mathlib.Data.List.Perm.Basic
import Mathlib.Logic.Relation
import Roster.Proofs.Registry.Changes

/-!
# The registries that changes lead to

Whatever is done to a registry that begins empty, in whatever order and by however many callers,
it stays well formed: each change is made in one stretch, so the changes of all callers are one
sequence.

* `Change` and `Change.apply`: the changes of a registry as data.
* `Registry.after`: the registry after a sequence of changes, each at its own time.
* `Registry.LeadsTo`: one registry comes from another by changes of some kinds.
* `representation_after`: what holds of every such registry.
-/

namespace Roster

/-- A change of a registry, with its arguments. -/
inductive Change
  | add (records : List Record)
  | activate (records : List Record)
  | deactivate (records : List Record)
  | resolve (a : Address) (id : String) (hash : Option String)
  | mergeMember (id : String) (a : Address) (hash : Option String)
  | updateHash (id hash : String)

/-- The registry after a change at a time. -/
def Change.apply (now : Instant) : Change → Registry → Registry
  | add records, reg => reg.add now records
  | activate records, reg => (reg.activate now records).2
  | deactivate records, reg => (reg.deactivate now records).2
  | resolve a id hash, reg => (reg.resolve a id hash).2
  | mergeMember id a hash, reg => (reg.mergeMember now id a hash).2
  | updateHash id hash, reg => reg.updateHash id hash

/-- The changes that make members active under identifiers only. -/
def Change.IsOrderly : Change → Prop
  | activate records => ∀ r ∈ records, r.isResolved = true
  | add _ | deactivate _ | resolve .. | mergeMember .. | updateHash .. => True

namespace Registry

variable {reg : Registry}

/-- The registry that a sequence of changes makes of an empty one. -/
def after (changes : List (Instant × Change)) : Registry :=
  changes.foldl (fun reg c => c.2.apply c.1 reg) empty

/-- Each change leaves a well-formed registry well formed. -/
lemma WellFormed.apply (h : reg.WellFormed) (now : Instant) (c : Change) :
    (c.apply now reg).WellFormed := by
  cases c with
  | add records => exact h.add records
  | activate records => exact h.setStatus true records
  | deactivate records => exact h.setStatus false records
  | resolve a id hash => exact h.resolve a id hash
  | mergeMember id a hash => exact h.mergeMember id a hash
  | updateHash id hash => exact h.updateHash id hash

/-- No change takes an identifier out. -/
lemma WellFormed.contains_identifier_apply (h : reg.WellFormed) {i : String}
    (hc : reg.contains (.identifier i) = true) (now : Instant) (c : Change) :
    (c.apply now reg).contains (.identifier i) = true := by
  cases c with
  | add records =>
      rw [Change.apply, contains_add, hc, Bool.true_or]
  | activate records =>
      rw [Change.apply, activate, contains_setStatus, hc]
  | deactivate records =>
      rw [Change.apply, deactivate, contains_setStatus, hc]
  | resolve a id hash => exact contains_identifier_resolve h hc a id hash
  | mergeMember id a hash => exact contains_identifier_mergeMember hc id a hash
  | updateHash id hash =>
      rw [Change.apply, contains_updateHash, hc]

lemma wellFormed_after (changes : List (Instant × Change)) : (after changes).WellFormed := by
  induction changes using List.reverseRecOn with
  | nil => exact WellFormed.empty
  | append_singleton cs c ih =>
      rw [after, List.foldl_append]
      exact ih.apply c.1 c.2

/-! ### Orderly changes -/

/-- In a well-formed registry, only members with identifiers are active. -/
structure Orderly (reg : Registry) : Prop extends WellFormed reg where
  resolved : ∀ a, reg.isActive? (.address a) ≠ some true

lemma Orderly.empty : Orderly Registry.empty := ⟨WellFormed.empty, by simp [isActive?, find?]⟩

/-- An active member has an identifier, and an entry under it. -/
lemma Orderly.identifier_of_active (h : reg.Orderly) {r : Record} (hr : r ∈ reg.active) :
    ∃ id, r.identifier = some id ∧ reg.contains (.identifier id) = true := by
  obtain ⟨e, he, hact, -⟩ := h.mem_withStatus_iff.mp hr
  cases hid : r.identifier with
  | none =>
      have hk : r.key = .address r.address := Record.key_eq_address_iff.mpr ⟨hid, rfl⟩
      exact absurd (isActive?_eq_some_iff.mpr ⟨e, he, hact⟩) (hk ▸ h.resolved r.address)
  | some id =>
      have hk : r.key = .identifier id := Record.key_eq_identifier_iff.mpr hid
      exact ⟨id, rfl, contains_iff_exists_find?.mpr ⟨e, hk ▸ he⟩⟩

/-- No orderly change makes a member active that has no identifier. -/
lemma WellFormed.active_address_apply (h : reg.WellFormed) {a : Address} {now : Instant}
    {c : Change} (hc : c.IsOrderly) (hact : (c.apply now reg).isActive? (.address a) = some true) :
    reg.isActive? (.address a) = some true := by
  have hkeep : ∀ {reg' : Registry}, reg'.find? (.address a) = none ∨
      reg'.find? (.address a) = reg.find? (.address a) →
      reg'.isActive? (.address a) = some true → reg.isActive? (.address a) = some true := by
    rintro reg' (hnone | heq) hact
    · simp [isActive?, hnone] at hact
    · rwa [isActive?, ← heq]
  cases c with
  | add records => exact (active_add_iff records).mp hact
  | activate records =>
      have hout : .address a ∉ records.map Record.key := by
        intro hmem
        obtain ⟨r, hr, hk⟩ := List.mem_map.mp hmem
        obtain ⟨id, hid⟩ := Record.isResolved_iff.mp (hc r hr)
        rw [hid] at hk
        exact absurd hk (by simp)
      rw [Change.apply, activate] at hact
      cases hm : reg.missing? records with
      | some k => rwa [setStatus_of_missing hm] at hact
      | none => rwa [isActive?_setStatus (missing?_eq_none_iff.mp hm), if_neg hout] at hact
  | deactivate records =>
      rw [Change.apply, deactivate] at hact
      cases hm : reg.missing? records with
      | some k => rwa [setStatus_of_missing hm] at hact
      | none =>
          rw [isActive?_setStatus (missing?_eq_none_iff.mp hm)] at hact
          split_ifs at hact
          · exact absurd hact (by simp)
          · exact hact
  | resolve a' id hash => exact hkeep (h.find?_address_resolve a' a id hash) hact
  | mergeMember id a' hash =>
      refine hkeep ?_ hact
      rw [Change.apply, find?_mergeMember]
      split_ifs <;> simp_all
  | updateHash id hash =>
      exact hkeep (Or.inr (by rw [Change.apply, find?_updateHash]; simp)) hact

/-- Orderly changes make one registry of the other. -/
def LeadsTo : Registry → Registry → Prop :=
  Relation.ReflTransGen fun reg reg' => ∃ now c, Change.IsOrderly c ∧ reg' = c.apply now reg

namespace LeadsTo

variable {reg' reg'' : Registry}

lemma refl (reg : Registry) : LeadsTo reg reg := Relation.ReflTransGen.refl

lemma trans (h : LeadsTo reg reg') (h' : LeadsTo reg' reg'') : LeadsTo reg reg'' :=
  Relation.ReflTransGen.trans h h'

lemma single {c : Change} (hc : c.IsOrderly) (now : Instant) (reg : Registry) :
    LeadsTo reg (c.apply now reg) := Relation.ReflTransGen.single ⟨now, c, hc, rfl⟩

/-- What every orderly change keeps, all of them together keep. -/
lemma keeps {P : Registry → Prop} (h : LeadsTo reg reg')
    (hstep : ∀ reg now c, Change.IsOrderly c → P reg → P (c.apply now reg)) (hP : P reg) :
    P reg' := by
  induction h with
  | refl => exact hP
  | tail _ hlast ih =>
      obtain ⟨now, c, hc, rfl⟩ := hlast
      exact hstep _ now c hc ih

lemma wellFormed (h : LeadsTo reg reg') (hw : reg.WellFormed) : reg'.WellFormed :=
  h.keeps (fun _ now c _ hw => hw.apply now c) hw

/-- No member without an identifier becomes active. -/
lemma active_address (h : LeadsTo reg reg') (hw : reg.WellFormed) {a : Address}
    (hact : reg'.isActive? (.address a) = some true) : reg.isActive? (.address a) = some true := by
  by_contra hout
  have hboth : reg'.WellFormed ∧ reg'.isActive? (.address a) ≠ some true :=
    h.keeps (P := fun reg => reg.WellFormed ∧ reg.isActive? (.address a) ≠ some true)
      (fun _ now c hc hP => ⟨hP.1.apply now c,
        fun hact => hP.2 (hP.1.active_address_apply hc hact)⟩) ⟨hw, hout⟩
  exact hboth.2 hact

lemma orderly (h : LeadsTo reg reg') (ho : reg.Orderly) : reg'.Orderly :=
  ⟨h.wellFormed ho.toWellFormed, fun a hact => ho.resolved a (h.active_address ho.toWellFormed hact)⟩

lemma contains_identifier (h : LeadsTo reg reg') (hw : reg.WellFormed) {i : String}
    (hc : reg.contains (.identifier i) = true) : reg'.contains (.identifier i) = true := by
  have hboth : reg'.WellFormed ∧ reg'.contains (.identifier i) = true :=
    h.keeps (P := fun reg => reg.WellFormed ∧ reg.contains (.identifier i) = true)
      (fun _ now c _ hP => ⟨hP.1.apply now c, hP.1.contains_identifier_apply hP.2 now c⟩) ⟨hw, hc⟩
  exact hboth.2

end LeadsTo

/-! ### The two lists of members -/

lemma partition_eq (reg : Registry) : reg.partition = (reg.active, reg.inactive) := by
  have hyes : (fun e : Entry => e.active == true) = Entry.active := by
    funext e
    cases e.active <;> rfl
  have hno : (fun e : Entry => e.active == false) = not ∘ Entry.active := by
    funext e
    cases h : e.active <;> simp [h]
  rw [partition, List.partition_eq_filter_filter, active, inactive, withStatus, withStatus, hyes,
    hno]

/-- The members with a status stand in the order of the registry. -/
lemma withStatus_sublist (reg : Registry) (b : Bool) :
    (reg.withStatus b).Sublist (reg.entries.map Entry.record) :=
  List.filter_sublist.map Entry.record

/-- Every member is in one of the two lists, and once. -/
lemma active_append_inactive_perm (reg : Registry) :
    (reg.active ++ reg.inactive).Perm (reg.entries.map Entry.record) := by
  have hnot : (fun e : Entry => e.active == false) = fun e => !(e.active == true) := by
    funext e
    cases e.active <;> rfl
  rw [active, inactive, withStatus, withStatus, hnot, ← List.map_append]
  exact (List.filter_append_perm _ _).map Entry.record

lemma length_active (reg : Registry) : reg.active.length = reg.activeCount := by
  rw [active, withStatus, List.length_map, activeCount, List.countP_eq_length_filter]
  congr 2
  funext e
  cases e.active <;> rfl

/-- No member of one list has the key of a member of the other. -/
lemma WellFormed.key_ne_of_mem (h : reg.WellFormed) {r s : Record} (hr : r ∈ reg.active)
    (hs : s ∈ reg.inactive) : r.key ≠ s.key := by
  have hactive := h.isActive?_of_mem hr
  have hinactive := h.isActive?_of_mem hs
  intro hk
  rw [hk, hinactive] at hactive
  exact absurd hactive (by simp)

/-! ### Where an entry is put back -/

/-- An entry that takes an identifier on is put back at a place within the list, and nothing
else stands under the identifier. -/
lemma WellFormed.place_of_resolved (h : reg.WellFormed) {a : Address} {id : String}
    {hash : Option String} {record : Record}
    (hr : (reg.resolve a id hash).1 = .ok (.resolved record)) :
    ∃ i e, (reg.entries.findIdx? fun e => e.key == .address a) = some i ∧
      i ≤ (reg.entries.eraseIdx i).length ∧
      (∀ x ∈ reg.entries.eraseIdx i, x.key ≠ e.key) ∧ e.record = record ∧
      (reg.resolve a id hash).2.entries = (reg.entries.eraseIdx i).insertIdx i e := by
  obtain ⟨-, heq⟩ | ⟨owner, -, -, heq⟩ | ⟨e, he, hn, heq⟩ := h.resolve_cases a id hash
  · rw [heq] at hr
    exact absurd hr (by simp)
  · rw [heq] at hr
    exact absurd hr (by simp)
  · obtain ⟨before, after, hsplit, hother, hidx⟩ := h.split_of_find? he
    have hrest : reg.entries.eraseIdx before.length = before ++ after := by
      rw [hsplit, List.eraseIdx_append_of_length_le le_rfl, Nat.sub_self,
        List.eraseIdx_cons_zero]
    have hnone : ∀ x ∈ reg.entries, x.key ≠ .identifier id := by simpa [find?] using hn
    refine ⟨before.length, identified e id hash, hidx, by simp [hrest], fun x hx => ?_, ?_, ?_⟩
    · exact hnone x (List.mem_of_mem_eraseIdx hx)
    · rw [heq] at hr
      simpa using hr
    · rw [heq, modify_of_split hsplit (Registry.key_of_find? he) hother,
        List.insertIdx_eraseIdx_self (by simp [hsplit]), hsplit, List.set_append_right _ _ le_rfl]
      simp

/-- **Representation.** After any sequence of changes of an empty registry, at any times and with
any arguments: keys are pairwise distinct, every entry stands under the key of its record, so that
no identifier and no address without an identifier is registered twice; the check finds nothing
wrong; the two parts of the registry are the active and the inactive members, have no key in
common, stand in the order of the registry and make it up together; and an entry that takes an
identifier on is put back at a place within the list. -/
theorem representation_after (changes : List (Instant × Change)) :
    let reg := after changes
    (reg.entries.map Entry.key).Nodup ∧
    (∀ e ∈ reg.entries, e.key = e.record.key) ∧
    (reg.entries.map fun e => e.record.key).Nodup ∧
    reg.check = .ok () ∧
    reg.partition = (reg.active, reg.inactive) ∧
    (∀ r ∈ reg.partition.1, ∀ s ∈ reg.partition.2, r.key ≠ s.key) ∧
    reg.partition.1.Sublist (reg.entries.map Entry.record) ∧
    reg.partition.2.Sublist (reg.entries.map Entry.record) ∧
    (reg.partition.1 ++ reg.partition.2).Perm (reg.entries.map Entry.record) ∧
    reg.size = reg.activeCount + reg.inactive.length ∧
    ∀ a id hash record, (reg.resolve a id hash).1 = .ok (.resolved record) →
      ∃ i e, (reg.entries.findIdx? fun e => e.key == .address a) = some i ∧
        i ≤ (reg.entries.eraseIdx i).length ∧
        (∀ x ∈ reg.entries.eraseIdx i, x.key ≠ e.key) ∧ e.record = record ∧
        (reg.resolve a id hash).2.entries = (reg.entries.eraseIdx i).insertIdx i e := by
  intro reg
  have h : reg.WellFormed := wellFormed_after changes
  have hkeys : (reg.entries.map fun e => e.record.key) = reg.entries.map Entry.key :=
    List.map_congr_left fun e he => (h.placed e he).symm
  rw [partition_eq]
  refine ⟨h.distinct, h.placed, hkeys ▸ h.distinct, check_eq_ok_iff.mpr h.placed, rfl,
    fun r hr s hs => h.key_ne_of_mem hr hs, reg.withStatus_sublist true,
    reg.withStatus_sublist false, reg.active_append_inactive_perm, ?_,
    fun a id hash record hr => h.place_of_resolved hr⟩
  have hlength := reg.active_append_inactive_perm.length_eq
  rw [List.length_append, length_active, List.length_map] at hlength
  exact hlength.symm

end Registry

end Roster
