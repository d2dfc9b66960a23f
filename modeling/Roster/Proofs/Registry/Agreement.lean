import Mathlib.Data.List.Forall2
import Roster.Proofs.Registry.Changes

/-!
# Registries that agree but for the status of some members

Two registries agree if they hold the same entries in the same order, and with the same status
unless it is that of one of some members. Changes that are made in both keep them in agreement, and
come to the same in both.

* `Registry.Agrees`: agreement but for the status of some members.
* `Agrees.find?`, `Agrees.contains`, `Agrees.get?`: what is found in registries that agree.
* `Agrees.mergeMember`, `Agrees.resolve`, `Agrees.setStatus`, ...: changes that are made in both.
* `Agrees.withStatus_filter`: what is read of them where they agree.
-/

namespace Roster

namespace Registry

variable {P : String → Prop} {reg reg' : Registry} {k : Key} {e e' : Entry} {now now' : Instant}

/-- Entries that hold the same record under the same key, with the same status unless it is that of
one of some members. Since when they have it may differ. -/
structure Entry.Agrees (P : String → Prop) (e e' : Entry) : Prop where
  key : e'.key = e.key
  record : e'.record = e.record
  active : (∃ i, e.key = .identifier i ∧ P i) ∨ e'.active = e.active

/-- Registries with entries that agree, in the same order. -/
def Agrees (P : String → Prop) (reg reg' : Registry) : Prop :=
  List.Forall₂ (Entry.Agrees P) reg.entries reg'.entries

lemma Entry.Agrees.refl (e : Entry) : Entry.Agrees P e e := ⟨rfl, rfl, Or.inr rfl⟩

/-- Another status of an entry, if it agrees. -/
lemma Entry.Agrees.given (h : Entry.Agrees P e e') (b : Bool) :
    Entry.Agrees P (Entry.given b now e) (Entry.given b now' e') :=
  ⟨by simp [h.key], by simp [h.record], Or.inr (by simp)⟩

namespace Agrees

lemma refl (reg : Registry) : Agrees P reg reg :=
  List.forall₂_same.mpr fun e _ => Entry.Agrees.refl e

/-! ### What is found -/

/-- Under a key there is no entry in either, or there are entries that agree. -/
lemma find? (h : Agrees P reg reg') (k : Key) :
    (reg.find? k = none ∧ reg'.find? k = none) ∨
      ∃ e e', reg.find? k = some e ∧ reg'.find? k = some e' ∧ Entry.Agrees P e e' := by
  unfold Registry.find?
  unfold Agrees at h
  generalize reg.entries = es, reg'.entries = es' at h ⊢
  induction h with
  | nil => exact Or.inl ⟨rfl, rfl⟩
  | @cons e e' es es' he _ ih =>
      rw [List.find?_cons, List.find?_cons, he.key]
      cases e.key == k with
      | true => exact Or.inr ⟨e, e', rfl, rfl, he⟩
      | false => exact ih

lemma contains (h : Agrees P reg reg') (k : Key) : reg'.contains k = reg.contains k := by
  rw [contains_eq_isSome, contains_eq_isSome]
  obtain ⟨hn, hn'⟩ | ⟨e, e', he, he', -⟩ := h.find? k
  · rw [hn, hn']
  · rw [he, he']
    rfl

lemma get? (h : Agrees P reg reg') (i : String) : reg'.get? i = reg.get? i := by
  unfold Registry.get?
  obtain ⟨hn, hn'⟩ | ⟨e, e', he, he', hagree⟩ := h.find? (.identifier i)
  · rw [hn, hn']
  · rw [he, he', Option.map_some, Option.map_some, hagree.record]

/-! ### Single entries -/

lemma modify (h : Agrees P reg reg') {f f' : Entry → Entry}
    (hf : ∀ e e', e.key = k → Entry.Agrees P e e' → Entry.Agrees P (f e) (f' e')) :
    Agrees P (reg.modify k f) (reg'.modify k f') := by
  unfold Agrees Registry.modify
  rw [List.forall₂_map_left_iff, List.forall₂_map_right_iff]
  refine h.imp fun e e' he => ?_
  rw [he.key]
  split_ifs with hk
  · exact hf e e' hk he
  · exact he

lemma erase (h : Agrees P reg reg') (k : Key) : Agrees P (reg.erase k) (reg'.erase k) := by
  unfold Agrees at h
  unfold Agrees Registry.erase
  generalize reg.entries = es, reg'.entries = es' at h ⊢
  induction h with
  | nil => exact .nil
  | @cons e e' es es' he _ ih =>
      rw [List.filter_cons, List.filter_cons, he.key]
      split_ifs
      · exact .cons he ih
      · exact ih

lemma push (h : Agrees P reg reg') (he : Entry.Agrees P e e') :
    Agrees P (reg.push e) (reg'.push e') :=
  List.rel_append h (.cons he .nil)

/-! ### Changes that are made in both -/

lemma mergeMember (h : Agrees P reg reg') (id : String) (a : Address) (hash : Option String) :
    (reg'.mergeMember now' id a hash).1 = (reg.mergeMember now id a hash).1 ∧
      Agrees P (reg.mergeMember now id a hash).2 (reg'.mergeMember now' id a hash).2 := by
  unfold Registry.mergeMember
  obtain ⟨hn, hn'⟩ | ⟨e, e', he, he', hagree⟩ := h.find? (.identifier id)
  · simp only [hn, hn', true_and]
    exact (h.erase _).push ⟨rfl, rfl, Or.inr rfl⟩
  · simp only [he, he', hagree.record]
    split_ifs
    · exact ⟨rfl, h⟩
    · exact ⟨rfl, h.modify fun _ _ _ hx => ⟨hx.key, by rw [hx.record], hx.active⟩⟩

lemma updateHash (h : Agrees P reg reg') (id hash : String) :
    Agrees P (reg.updateHash id hash) (reg'.updateHash id hash) :=
  h.modify fun _ _ _ hx => ⟨hx.key, by rw [hx.record], hx.active⟩

/-- Telling an identifier comes to the same: the entry under the address is not one of those whose
status may differ. -/
lemma resolve (h : Agrees P reg reg') (hw : reg.WellFormed) (hw' : reg'.WellFormed) (a : Address)
    (id : String) (hash : Option String) :
    (reg'.resolve a id hash).1 = (reg.resolve a id hash).1 ∧
      Agrees P (reg.resolve a id hash).2 (reg'.resolve a id hash).2 := by
  obtain ⟨hn, hn'⟩ | ⟨e, e', he, he', hagree⟩ := h.find? (.address a)
  · rw [resolve_of_none hn, resolve_of_none hn']
    exact ⟨rfl, h⟩
  · have hsame : e'.active = e.active := by
      refine hagree.active.resolve_left ?_
      rintro ⟨i, hi, -⟩
      rw [key_of_find? he] at hi
      exact absurd hi (by simp)
    obtain ⟨ho, ho'⟩ | ⟨owner, owner', ho, ho', howner⟩ := h.find? (.identifier id)
    · -- Nothing stands under the identifier, so that the entry takes it on.
      obtain ⟨hx, -⟩ | ⟨x, -, hx, -⟩ | ⟨x, hx, -, heq⟩ := hw.resolve_cases a id hash
      · exact absurd (he.symm.trans hx) (by simp)
      · exact absurd (ho.symm.trans hx) (by simp)
      obtain ⟨hy, -⟩ | ⟨y, -, hy, -⟩ | ⟨y, hy, -, heq'⟩ := hw'.resolve_cases a id hash
      · exact absurd (he'.symm.trans hy) (by simp)
      · exact absurd (ho'.symm.trans hy) (by simp)
      obtain rfl : x = e := by simpa [he] using hx.symm
      obtain rfl : y = e' := by simpa [he'] using hy.symm
      have hrecord : (identified y id hash).record = (identified x id hash).record := by
        simp only [identified, hagree.record]
      rw [heq, heq', hrecord]
      exact ⟨rfl, h.modify fun _ _ _ _ => ⟨rfl, hrecord, Or.inr hsame⟩⟩
    · -- The identifier has an entry, which stays, while the other one leaves.
      obtain ⟨hx, -⟩ | ⟨x, -, hx, heq⟩ | ⟨x, -, hx, -⟩ := hw.resolve_cases a id hash
      · exact absurd (he.symm.trans hx) (by simp)
      swap
      · exact absurd (ho.symm.trans hx) (by simp)
      obtain ⟨hy, -⟩ | ⟨y, -, hy, heq'⟩ | ⟨y, -, hy, -⟩ := hw'.resolve_cases a id hash
      · exact absurd (he'.symm.trans hy) (by simp)
      swap
      · exact absurd (ho'.symm.trans hy) (by simp)
      obtain rfl : x = owner := by simpa [ho] using hx.symm
      obtain rfl : y = owner' := by simpa [ho'] using hy.symm
      rw [heq, heq', howner.record]
      exact ⟨rfl, (h.erase _).modify fun _ _ _ hz => ⟨hz.key, rfl, hz.active⟩⟩

end Agrees

/-! ### Changes of status -/

@[simp]
lemma Entry.key_ite_given {c : Prop} [Decidable c] (b : Bool) (e : Entry) :
    (if c then Entry.given b now e else e).key = e.key := by
  split_ifs <;> simp

@[simp]
lemma Entry.record_ite_given {c : Prop} [Decidable c] (b : Bool) (e : Entry) :
    (if c then Entry.given b now e else e).record = e.record := by
  split_ifs <;> simp

namespace Agrees

/-- A status that is given to all members but some of those whose status may differ. -/
lemma setStatus (h : Agrees P reg reg') (hw : reg.WellFormed) (hw' : reg'.WellFormed) {b : Bool}
    {records records' : List Record} (hall : ∀ r ∈ records, reg.contains r.key = true)
    (hall' : ∀ r ∈ records', reg'.contains r.key = true)
    (hkeys : ∀ k, (∃ i, k = .identifier i ∧ P i) ∨
      (k ∈ records'.map Record.key ↔ k ∈ records.map Record.key)) :
    Agrees P (reg.setStatus now b records).2 (reg'.setStatus now' b records').2 := by
  rw [Agrees, entries_setStatus hw hall, entries_setStatus hw' hall', List.forall₂_map_left_iff,
    List.forall₂_map_right_iff]
  refine List.Forall₂.imp (fun e e' he => ?_) h
  rcases hkeys e.key with hP | hsame
  · exact ⟨by simp [he.key], by simp [he.record], Or.inl (by simpa using hP)⟩
  · simp only [he.key, hsame]
    split_ifs
    · exact he.given b
    · exact he

/-- What is read of the members with a status, where they agree. -/
lemma withStatus_filter (h : Agrees P reg reg') (hw : reg.WellFormed) {p : Record → Bool}
    (hp : ∀ r, p r = true → ∀ i, r.key = .identifier i → ¬ P i) (b : Bool) :
    (reg'.withStatus b).filter p = (reg.withStatus b).filter p := by
  have hplaced := hw.placed
  unfold Registry.withStatus
  unfold Agrees at h
  generalize reg.entries = es, reg'.entries = es' at h hplaced ⊢
  induction h with
  | nil => rfl
  | @cons e e' es es' he _ ih =>
      obtain ⟨hone, hrest⟩ := List.forall_mem_cons.mp hplaced
      have hes := ih hrest
      by_cases hpe : p e.record = true
      · have hsame : e'.active = e.active := by
          refine he.active.resolve_left ?_
          rintro ⟨i, hi, hPi⟩
          exact hp _ hpe i (hone ▸ hi) hPi
        rw [List.filter_cons, List.filter_cons, hsame]
        split_ifs
        · simp only [List.map_cons, List.filter_cons, he.record, hes]
        · exact hes
      · have hpe' : p e'.record ≠ true := by rwa [he.record]
        rw [List.filter_cons, List.filter_cons]
        split_ifs <;> simp only [List.map_cons, List.filter_cons, hpe, hpe', Bool.false_eq_true,
          if_false, hes]

end Agrees

end Registry

end Roster
