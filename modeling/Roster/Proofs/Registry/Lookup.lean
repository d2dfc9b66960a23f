import Mathlib.Data.List.InsertIdx
import Mathlib.Data.List.Nodup
import Roster.Registry.Basic

/-!
# What stands under a key after a change

A registry is read through `Registry.find?`: two keys never share an entry. What a change does to the
list of entries is described here by what `find?` yields afterwards, so that later proofs need not
look at the list again.

* `Registry.WellFormed`: the keys are pairwise distinct, and every entry stands under the key of
  its record.
* `WellFormed.find?_iff`: which entry stands under a key.
* `check_eq_ok_iff`: what the check of a registry finds out.
* `find?_modify`, `find?_erase`, `find?_push`: the entry under a key after the three ways in which
  changes act on the list.
-/

namespace Roster

namespace Registry

variable {reg : Registry} {k k' : Key} {e : Entry} {now : Instant}

/-- The keys are pairwise distinct, and every entry stands under the key of its record. -/
structure WellFormed (reg : Registry) : Prop where
  distinct : (reg.entries.map Entry.key).Nodup
  placed : ∀ e ∈ reg.entries, e.key = e.record.key

/-! ### Looking a key up -/

/-- With distinct keys, an entry is found under its key. -/
lemma find?_eq_some_iff (h : (reg.entries.map Entry.key).Nodup) :
    reg.find? k = some e ↔ e ∈ reg.entries ∧ e.key = k := by
  refine ⟨fun hf => ⟨mem_of_find? hf, key_of_find? hf⟩, ?_⟩
  rintro ⟨he, rfl⟩
  cases hf : reg.find? e.key with
  | none =>
      have hn := List.find?_eq_none.mp hf e he
      simp at hn
  | some e' =>
      have hk := key_of_find? hf
      rw [List.inj_on_of_nodup_map h (mem_of_find? hf) he hk]

lemma contains_eq_isSome (reg : Registry) (k : Key) : reg.contains k = (reg.find? k).isSome := by
  cases h : reg.find? k with
  | none => simpa using find?_eq_none_iff.mp h
  | some e => simpa using contains_iff.mpr ⟨e, mem_of_find? h, key_of_find? h⟩

lemma contains_iff_exists_find? : reg.contains k = true ↔ ∃ e, reg.find? k = some e := by
  rw [contains_eq_isSome, Option.isSome_iff_exists]

lemma isActive?_eq_some_iff {b : Bool} :
    reg.isActive? k = some b ↔ ∃ e, reg.find? k = some e ∧ e.active = b := by
  simp [isActive?]

lemma isActive?_eq_none_iff : reg.isActive? k = none ↔ reg.contains k = false := by
  simp [isActive?, find?_eq_none_iff]

/-- What is not inactive is active if it is there at all. -/
lemma active_iff_contains (h : reg.isActive? k ≠ some false) :
    reg.isActive? k = some true ↔ reg.contains k = true := by
  rw [← Bool.not_eq_false, ← isActive?_eq_none_iff]
  cases hstatus : reg.isActive? k with
  | none => simp
  | some b =>
      cases b with
      | true => simp
      | false => exact absurd hstatus h

namespace WellFormed

lemma empty : WellFormed Registry.empty := ⟨by simp, by simp⟩

lemma find?_iff (h : reg.WellFormed) : reg.find? k = some e ↔ e ∈ reg.entries ∧ e.key = k :=
  find?_eq_some_iff h.distinct

/-- What is found under a key is the record of that key. -/
lemma record_key (h : reg.WellFormed) (hf : reg.find? k = some e) : e.record.key = k := by
  rw [← h.placed e (mem_of_find? hf), Registry.key_of_find? hf]

/-- A record with a status is the record under its key. -/
lemma mem_withStatus_iff (h : reg.WellFormed) {b : Bool} {r : Record} :
    r ∈ reg.withStatus b ↔ ∃ e, reg.find? r.key = some e ∧ e.active = b ∧ e.record = r := by
  simp only [withStatus, List.mem_map, List.mem_filter, beq_iff_eq]
  constructor
  · rintro ⟨e, ⟨he, hb⟩, rfl⟩
    exact ⟨e, h.find?_iff.mpr ⟨he, h.placed e he⟩, hb, rfl⟩
  · rintro ⟨e, hf, hb, hr⟩
    exact ⟨e, ⟨mem_of_find? hf, hb⟩, hr⟩

/-- Who is in a list with a status has it. -/
lemma isActive?_of_mem (h : reg.WellFormed) {b : Bool} {r : Record} (hr : r ∈ reg.withStatus b) :
    reg.isActive? r.key = some b := by
  obtain ⟨e, he, hb, -⟩ := h.mem_withStatus_iff.mp hr
  exact isActive?_eq_some_iff.mpr ⟨e, he, hb⟩

/-- The status of a member is told by the list in which it stands. -/
lemma isActive?_identifier_iff (h : reg.WellFormed) {b : Bool} {i : String} :
    reg.isActive? (.identifier i) = some b ↔ ∃ r ∈ reg.withStatus b, r.identifier = some i := by
  constructor
  · rw [isActive?_eq_some_iff]
    rintro ⟨e, he, hact⟩
    have hkey := h.record_key he
    exact ⟨e.record, h.mem_withStatus_iff.mpr ⟨e, by rwa [hkey], hact, rfl⟩,
      Record.key_eq_identifier_iff.mp hkey⟩
  · rintro ⟨r, hr, hi⟩
    rw [← Record.key_eq_identifier_iff.mpr hi]
    exact h.isActive?_of_mem hr

/-- The records with a status have distinct keys. -/
lemma keys_withStatus_nodup (h : reg.WellFormed) (b : Bool) :
    ((reg.withStatus b).map Record.key).Nodup := by
  have hkeys : (reg.withStatus b).map Record.key =
      (reg.entries.filter fun e => e.active == b).map Entry.key := by
    rw [withStatus, List.map_map]
    refine List.map_congr_left fun e he => ?_
    exact (h.placed e (List.mem_of_mem_filter he)).symm
  rw [hkeys]
  exact (List.filter_sublist.map Entry.key).nodup h.distinct

end WellFormed

lemma check_eq_ok_iff : reg.check = .ok () ↔ ∀ e ∈ reg.entries, e.key = e.record.key := by
  unfold check
  cases h : reg.entries.find? fun e => e.key ≠ e.record.key with
  | none => simpa using List.find?_eq_none.mp h
  | some e =>
      have he := List.find?_some h
      simp only [reduceCtorEq, false_iff]
      intro hall
      exact absurd (hall e (List.mem_of_find?_eq_some h)) (by simpa using he)

/-! ### Changing, taking out and putting in -/

/-- A change that keeps keys touches the entry under its key only. -/
lemma find?_modify {f : Entry → Entry} (h : ∀ e, (f e).key = e.key) :
    (reg.modify k f).find? k' = if k' = k then (reg.find? k).map f else reg.find? k' := by
  have hcomp : (fun e : Entry => e.key == k') ∘ (fun e => if e.key = k then f e else e) =
      fun e => e.key == k' := by
    funext e
    by_cases he : e.key = k <;> simp [he, h]
  simp only [find?, modify, List.find?_map, hcomp]
  split_ifs with hk
  · subst hk
    refine Option.map_congr fun e he => ?_
    rw [if_pos (by simpa using List.find?_some he)]
  · cases hf : reg.entries.find? fun e => e.key == k' with
    | none => rfl
    | some e =>
        have he : e.key = k' := by simpa using List.find?_some hf
        rw [Option.map_some, if_neg (he ▸ hk)]

lemma find?_erase : (reg.erase k).find? k' = if k' = k then none else reg.find? k' := by
  simp only [find?, erase, List.find?_filter]
  split_ifs with hk
  · subst hk
    simp
  · congr 1
    funext e
    by_cases he : e.key = k' <;> simp [he, hk]

lemma find?_push :
    (reg.push e).find? k = (reg.find? k).or (if e.key = k then some e else none) := by
  simp only [find?, push, List.find?_append]
  congr 1
  by_cases he : e.key = k <;> simp [he]

lemma WellFormed.modify (h : reg.WellFormed) {f : Entry → Entry} (hk : ∀ e, (f e).key = e.key)
    (hr : ∀ e, e.key = k → e.record.key = k → (f e).record.key = k) :
    (reg.modify k f).WellFormed := by
  refine ⟨by rw [keys_modify hk]; exact h.distinct, ?_⟩
  intro e he
  obtain ⟨e₀, he₀, rfl⟩ := List.mem_map.mp he
  split_ifs with hkey
  · rw [hk, hkey, hr e₀ hkey (by rw [← h.placed e₀ he₀, hkey])]
  · exact h.placed e₀ he₀

lemma WellFormed.erase (h : reg.WellFormed) (k : Key) : (reg.erase k).WellFormed :=
  ⟨(List.filter_sublist.map Entry.key).nodup h.distinct,
    fun e he => h.placed e (List.mem_of_mem_filter he)⟩

lemma WellFormed.push (h : reg.WellFormed) (hnew : reg.contains e.key = false)
    (he : e.key = e.record.key) : (reg.push e).WellFormed := by
  have hnot : e.key ∉ reg.entries.map Entry.key := by
    intro hmem
    obtain ⟨e', he', hk⟩ := List.mem_map.mp hmem
    rw [contains_iff.mpr ⟨e', he', hk⟩] at hnew
    exact absurd hnew (by simp)
  refine ⟨?_, ?_⟩
  · rw [entries_push, List.map_append, List.map_singleton, List.nodup_append]
    refine ⟨h.distinct, by simp, ?_⟩
    intro a ha b hb hab
    rw [List.mem_singleton.mp hb] at hab
    exact hnot (hab ▸ ha)
  · intro e' he'
    rcases List.mem_append.mp he' with hold | hnew'
    · exact h.placed e' hold
    · rw [List.mem_singleton.mp hnew', he]

end Registry

end Roster
