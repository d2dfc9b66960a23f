import Roster.Proofs.Registry.Changes

/-!
# Changes of status, all or nothing

Members are made active or inactive together. If one of them has no entry, none of them is
touched; otherwise every one of them has the status afterwards, and it is counted, once, whose
status this changed.

* `turned`: the keys that are named and whose entries have the other status.
* `Entry.Settled`: what becomes of one entry.
* `AllOrNothing`: what a change of status yields and leaves.
* `status_all_or_nothing`: making members active, and making them inactive.
-/

namespace Roster

namespace Registry

variable {reg : Registry} {now : Instant} {b : Bool} {records : List Record}

/-- The keys of some records under which there are entries with the other status. -/
def turned (b : Bool) (records : List Record) (reg : Registry) : Finset Key :=
  (records.map Record.key).toFinset.filter fun k => reg.isActive? k = some (!b)

/-- What becomes of an entry when some members are given a status. It stays where it is, with its
record. If it is named, it has the status then, and if it had the other one, it has it since now. -/
structure Entry.Settled (now : Instant) (b : Bool) (records : List Record) (reg : Registry)
    (e e' : Entry) : Prop where
  key : e'.key = e.key
  record : e'.record = e.record
  active : e'.active = if e.key ∈ records.map Record.key then b else e.active
  since : e'.since = if e.key ∈ reg.turned b records then now else e.since

/-- What a change of status yields and leaves. -/
structure AllOrNothing (now : Instant) (b : Bool) (records : List Record) (reg : Registry)
    (x : Except Failure Nat × Registry) : Prop where
  /-- It fails exactly if there is no entry for one of the records. -/
  fails_iff : (∃ f, x.1 = .error f) ↔ ∃ r ∈ records, reg.contains r.key = false
  /-- Then nothing at all changes, and the first record without an entry is named. -/
  untouched : ∀ f, x.1 = .error f →
    x.2 = reg ∧ ∃ k, reg.missing? records = some k ∧ f = notRegistered k
  /-- Otherwise it yields the number of entries whose status changed. -/
  counted : ∀ n, x.1 = .ok n → n = (reg.turned b records).card
  /-- And all entries are settled, in the order in which they were. -/
  settled : ∀ n, x.1 = .ok n →
    List.Forall₂ (Entry.Settled now b records reg) reg.entries x.2.entries

/-- An entry of a registry is turned if it is named and has the other status. -/
lemma WellFormed.key_mem_turned_iff (h : reg.WellFormed) {e : Entry} (he : e ∈ reg.entries) :
    e.key ∈ reg.turned b records ↔ e.key ∈ records.map Record.key ∧ e.active = !b := by
  rw [turned, Finset.mem_filter, List.mem_toFinset, isActive?, h.find?_iff.mpr ⟨he, rfl⟩,
    Option.map_some, Option.some.injEq]

/-- Giving the named entries of a registry a status settles each of them. -/
lemma WellFormed.settled_given (h : reg.WellFormed) {e : Entry} (he : e ∈ reg.entries) :
    Entry.Settled now b records reg e
      (if e.key ∈ records.map Record.key then Entry.given b now e else e) := by
  have hturned : e.key ∈ reg.turned b records ↔ e.key ∈ records.map Record.key ∧ e.active = !b :=
    h.key_mem_turned_iff he
  by_cases hk : e.key ∈ records.map Record.key
  · refine ⟨by simp [hk], by simp [hk], by simp [hk], ?_⟩
    rw [if_pos hk, Entry.given]
    by_cases hb : e.active = b
    · rw [if_pos hb, if_neg]
      rw [hturned, hb]
      simp
    · rw [if_neg hb, if_pos (hturned.mpr ⟨hk, Bool.eq_not.mpr hb⟩)]
  · have hout : e.key ∉ reg.turned b records := fun hmem => hk (hturned.mp hmem).1
    exact ⟨by simp [hk], by simp [hk], by simp [hk], by rw [if_neg hk, if_neg hout]⟩

lemma exists_of_missing? {k : Key} (h : reg.missing? records = some k) :
    ∃ r ∈ records, reg.contains r.key = false := by
  obtain ⟨r, hr, rfl⟩ := List.mem_map.mp (List.mem_of_find?_eq_some h)
  exact ⟨r, hr, by simpa using List.find?_some h⟩

lemma WellFormed.allOrNothing_setStatus (h : reg.WellFormed) (now : Instant) (b : Bool)
    (records : List Record) :
    AllOrNothing now b records reg (reg.setStatus now b records) := by
  cases hm : reg.missing? records with
  | some k =>
      have hmissing := exists_of_missing? hm
      rw [setStatus_of_missing hm]
      refine ⟨⟨fun _ => hmissing, fun _ => ⟨_, rfl⟩⟩, fun f hf => ⟨rfl, k, hm, ?_⟩,
        fun n hn => absurd hn (by simp), fun n hn => absurd hn (by simp)⟩
      exact (Except.error.inj hf).symm
  | none =>
      have hall := missing?_eq_none_iff.mp hm
      have hok : (reg.setStatus now b records).1 = .ok (reg.turned b records).card :=
        (setStatus_of_contains hall).1
      refine ⟨⟨?_, ?_⟩, fun f hf => ?_, fun n hn => ?_, fun n _ => ?_⟩
      · rintro ⟨f, hf⟩
        rw [hok] at hf
        exact absurd hf (by simp)
      · rintro ⟨r, hr, hc⟩
        rw [hall r hr] at hc
        exact absurd hc (by simp)
      · rw [hok] at hf
        exact absurd hf (by simp)
      · exact (Except.ok.inj (hok.symm.trans hn)).symm
      · rw [entries_setStatus h hall, List.forall₂_map_right_iff]
        exact List.forall₂_same.mpr fun e he => h.settled_given he

/-- **All or nothing.** Let some members be made active, or inactive, however often each of them is
named, and whatever else than its key is said of it. This fails exactly if one of them has no entry,
and then the registry is what it was, with all its times. Otherwise it yields for how many keys
among those that were named the status was another one; every entry that was named has the status
then, those that were counted have it since now, and all other entries and times, all records and
the order of the entries are what they were. -/
theorem status_all_or_nothing (h : reg.WellFormed) (now : Instant) (records : List Record) :
    AllOrNothing now true records reg (reg.activate now records) ∧
      AllOrNothing now false records reg (reg.deactivate now records) :=
  ⟨h.allOrNothing_setStatus now true records, h.allOrNothing_setStatus now false records⟩

/-- Of two members that are made active, one is active already and the other one is named twice, once
at an address where it is not; and when a stranger is named with them, nobody becomes inactive. -/
lemma status_all_or_nothing_twice :
    let a : Address := ⟨"http", none, .whole "a", none, none⟩
    let b : Address := ⟨"http", none, .whole "b", none, none⟩
    let reg : Registry := ⟨[.fresh (.resolved a "a" none) true 0, .fresh (.resolved b "b" none) false 0]⟩
    let records : List Record := [.resolved b "b" none, .resolved a "a" none, .resolved a "b" none]
    let strangers : List Record := [.resolved a "a" none, .unresolved b]
    reg.WellFormed ∧ (reg.activate 7 records).1 = .ok 1 ∧ 1 = (reg.turned true records).card ∧
      List.Forall₂ (Entry.Settled 7 true records reg) reg.entries (reg.activate 7 records).2.entries ∧
      (reg.deactivate 7 strangers).1 = .error (notRegistered (.address b)) ∧
      (reg.deactivate 7 strangers).2 = reg := by
  intro a b reg records strangers
  have hw : reg.WellFormed := ⟨by decide, by decide⟩
  have hok : (reg.activate 7 records).1 = .ok 1 := by decide
  have hfails : (reg.deactivate 7 strangers).1 = .error (notRegistered (.address b)) := by decide
  have hactivate := (status_all_or_nothing hw 7 records).1
  have hdeactivate := (status_all_or_nothing hw 7 strangers).2
  exact ⟨hw, hok, hactivate.counted 1 hok, hactivate.settled 1 hok, hfails,
    (hdeactivate.untouched _ hfails).1⟩

end Registry

end Roster
