import Roster.Proofs.Registry.Reachable

/-!
# What single changes leave

Members are never given up. Of all changes of a registry only two take an entry out, and the one
that leaves stood under an address; and of all changes only one makes members inactive.

* `Registry.replay`: the registry after a list of changes, each at its own time.
* `Registry.Via`: one registry comes from another by changes of a kind.
* `Change.IsGentle`, `Change.IsQuiet`: the changes that make nobody inactive, and those that give
  no entry another status.
* `Change.Keeps`: what a change leaves of identifiers, of entries without one, and of active
  members. Every change of a well-formed registry does.
* `exists_turn`: what holds of a registry and not after some changes ends with one of them.
* `Change.Names`: the identifiers that a change may register; `Via.exists_names` is where they come
  from.
-/

namespace Roster

namespace Change

/-- The changes that make nobody inactive. -/
def IsGentle : Change → Prop
  | deactivate _ => False
  | add _ | activate _ | resolve .. | mergeMember .. | updateHash .. => True

/-- The changes that give no entry another status. -/
def IsQuiet : Change → Prop
  | activate _ | deactivate _ => False
  | add _ | resolve .. | mergeMember .. | updateHash .. => True

/-- The identifiers that a change may register. -/
def Names : Change → String → Prop
  | add records, i => ∃ r ∈ records, r.identifier = some i
  | resolve _ id _, i | mergeMember id _ _, i => id = i
  | activate _, _ | deactivate _, _ | updateHash .., _ => False

variable {c : Change}

lemma IsQuiet.gentle (h : c.IsQuiet) : c.IsGentle := by
  cases c <;> trivial

lemma IsQuiet.orderly (h : c.IsQuiet) : c.IsOrderly := by
  cases c with
  | activate records => exact absurd h id
  | add records | deactivate records | resolve a id hash | mergeMember id a hash
  | updateHash id hash => trivial

end Change

namespace Registry

variable {reg reg' reg'' : Registry} {P Q : Change → Prop}

/-! ### Lists of changes -/

/-- The registry that a list of changes makes of another one. -/
def replay (deeds : List (Instant × Change)) (reg : Registry) : Registry :=
  deeds.foldl (fun reg d => d.2.apply d.1 reg) reg

lemma WellFormed.replay (h : reg.WellFormed) (deeds : List (Instant × Change)) :
    (reg.replay deeds).WellFormed := by
  induction deeds generalizing reg with
  | nil => exact h
  | cons d deeds ih => exact ih (h.apply d.1 d.2)

/-- If something holds of a registry and not after some changes, then one of these ends it. -/
lemma exists_turn {p : Registry → Prop} {deeds : List (Instant × Change)} (hbefore : p reg)
    (hafter : ¬ p (reg.replay deeds)) :
    ∃ before d after, deeds = before ++ d :: after ∧ p (reg.replay before) ∧
      ¬ p (d.2.apply d.1 (reg.replay before)) := by
  induction deeds generalizing reg with
  | nil => exact absurd hbefore hafter
  | cons d deeds ih =>
      -- Either the first change ends it, or one of those that follow.
      by_cases hd : p (d.2.apply d.1 reg)
      · obtain ⟨before, d', after, rfl, hp, hturn⟩ := ih hd hafter
        exact ⟨d :: before, d', after, rfl, hp, hturn⟩
      · exact ⟨[], d, deeds, rfl, hbefore, hd⟩

/-- Changes of a kind make one registry of the other. -/
def Via (P : Change → Prop) (reg reg' : Registry) : Prop :=
  ∃ deeds : List (Instant × Change), (∀ d ∈ deeds, P d.2) ∧ reg' = reg.replay deeds

namespace Via

lemma refl (reg : Registry) : Via P reg reg := ⟨[], by simp, rfl⟩

lemma single {c : Change} (hc : P c) (now : Instant) (reg : Registry) :
    Via P reg (c.apply now reg) := ⟨[(now, c)], by simpa using hc, rfl⟩

lemma trans (h : Via P reg reg') (h' : Via P reg' reg'') : Via P reg reg'' := by
  obtain ⟨deeds, hdeeds, rfl⟩ := h
  obtain ⟨deeds', hdeeds', rfl⟩ := h'
  refine ⟨deeds ++ deeds', fun d hd => ?_, by simp [replay]⟩
  rcases List.mem_append.mp hd with hd | hd
  · exact hdeeds d hd
  · exact hdeeds' d hd

lemma mono (h : Via P reg reg') (hPQ : ∀ c, P c → Q c) : Via Q reg reg' := by
  obtain ⟨deeds, hdeeds, hreg'⟩ := h
  exact ⟨deeds, fun d hd => hPQ _ (hdeeds d hd), hreg'⟩

/-- Changes that are orderly lead from one registry to the other. -/
lemma leadsTo (h : Via Change.IsOrderly reg reg') : LeadsTo reg reg' := by
  obtain ⟨deeds, hdeeds, rfl⟩ := h
  induction deeds generalizing reg with
  | nil => exact LeadsTo.refl _
  | cons d deeds ih =>
      obtain ⟨hd, hdeeds⟩ := List.forall_mem_cons.mp hdeeds
      exact (LeadsTo.single hd d.1 reg).trans (ih hdeeds)

lemma wellFormed (h : Via P reg reg') (hw : reg.WellFormed) : reg'.WellFormed := by
  obtain ⟨deeds, -, rfl⟩ := h
  exact hw.replay deeds

end Via

end Registry

/-! ### One change -/

/-- What a change at a time leaves of a registry. -/
structure Change.Keeps (now : Instant) (c : Change) (reg : Registry) : Prop where
  /-- Identifiers stay registered. -/
  identifier : ∀ i, reg.contains (.identifier i) = true →
    (c.apply now reg).contains (.identifier i) = true
  /-- An entry without an identifier leaves only if its member tells one, or if somebody who was
  not registered is listed at its address and is registered then. -/
  address : ∀ a, reg.contains (.address a) = true →
    (c.apply now reg).contains (.address a) = false →
    (∃ id hash, c = .resolve a id hash) ∨
    ∃ id hash, c = .mergeMember id a hash ∧ reg.contains (.identifier id) = false ∧
      (c.apply now reg).contains (.identifier id) = true
  /-- Active members with identifiers stay active unless they are to become inactive. -/
  active : ∀ i, reg.isActive? (.identifier i) = some true →
    (c.apply now reg).isActive? (.identifier i) ≠ some true →
    ∃ records, c = .deactivate records ∧ .identifier i ∈ records.map Record.key

namespace Registry

variable {reg : Registry} {now : Instant}

/-- Telling an identifier takes out at most the entry under the address that it is told for. -/
lemma WellFormed.contains_address_resolve (h : reg.WellFormed) {a b : Address}
    (hb : reg.contains (.address b) = true) (hne : b ≠ a) (id : String) (hash : Option String) :
    (reg.resolve a id hash).2.contains (.address b) = true := by
  rw [contains_eq_isSome] at hb ⊢
  rwa [h.find?_resolve_of_ne (by simpa using hne) (by simp)]

/-- Telling an identifier makes nobody inactive. -/
lemma WellFormed.active_resolve (h : reg.WellFormed) {i : String}
    (hact : reg.isActive? (.identifier i) = some true) (a : Address) (id : String)
    (hash : Option String) : (reg.resolve a id hash).2.isActive? (.identifier i) = some true := by
  obtain ⟨-, heq⟩ | ⟨owner, ha, ho, -⟩ | ⟨e, he, hn, -⟩ := h.resolve_cases a id hash
  · rwa [heq]
  · obtain ⟨record, -, -, -, hfind⟩ := h.resolve_of_owner ha ho hash
    rw [isActive?] at hact ⊢
    rw [hfind, if_neg (by simp)]
    split_ifs with hi
    · rwa [hi, ho] at hact
    · exact hact
  · obtain ⟨-, hfind⟩ := h.resolve_of_new he hn hash
    rw [isActive?] at hact ⊢
    rw [hfind, if_neg (by simp)]
    split_ifs with hi
    · rw [hi, hn] at hact
      exact absurd hact (by simp)
    · exact hact

/-- What takes an entry without an identifier out. -/
lemma WellFormed.address_apply (h : reg.WellFormed) {a : Address} {c : Change}
    (ha : reg.contains (.address a) = true)
    (hgone : (c.apply now reg).contains (.address a) = false) :
    (∃ id hash, c = .resolve a id hash) ∨
    ∃ id hash, c = .mergeMember id a hash ∧ reg.contains (.identifier id) = false ∧
      (c.apply now reg).contains (.identifier id) = true := by
  cases c with
  | add records => simp [Change.apply, contains_add, ha] at hgone
  | activate records => simp [Change.apply, activate, contains_setStatus, ha] at hgone
  | deactivate records => simp [Change.apply, deactivate, contains_setStatus, ha] at hgone
  | resolve b id hash =>
      by_cases hab : a = b
      · exact Or.inl ⟨id, hash, by rw [hab]⟩
      · rw [Change.apply, h.contains_address_resolve ha hab] at hgone
        exact absurd hgone (by simp)
  | mergeMember id b hash =>
      rw [← Bool.not_eq_true, Change.apply, contains_mergeMember] at hgone
      obtain ⟨hab, hnew⟩ : a = b ∧ reg.contains (.identifier id) = false := by
        simpa [ha] using hgone
      refine Or.inr ⟨id, hash, by rw [hab], hnew, ?_⟩
      exact (contains_mergeMember id b hash).mpr (Or.inl rfl)
  | updateHash id hash => simp [Change.apply, contains_updateHash, ha] at hgone

/-- What makes an active member with an identifier inactive. -/
lemma WellFormed.active_apply (h : reg.WellFormed) {i : String} {c : Change}
    (hi : reg.isActive? (.identifier i) = some true) :
    (c.apply now reg).isActive? (.identifier i) = some true ∨
      ∃ records, c = .deactivate records ∧ .identifier i ∈ records.map Record.key := by
  cases c with
  | add records => exact Or.inl ((active_add_iff records).mpr hi)
  | activate records =>
      left
      rw [Change.apply, activate]
      cases hm : reg.missing? records with
      | some k => rwa [setStatus_of_missing hm]
      | none =>
          rw [isActive?_setStatus (missing?_eq_none_iff.mp hm), hi]
          split_ifs <;> rfl
  | deactivate records =>
      by_cases hmem : .identifier i ∈ records.map Record.key
      · exact Or.inr ⟨records, rfl, hmem⟩
      · left
        rw [Change.apply, deactivate]
        cases hm : reg.missing? records with
        | some k => rwa [setStatus_of_missing hm]
        | none => rwa [isActive?_setStatus (missing?_eq_none_iff.mp hm), if_neg hmem]
  | resolve a id hash => exact Or.inl (h.active_resolve hi a id hash)
  | mergeMember id a hash =>
      left
      rw [Change.apply, isActive?_mergeMember, hi]
      rfl
  | updateHash id hash =>
      left
      rw [isActive?] at hi ⊢
      rw [Change.apply, find?_updateHash]
      split_ifs
      · simpa using hi
      · exact hi

/-- Every change of a well-formed registry keeps what it is not meant to end. -/
lemma WellFormed.keeps (h : reg.WellFormed) (now : Instant) (c : Change) : c.Keeps now reg :=
  ⟨fun _ hi => h.contains_identifier_apply hi now c, fun _ ha hgone => h.address_apply ha hgone,
    fun _ hi hout => (h.active_apply hi).resolve_left hout⟩

/-! ### New identifiers -/

variable {reg' : Registry} {i : String}

/-- An identifier that is registered after a change was so before, or is one that the change may
register. -/
lemma WellFormed.contains_or_names (h : reg.WellFormed) {c : Change}
    (hi : (c.apply now reg).contains (.identifier i) = true) :
    reg.contains (.identifier i) = true ∨ c.Names i := by
  cases c with
  | add records =>
      rw [Change.apply, contains_add, Bool.or_eq_true, decide_eq_true_eq, List.mem_map] at hi
      rcases hi with hi | ⟨r, hr, hkey⟩
      · exact Or.inl hi
      · exact Or.inr ⟨r, hr, Record.key_eq_identifier_iff.mp hkey⟩
  | activate records =>
      rw [Change.apply, activate, contains_setStatus] at hi
      exact Or.inl hi
  | deactivate records =>
      rw [Change.apply, deactivate, contains_setStatus] at hi
      exact Or.inl hi
  | resolve a id hash =>
      by_cases hid : i = id
      · exact Or.inr hid.symm
      · rw [Change.apply, contains_eq_isSome,
          h.find?_resolve_of_ne (by simp) (by simpa using hid), ← contains_eq_isSome] at hi
        exact Or.inl hi
  | mergeMember id a hash =>
      rw [Change.apply, contains_mergeMember] at hi
      rcases hi with hkey | ⟨hi, -⟩
      · exact Or.inr (Key.identifier.inj hkey).symm
      · exact Or.inl hi
  | updateHash id hash =>
      rw [Change.apply, contains_updateHash] at hi
      exact Or.inl hi

/-- An identifier that is registered after some changes was so before, or one of them may register
it. -/
lemma Via.exists_names {P : Change → Prop} (h : Via P reg reg') (hw : reg.WellFormed)
    (hi : reg'.contains (.identifier i) = true) :
    reg.contains (.identifier i) = true ∨ ∃ c, P c ∧ c.Names i := by
  obtain ⟨deeds, hdeeds, rfl⟩ := h
  by_contra hnone
  obtain ⟨hnew, hnames⟩ := not_or.mp hnone
  obtain ⟨before, d, after, rfl, hbefore, hturn⟩ :=
    exists_turn (p := fun reg => ¬ reg.contains (.identifier i) = true) hnew (not_not.mpr hi)
  rcases (hw.replay before).contains_or_names (not_not.mp hturn) with hold | hd
  · exact hbefore hold
  · exact hnames ⟨d.2, hdeeds d (by simp), hd⟩

end Registry

end Roster
