import Roster.Proofs.Registry.Reachable

/-!
# What a change leaves as it is

A change of a registry touches only what it is about. Members that stay keep their order, a new one
comes last, and only a change of status gives an entry another time. The one exception is a member
that tells its identifier: it takes its place and its status along.

* `keys`: the keys of a registry, in the order of its entries.
* `KeepsOrder`, `Appends`: entries stay in their order, and new ones are put at the end.
* `appends_apply`: every change does so unless a member takes an identifier on; `places_of_resolved`:
  where that one goes.
* `standing_apply`: which changes give an entry another status or another time.
* `moved_apply`: which changes give an entry another address.
* `Change.Frames`: all that a change leaves as it is; `change_frames`: every change does.
-/

namespace Roster

namespace Registry

variable {reg reg' : Registry} {now : Instant} {k : Key} {e e' : Entry}

/-! ### The order of the entries -/

/-- The keys of a registry, in the order of its entries. -/
def keys (reg : Registry) : List Key := reg.entries.map Entry.key

lemma mem_keys_iff : k ∈ reg.keys ↔ reg.contains k = true := by simp [keys, contains_iff]

/-- The entries that stay are in the order in which they were. -/
def KeepsOrder (reg reg' : Registry) : Prop :=
  reg'.keys.filter (fun k => reg.contains k) = reg.keys.filter fun k => reg'.contains k

/-- The entries that stay are in the order in which they were, and new ones come after them. -/
def Appends (reg reg' : Registry) : Prop :=
  ∃ new, reg'.keys = (reg.keys.filter fun k => reg'.contains k) ++ new ∧
    ∀ k ∈ new, reg.contains k = false

/-- An entry under another key takes the place of one that leaves. -/
lemma KeepsOrder.of_replaced {xs ys : List Key} {k' : Key} (h : reg.keys = xs ++ k :: ys)
    (h' : reg'.keys = xs ++ k' :: ys) (hk : k ∉ reg'.keys) (hk' : k' ∉ reg.keys) :
    KeepsOrder reg reg' := by
  have hstay : ∀ zs, zs ⊆ xs ++ ys → zs.filter (fun k => reg.contains k) = zs ∧
      zs.filter (fun k => reg'.contains k) = zs := by
    intro zs hzs
    rw [List.filter_eq_self, List.filter_eq_self]
    have hmem : ∀ z ∈ zs, z ∈ reg.keys ∧ z ∈ reg'.keys := by
      intro z hz
      have hz := List.mem_append.mp (hzs hz)
      rw [h, h', List.mem_append, List.mem_append, List.mem_cons, List.mem_cons]
      tauto
    exact ⟨fun z hz => mem_keys_iff.mp (hmem z hz).1, fun z hz => mem_keys_iff.mp (hmem z hz).2⟩
  obtain ⟨hxs, hxs'⟩ := hstay xs (List.subset_append_left _ _)
  obtain ⟨hys, hys'⟩ := hstay ys (List.subset_append_right _ _)
  rw [mem_keys_iff] at hk hk'
  rw [KeepsOrder, h, h', List.filter_append, List.filter_append, List.filter_cons_of_neg hk',
    List.filter_cons_of_neg hk, hxs, hxs', hys, hys']

namespace Appends

lemma keepsOrder (h : Appends reg reg') : KeepsOrder reg reg' := by
  obtain ⟨new, hkeys, hnew⟩ := h
  have hstay : ∀ k ∈ reg.keys.filter (fun k => reg'.contains k), reg.contains k = true :=
    fun k hk => mem_keys_iff.mp (List.mem_of_mem_filter hk)
  have hgone : new.filter (fun k => reg.contains k) = [] :=
    List.filter_eq_nil_iff.mpr fun k hk => by simp [hnew k hk]
  rw [KeepsOrder, hkeys, List.filter_append, List.filter_eq_self.mpr hstay, hgone, List.append_nil]

/-- Some entries are left out, and new ones are put at the end. -/
lemma of_filter {p : Key → Bool} (new : List Key) (h : reg'.keys = reg.keys.filter p ++ new)
    (hnew : ∀ k ∈ new, reg.contains k = false) : Appends reg reg' := by
  refine ⟨new, ?_, hnew⟩
  suffices hstay : ∀ k ∈ reg.keys, p k = reg'.contains k by rw [h, List.filter_congr hstay]
  intro k hk
  have hold := mem_keys_iff.mp hk
  have hout : k ∉ new := fun hmem => by simp [hnew k hmem] at hold
  rw [Bool.eq_iff_iff, ← mem_keys_iff, h, List.mem_append, List.mem_filter]
  simp [hk, hout]

/-- Nobody leaves. -/
lemma of_append (new : List Key) (h : reg'.keys = reg.keys ++ new)
    (hnew : ∀ k ∈ new, reg.contains k = false) : Appends reg reg' :=
  of_filter (p := fun _ => true) new (by rwa [List.filter_true]) hnew

lemma of_keys (h : reg'.keys = reg.keys) : Appends reg reg' :=
  of_append [] (by rw [h, List.append_nil]) (by simp)

end Appends

lemma keys_push : (reg.push e).keys = reg.keys ++ [e.key] := by simp [keys]

lemma keys_erase : (reg.erase k).keys = reg.keys.filter fun k' => k' ≠ k := by
  rw [keys, erase, keys, List.filter_map]
  rfl

lemma keys_addOne (record : Record) :
    (reg.addOne now record).keys =
      reg.keys ++ if reg.contains record.key then [] else [record.key] := by
  unfold addOne
  split_ifs
  · rw [List.append_nil]
    exact keys_modify fun _ => rfl
  · exact keys_push

lemma appends_add (records : List Record) : Appends reg (reg.add now records) := by
  suffices h : ∃ new, (reg.add now records).keys = reg.keys ++ new ∧
      ∀ k ∈ new, reg.contains k = false by
    obtain ⟨new, hkeys, hnew⟩ := h
    exact .of_append new hkeys hnew
  induction records generalizing reg with
  | nil => exact ⟨[], by simp [add], by simp⟩
  | cons r rs ih =>
      obtain ⟨new, hkeys, hnew⟩ := @ih (reg.addOne now r)
      rw [keys_addOne, List.append_assoc] at hkeys
      refine ⟨_, hkeys, fun k hk => ?_⟩
      rcases List.mem_append.mp hk with hk | hk
      · split_ifs at hk with hc
        · exact absurd hk List.not_mem_nil
        · rw [List.mem_singleton.mp hk]
          exact Bool.eq_false_iff.mpr hc
      · have hout := hnew k hk
        rw [contains_addOne, Bool.or_eq_false_iff] at hout
        exact hout.1

lemma WellFormed.appends_setStatus (h : reg.WellFormed) (b : Bool) (records : List Record) :
    Appends reg (reg.setStatus now b records).2 := by
  cases hm : reg.missing? records with
  | some k =>
      rw [setStatus_of_missing hm]
      exact .of_keys rfl
  | none =>
      refine .of_keys ?_
      rw [keys, entries_setStatus h (missing?_eq_none_iff.mp hm), List.map_map]
      refine List.map_congr_left fun e _ => ?_
      rw [Function.comp_apply]
      split_ifs
      · exact Entry.key_given b e
      · rfl

lemma appends_mergeMember (id : String) (a : Address) (hash : Option String) :
    Appends reg (reg.mergeMember now id a hash).2 := by
  unfold mergeMember
  cases hf : reg.find? (.identifier id) with
  | some e =>
      refine .of_keys ?_
      dsimp only
      split_ifs
      · rfl
      · exact keys_modify fun _ => rfl
  | none =>
      refine .of_filter (p := fun k => k ≠ .address a) [.identifier id] ?_ ?_
      · rw [keys_push, keys_erase]
        rfl
      · simpa using find?_eq_none_iff.mp hf

/-- A member that tells an identifier which has an entry leaves, and nobody else does. -/
lemma WellFormed.merged_of_resolve (h : reg.WellFormed) {a : Address} {id : String}
    {hash : Option String} {record : Record}
    (hr : (reg.resolve a id hash).1 = .ok (.merged record)) :
    ∃ owner, reg.find? (.identifier id) = some owner ∧
      record = { owner.record with topologyHash := hash <|> owner.record.topologyHash } ∧
      (reg.resolve a id hash).2 =
        (reg.erase (.address a)).modify (.identifier id) fun e => { e with record := record } := by
  obtain ⟨-, heq⟩ | ⟨owner, -, ho, heq⟩ | ⟨e, -, -, heq⟩ := h.resolve_cases a id hash
  · rw [heq] at hr
    exact absurd hr (by simp)
  · rw [heq] at hr ⊢
    obtain rfl : _ = record := Resolution.merged.inj (Except.ok.inj hr)
    exact ⟨owner, ho, rfl, rfl⟩
  · rw [heq] at hr
    exact absurd hr (by simp)

/-- A member that takes an identifier on stays where it is. -/
lemma WellFormed.places_of_resolved (h : reg.WellFormed) {a : Address} {id : String}
    {hash : Option String} {record : Record}
    (hr : (reg.resolve a id hash).1 = .ok (.resolved record)) :
    ∃ before e after, reg.entries = before ++ e :: after ∧ e.key = .address a ∧
      (∀ x ∈ before ++ after, x.key ≠ .address a) ∧ reg.contains (.identifier id) = false ∧
      record = ⟨a, some id, hash⟩ ∧
      (reg.resolve a id hash).2.entries =
        before ++ ⟨.identifier id, record, e.active, e.since⟩ :: after := by
  obtain ⟨-, heq⟩ | ⟨owner, -, -, heq⟩ | ⟨e, he, hn, heq⟩ := h.resolve_cases a id hash
  · rw [heq] at hr
    exact absurd hr (by simp)
  · rw [heq] at hr
    exact absurd hr (by simp)
  · obtain ⟨before, after, hsplit, hother, -⟩ := h.split_of_find? he
    have hkey := Registry.key_of_find? he
    have haddress : e.record.address = a :=
      (Record.key_eq_address_iff.mp (h.record_key he)).2
    rw [heq] at hr ⊢
    obtain rfl : _ = record := Resolution.resolved.inj (Except.ok.inj hr)
    refine ⟨before, e, after, hsplit, hkey, hother, find?_eq_none_iff.mp hn, ?_, ?_⟩
    · rw [← haddress]
      rfl
    · rw [modify_of_split hsplit hkey hother]
      rfl

/-- The others keep their order when a member takes an identifier on. -/
lemma WellFormed.keepsOrder_of_resolved (h : reg.WellFormed) {a : Address} {id : String}
    {hash : Option String} {record : Record}
    (hr : (reg.resolve a id hash).1 = .ok (.resolved record)) :
    KeepsOrder reg (reg.resolve a id hash).2 := by
  obtain ⟨before, e, after, hsplit, hkey, hother, hnew, -, hentries⟩ := h.places_of_resolved hr
  have hkeys : reg.keys = before.map Entry.key ++ .address a :: after.map Entry.key := by
    rw [keys, hsplit, List.map_append, List.map_cons, hkey]
  have hkeys' : (reg.resolve a id hash).2.keys =
      before.map Entry.key ++ .identifier id :: after.map Entry.key := by
    rw [keys, hentries, List.map_append, List.map_cons]
  have hgone : .address a ∉ (reg.resolve a id hash).2.keys := by
    rw [hkeys', List.mem_append, List.mem_cons, List.mem_map, List.mem_map]
    rintro (⟨x, hx, hk⟩ | hk | ⟨x, hx, hk⟩)
    · exact hother x (List.mem_append_left _ hx) hk
    · exact absurd hk (by simp)
    · exact hother x (List.mem_append_right _ hx) hk
  exact .of_replaced hkeys hkeys' hgone (by simp [mem_keys_iff, hnew])

/-! ### The order after a change -/

lemma WellFormed.appends_resolve (h : reg.WellFormed) {a : Address} {id : String}
    {hash : Option String} (hr : ∀ record, (reg.resolve a id hash).1 ≠ .ok (.resolved record)) :
    Appends reg (reg.resolve a id hash).2 := by
  obtain ⟨-, heq⟩ | ⟨owner, -, -, heq⟩ | ⟨e, -, -, heq⟩ := h.resolve_cases a id hash
  · rw [heq]
    exact .of_keys rfl
  · rw [heq]
    refine .of_filter (p := fun k => k ≠ .address a) [] ?_ (by simp)
    dsimp only
    rw [List.append_nil, ← keys_erase]
    exact keys_modify fun _ => rfl
  · exact absurd (congrArg Prod.fst heq) (hr _)

/-- Every change puts new entries at the end, except that a member may take an identifier on. -/
lemma WellFormed.appends_apply (h : reg.WellFormed) (now : Instant) (c : Change)
    (hc : ∀ a id hash, c = .resolve a id hash →
      ∀ record, (reg.resolve a id hash).1 ≠ .ok (.resolved record)) :
    Appends reg (c.apply now reg) := by
  cases c with
  | add records => exact appends_add records
  | activate records => exact h.appends_setStatus true records
  | deactivate records => exact h.appends_setStatus false records
  | resolve a id hash => exact h.appends_resolve (hc a id hash rfl)
  | mergeMember id a hash => exact appends_mergeMember id a hash
  | updateHash id hash => exact .of_keys (keys_modify fun _ => rfl)

lemma WellFormed.keepsOrder_apply (h : reg.WellFormed) (now : Instant) (c : Change) :
    KeepsOrder reg (c.apply now reg) := by
  by_cases hc : ∃ a id hash record, c = .resolve a id hash ∧
      (reg.resolve a id hash).1 = .ok (.resolved record)
  · obtain ⟨a, id, hash, record, rfl, hr⟩ := hc
    exact h.keepsOrder_of_resolved hr
  · push Not at hc
    exact (h.appends_apply now c fun a id hash heq record => hc a id hash record heq).keepsOrder

/-! ### An entry that stays -/

/-- An entry takes over the records under its key, and nothing else. -/
lemma find?_add_of_some (records : List Record) (he : reg.find? k = some e) :
    ∃ record, (reg.add now records).find? k = some { e with record := record } ∧
      (k ∈ records.map Record.key ∨ record = e.record) := by
  induction records generalizing reg e with
  | nil => exact ⟨e.record, he, Or.inr rfl⟩
  | cons r rs ih =>
      by_cases hk : k = r.key
      · subst hk
        have hone : (reg.addOne now r).find? r.key = some { e with record := r } := by
          rw [find?_addOne, if_pos rfl, he]
          rfl
        obtain ⟨record, hadd, -⟩ := ih hone
        exact ⟨record, hadd, Or.inl List.mem_cons_self⟩
      · have hone : (reg.addOne now r).find? k = some e := by
          rw [find?_addOne, if_neg hk, he]
        obtain ⟨record, hadd, hor⟩ := ih hone
        exact ⟨record, hadd, hor.imp_left (List.mem_cons_of_mem _)⟩

/-- A change of status turns an entry that is named and has the other status, and no other one. -/
lemma find?_setStatus_of_some {b : Bool} {records : List Record} (he : reg.find? k = some e)
    (he' : (reg.setStatus now b records).2.find? k = some e') :
    e' = e ∨ k ∈ records.map Record.key ∧ e.active = !b ∧
      e' = { e with active := b, since := now } := by
  cases hm : reg.missing? records with
  | some k' =>
      rw [setStatus_of_missing hm, he] at he'
      exact Or.inl (Option.some.inj he').symm
  | none =>
      rw [(setStatus_of_contains (missing?_eq_none_iff.mp hm)).2, he] at he'
      split_ifs at he' with hk
      · obtain rfl : Entry.given b now e = e' := Option.some.inj he'
        by_cases hb : e.active = b
        · exact Or.inl (if_pos hb)
        · exact Or.inr ⟨hk, Bool.eq_not.mpr hb, if_neg hb⟩
      · exact Or.inl (Option.some.inj he').symm

/-- Telling an identifier moves nobody and changes the status of none. -/
lemma WellFormed.find?_resolve_of_some (h : reg.WellFormed) {a : Address} {id : String}
    {hash : Option String} (he : reg.find? k = some e)
    (he' : (reg.resolve a id hash).2.find? k = some e') :
    ∃ record : Record, e' = { e with record := record } ∧
      record.address = e.record.address := by
  have hsame : reg.find? k = some e' → ∃ record : Record, e' = { e with record := record } ∧
      record.address = e.record.address := by
    intro hsame
    obtain rfl : e = e' := Option.some.inj (he.symm.trans hsame)
    exact ⟨e.record, rfl, rfl⟩
  obtain ⟨-, heq⟩ | ⟨owner, ha, ho, -⟩ | ⟨x, hx, hn, -⟩ := h.resolve_cases a id hash
  · rw [heq] at he'
    exact hsame he'
  · obtain ⟨record, haddress, -, -, hfind⟩ := h.resolve_of_owner ha ho hash
    rw [hfind] at he'
    split_ifs at he' with hk hid
    · rw [hid] at he
      obtain rfl : owner = e := Option.some.inj (ho.symm.trans he)
      exact ⟨record, (Option.some.inj he').symm, haddress⟩
    · exact hsame he'
  · rw [(h.resolve_of_new hx hn hash).2] at he'
    split_ifs at he' with hk hid
    · rw [hid] at he
      exact absurd (he.symm.trans hn) (by simp)
    · exact hsame he'

/-- Taking a listed member over changes an entry that stays only if it stands under its identifier
and tells another address. -/
lemma find?_mergeMember_of_some {id : String} {a : Address} {hash : Option String}
    (he : reg.find? k = some e) (he' : (reg.mergeMember now id a hash).2.find? k = some e') :
    e' = e ∨ k = .identifier id ∧ (reg.mergeMember now id a hash).1 = .relocated ∧
      e' = { e with record := { e.record with address := a, topologyHash := hash } } := by
  rw [find?_mergeMember] at he'
  split_ifs at he' with hk hgone
  · subst hk
    rw [he] at he'
    obtain rfl : Entry.listed id a hash now (some e) = e' := Option.some.inj he'
    by_cases ha : e.record.address = a
    · exact Or.inl (if_pos ha)
    · refine Or.inr ⟨rfl, ?_, if_neg ha⟩
      simp only [mergeMember, he, if_neg ha]
  · exact Or.inl (Option.some.inj (he'.symm.trans he))

lemma find?_updateHash_of_some {id hash : String} (he : reg.find? k = some e)
    (he' : (reg.updateHash id hash).find? k = some e') :
    e' = e ∨ e' = { e with record := { e.record with topologyHash := some hash } } := by
  rw [find?_updateHash, he] at he'
  split_ifs at he'
  · exact Or.inr (Option.some.inj he').symm
  · exact Or.inl (Option.some.inj he').symm

/-- A change of status is the only change that gives an entry another status or another time. -/
lemma WellFormed.standing_apply (h : reg.WellFormed) {c : Change} (he : reg.find? k = some e)
    (he' : (c.apply now reg).find? k = some e') :
    (e'.active = e.active ∧ e'.since = e.since) ∨
      ∃ b records, c = (if b then .activate records else .deactivate records) ∧
        k ∈ records.map Record.key ∧ e.active = !b ∧ e'.active = b ∧ e'.since = now := by
  have hsame : e' = e → e'.active = e.active ∧ e'.since = e.since := by
    rintro rfl
    exact ⟨rfl, rfl⟩
  cases c with
  | add records =>
      obtain ⟨record, hadd, -⟩ := find?_add_of_some records he
      obtain rfl := Option.some.inj (hadd.symm.trans he')
      exact Or.inl ⟨rfl, rfl⟩
  | activate records =>
      refine (find?_setStatus_of_some he he').imp hsame ?_
      rintro ⟨hk, hb, rfl⟩
      exact ⟨true, records, rfl, hk, hb, rfl, rfl⟩
  | deactivate records =>
      refine (find?_setStatus_of_some he he').imp hsame ?_
      rintro ⟨hk, hb, rfl⟩
      exact ⟨false, records, rfl, hk, hb, rfl, rfl⟩
  | resolve a id hash =>
      obtain ⟨record, rfl, -⟩ := h.find?_resolve_of_some he he'
      exact Or.inl ⟨rfl, rfl⟩
  | mergeMember id a hash =>
      obtain hsame' | ⟨-, -, rfl⟩ := find?_mergeMember_of_some he he'
      · exact Or.inl (hsame hsame')
      · exact Or.inl ⟨rfl, rfl⟩
  | updateHash id hash =>
      obtain hsame' | rfl := find?_updateHash_of_some he he'
      · exact Or.inl (hsame hsame')
      · exact Or.inl ⟨rfl, rfl⟩

/-- An entry gets another address with a record under its key, or if its member is listed there. -/
lemma WellFormed.moved_apply (h : reg.WellFormed) {c : Change} (he : reg.find? k = some e)
    (he' : (c.apply now reg).find? k = some e') :
    e'.record.address = e.record.address ∨
      (∃ records, c = .add records ∧ k ∈ records.map Record.key) ∨
      ∃ id a hash, c = .mergeMember id a hash ∧ k = .identifier id ∧
        (reg.mergeMember now id a hash).1 = .relocated := by
  have hsame : e' = e → e'.record.address = e.record.address := by
    rintro rfl
    rfl
  cases c with
  | add records =>
      obtain ⟨record, hadd, hk | rfl⟩ := find?_add_of_some records he
      · exact Or.inr (Or.inl ⟨records, rfl, hk⟩)
      · exact Or.inl (hsame (Option.some.inj (he'.symm.trans hadd)))
  | activate records | deactivate records =>
      obtain hsame' | ⟨-, -, rfl⟩ := find?_setStatus_of_some he he'
      · exact Or.inl (hsame hsame')
      · exact Or.inl rfl
  | resolve a id hash =>
      obtain ⟨record, rfl, haddress⟩ := h.find?_resolve_of_some he he'
      exact Or.inl haddress
  | mergeMember id a hash =>
      obtain hsame' | ⟨hk, hout, -⟩ := find?_mergeMember_of_some he he'
      · exact Or.inl (hsame hsame')
      · exact Or.inr (Or.inr ⟨id, a, hash, rfl, hk, hout⟩)
  | updateHash id hash =>
      obtain hsame' | rfl := find?_updateHash_of_some he he'
      · exact Or.inl (hsame hsame')
      · exact Or.inl rfl

end Registry

/-- All that a change at a time leaves as it is. -/
structure Change.Frames (now : Instant) (c : Change) (reg : Registry) : Prop where
  /-- The entries that stay do so in their order. -/
  order : reg.KeepsOrder (c.apply now reg)
  /-- New entries come last, unless a member takes an identifier on. -/
  appended : (∀ a id hash, c = .resolve a id hash →
      ∀ record, (reg.resolve a id hash).1 ≠ .ok (.resolved record)) →
    reg.Appends (c.apply now reg)
  /-- A member that does takes its place, its status and its time along, and it is new. -/
  resolved : ∀ a id hash record, c = .resolve a id hash →
    (reg.resolve a id hash).1 = .ok (.resolved record) →
    reg.contains (.identifier id) = false ∧ ∃ before e after,
      reg.entries = before ++ e :: after ∧ e.key = .address a ∧ record = ⟨a, some id, hash⟩ ∧
      (c.apply now reg).entries = before ++ ⟨.identifier id, record, e.active, e.since⟩ :: after
  /-- One whose identifier has an entry leaves, and besides only the hash in that one may change. -/
  merged : ∀ a id hash record, c = .resolve a id hash →
    (reg.resolve a id hash).1 = .ok (.merged record) →
    ∃ owner, reg.find? (.identifier id) = some owner ∧
      record = { owner.record with topologyHash := hash <|> owner.record.topologyHash } ∧
      (c.apply now reg).entries = (reg.entries.filter fun e => e.key ≠ .address a).map fun e =>
        if e.key = .identifier id then { e with record := record } else e
  /-- Without an entry under the address nothing changes. -/
  failed : ∀ a id hash f, c = .resolve a id hash → (reg.resolve a id hash).1 = .error f →
    reg.contains (.address a) = false ∧ c.apply now reg = reg
  /-- Only an entry that is turned has another status or another time. -/
  standing : ∀ k e e', reg.find? k = some e → (c.apply now reg).find? k = some e' →
    (e'.active = e.active ∧ e'.since = e.since) ∨
      ∃ b records, c = (if b then .activate records else .deactivate records) ∧
        k ∈ records.map Record.key ∧ e.active = !b ∧ e'.active = b ∧ e'.since = now
  /-- Only an entry that takes a record over, or whose member has moved, has another address. -/
  address : ∀ k e e', reg.find? k = some e → (c.apply now reg).find? k = some e' →
    e'.record.address = e.record.address ∨
      (∃ records, c = .add records ∧ k ∈ records.map Record.key) ∨
      ∃ id a hash, c = .mergeMember id a hash ∧ k = .identifier id ∧
        (reg.mergeMember now id a hash).1 = .relocated

namespace Registry

variable {reg : Registry}

lemma WellFormed.unchanged_of_failed (h : reg.WellFormed) {a : Address} {id : String}
    {hash : Option String} {f : Failure} (hr : (reg.resolve a id hash).1 = .error f) :
    reg.contains (.address a) = false ∧ (reg.resolve a id hash).2 = reg := by
  obtain ⟨hn, heq⟩ | ⟨owner, -, -, heq⟩ | ⟨e, -, -, heq⟩ := h.resolve_cases a id hash
  · exact ⟨find?_eq_none_iff.mp hn, by rw [heq]⟩
  · rw [heq] at hr
    exact absurd hr (by simp)
  · rw [heq] at hr
    exact absurd hr (by simp)

/-- **Frame.** Whatever a registry is and whatever is changed of it, with any arguments: entries that
stay keep their order, and new ones come last, except that a member which takes an identifier on
takes its place, its status and its time along. The status and the time of an entry change only if
it is made active or inactive and was not so before; its address changes only with a record that is
entered under its key, or if its member is listed at another one. A member whose identifier has an
entry leaves, and nothing else changes but the hash in that entry; and an identifier that is told
for an address without an entry changes nothing. -/
theorem change_frames (h : reg.WellFormed) (now : Instant) (c : Change) : c.Frames now reg where
  order := h.keepsOrder_apply now c
  appended := h.appends_apply now c
  resolved := by
    rintro a id hash record rfl hr
    obtain ⟨before, e, after, hsplit, hkey, -, hnew, hrecord, hentries⟩ := h.places_of_resolved hr
    exact ⟨hnew, before, e, after, hsplit, hkey, hrecord, hentries⟩
  merged := by
    rintro a id hash record rfl hr
    obtain ⟨owner, ho, hrecord, heq⟩ := h.merged_of_resolve hr
    exact ⟨owner, ho, hrecord, congrArg Registry.entries heq⟩
  failed := by
    rintro a id hash f rfl hr
    exact h.unchanged_of_failed hr
  standing := fun _ _ _ he he' => h.standing_apply he he'
  address := fun _ _ _ he he' => h.moved_apply he he'

/-- A member between two others takes an identifier on and stays between them; and one that tells the
identifier of another member leaves, while that one takes over what it tells of the list. -/
lemma change_frames_between :
    let a : Address := ⟨"http", none, .whole "a", none, none⟩
    let b : Address := ⟨"http", none, .whole "b", none, none⟩
    let c : Address := ⟨"http", none, .whole "c", none, none⟩
    let reg : Registry := ⟨[.fresh (.resolved a "a" none) true 1, .fresh (.unresolved b) false 2,
      .fresh (.resolved c "c" none) true 3]⟩
    reg.WellFormed ∧
      (reg.resolve b "b" (some "h")).1 = .ok (.resolved (.resolved b "b" (some "h"))) ∧
      (∃ before e after, reg.entries = before ++ e :: after ∧ e.key = .address b ∧
        (reg.resolve b "b" (some "h")).2.entries =
          before ++ ⟨.identifier "b", .resolved b "b" (some "h"), e.active, e.since⟩ :: after) ∧
      (reg.resolve b "a" (some "h")).1 = .ok (.merged (.resolved a "a" (some "h"))) ∧
      (reg.resolve b "a" (some "h")).2.entries =
        (reg.entries.filter fun e => e.key ≠ .address b).map fun e =>
          if e.key = .identifier "a" then { e with record := .resolved a "a" (some "h") } else e := by
  intro a b c reg
  have hw : reg.WellFormed := ⟨by decide, by decide⟩
  have hnew : (reg.resolve b "b" (some "h")).1 = .ok (.resolved (.resolved b "b" (some "h"))) := by
    decide
  have hknown : (reg.resolve b "a" (some "h")).1 = .ok (.merged (.resolved a "a" (some "h"))) := by
    decide
  obtain ⟨-, before, e, after, hsplit, hkey, -, hentries⟩ :=
    (change_frames hw 9 (.resolve b "b" (some "h"))).resolved _ _ _ _ rfl hnew
  obtain ⟨-, -, -, hleft⟩ := (change_frames hw 9 (.resolve b "a" (some "h"))).merged _ _ _ _ rfl hknown
  exact ⟨hw, hnew, ⟨before, e, after, hsplit, hkey, hentries⟩, hknown, hleft⟩

end Registry

end Roster
