import Mathlib.Data.Finset.Card
import Roster.Proofs.Registry.Lookup

/-!
# The entries after each change

What `Registry.find?` yields after each change of a registry, and that each change leaves a
well-formed registry well formed.

* `find?_addOne`, `find?_mergeMember`, `find?_updateHash`: the entry under a key after a change.
* `setStatus_of_missing`, `setStatus_of_contains`: a change of status is made for all records or
  for none, and `setStatus` counts the entries that it changes.
* `entries_setStatus`: the list of entries after a change of status.
* `resolve_cases`: the three ways in which `resolve` can go, with the registry that it leaves;
  `find?_resolve_of_ne` is what it leaves as it was.
* `Entry.unhashed`, `Entry.outline`: entries without their hashes, and what they say about members;
  `outline_mergeMember`: what they say once a listed member is taken over.
-/

namespace Roster

namespace Registry

variable {reg : Registry} {k : Key} {e : Entry} {now : Instant}

/-! ### Entering records -/

/-- The entry of a record that is entered: it takes the record over and keeps its status. -/
def Entry.taking (record : Record) (now : Instant) : Option Entry → Entry
  | some e => { e with record := record }
  | none => .fresh record false now

lemma find?_addOne (record : Record) :
    (reg.addOne now record).find? k =
      if k = record.key then some (Entry.taking record now (reg.find? record.key))
      else reg.find? k := by
  unfold addOne
  split_ifs with hc hk hk
  · obtain ⟨e, he⟩ := contains_iff_exists_find?.mp hc
    simp [find?_modify, hk, he, Entry.taking]
  · simp [find?_modify, hk]
  · have hn : reg.find? record.key = none := find?_eq_none_iff.mpr (by simpa using hc)
    rw [find?_push, hk, hn]
    simp [Entry.taking, Entry.fresh]
  · rw [find?_push, if_neg (by simpa [Entry.fresh, eq_comm] using hk), Option.or_none]

lemma contains_addOne (record : Record) :
    (reg.addOne now record).contains k = (reg.contains k || decide (k = record.key)) := by
  rw [contains_eq_isSome, contains_eq_isSome, find?_addOne]
  by_cases hk : k = record.key <;> simp [hk]

lemma WellFormed.addOne (h : reg.WellFormed) (record : Record) :
    (reg.addOne now record).WellFormed := by
  unfold Registry.addOne
  split_ifs with hc
  · exact h.modify (fun _ => rfl) fun _ _ _ => rfl
  · exact h.push (by simpa [Entry.fresh] using hc) rfl

lemma WellFormed.add (h : reg.WellFormed) (records : List Record) :
    (reg.add now records).WellFormed := by
  induction records generalizing reg with
  | nil => exact h
  | cons r rs ih => exact ih (h.addOne r)

lemma contains_add (records : List Record) :
    (reg.add now records).contains k = (reg.contains k || decide (k ∈ records.map Record.key)) := by
  induction records generalizing reg with
  | nil => simp [add]
  | cons r rs ih =>
      have h := @ih (reg.addOne now r)
      rw [add] at h ⊢
      rw [List.foldl_cons, h, contains_addOne]
      by_cases hk : k = r.key <;> simp [hk]

/-- Entering records makes nobody active. -/
lemma active_add_iff (records : List Record) :
    (reg.add now records).isActive? k = some true ↔ reg.isActive? k = some true := by
  induction records generalizing reg with
  | nil => rfl
  | cons r rs ih =>
      have h := @ih (reg.addOne now r)
      rw [add] at h ⊢
      rw [List.foldl_cons, h, isActive?, find?_addOne, isActive?]
      split_ifs with hk
      · rw [hk]
        cases reg.find? r.key <;> simp [Entry.taking, Entry.fresh]
      · rfl

/-! ### Changing the status -/

/-- An entry that is given a status; it tells since when it has it. -/
def Entry.given (active : Bool) (now : Instant) (e : Entry) : Entry :=
  if e.active = active then e else { e with active := active, since := now }

@[simp]
lemma Entry.key_given (b : Bool) (e : Entry) : (Entry.given b now e).key = e.key := by
  unfold Entry.given
  split_ifs <;> rfl

@[simp]
lemma Entry.record_given (b : Bool) (e : Entry) : (Entry.given b now e).record = e.record := by
  unfold Entry.given
  split_ifs <;> rfl

@[simp]
lemma Entry.active_given (b : Bool) (e : Entry) : (Entry.given b now e).active = b := by
  unfold Entry.given
  split_ifs with h
  · exact h
  · rfl

@[simp]
lemma Entry.given_given (b : Bool) (e : Entry) :
    Entry.given b now (Entry.given b now e) = Entry.given b now e := by
  rw [Entry.given, if_pos (Entry.active_given b e)]

/-- What `setOne` does to the registry, in terms of the entry under the key. -/
lemma setOne_eq (b : Bool) (n : Nat) (k₀ : Key) :
    setOne now b (n, reg) k₀ =
      if reg.isActive? k₀ = some (!b) then
        (n + 1, reg.modify k₀ fun e => { e with active := b, since := now })
      else (n, reg) := by
  unfold setOne isActive?
  cases hf : reg.find? k₀ with
  | none => simp
  | some e => by_cases hb : e.active = b <;> simp [hb, Bool.eq_not]

lemma missing?_eq_none_iff {records : List Record} :
    reg.missing? records = none ↔ ∀ r ∈ records, reg.contains r.key = true := by
  simp [missing?]

/-- One step of a change of status, on the registry. -/
lemma find?_setOne (b : Bool) (n : Nat) (k₀ : Key) :
    (setOne now b (n, reg) k₀).2.find? k =
      if k = k₀ then (reg.find? k).map (Entry.given b now) else reg.find? k := by
  rw [setOne_eq]
  split_ifs with hb hk hk
  · obtain ⟨e, he, hact⟩ := isActive?_eq_some_iff.mp hb
    simp [find?_modify, hk, he, Entry.given, hact]
  · simp [find?_modify, hk]
  · subst hk
    cases hf : reg.find? k with
    | none => rfl
    | some e =>
        have he : e.active = b := by
          rw [isActive?, hf] at hb
          simpa using hb
        rw [Option.map_some, Entry.given, if_pos he]
  · rfl

lemma WellFormed.setOne (h : reg.WellFormed) (b : Bool) (n : Nat) (k₀ : Key) :
    (setOne now b (n, reg) k₀).2.WellFormed := by
  rw [setOne_eq]
  split_ifs
  · exact h.modify (fun _ => rfl) fun _ _ hr => hr
  · exact h

lemma find?_setAll (b : Bool) (keys : List Key) (n : Nat) :
    (keys.foldl (setOne now b) (n, reg)).2.find? k =
      if k ∈ keys then (reg.find? k).map (Entry.given b now) else reg.find? k := by
  induction keys generalizing n reg with
  | nil => simp
  | cons k₀ ks ih =>
      rw [List.foldl_cons, ← Prod.mk.eta (p := setOne now b (n, reg) k₀), ih, find?_setOne]
      by_cases hk : k = k₀
      · subst hk
        by_cases hks : k ∈ ks <;> simp [hks, Function.comp_def]
      · simp [hk]

lemma WellFormed.setAll (h : reg.WellFormed) (b : Bool) (keys : List Key) (n : Nat) :
    (keys.foldl (Registry.setOne now b) (n, reg)).2.WellFormed := by
  induction keys generalizing n reg with
  | nil => exact h
  | cons k₀ ks ih =>
      rw [List.foldl_cons, ← Prod.mk.eta (p := Registry.setOne now b (n, reg) k₀)]
      exact ih (h.setOne b n k₀) _

/-- Each key whose entry has the other status counts once, however often it is named. -/
lemma fst_setAll (b : Bool) (keys : List Key) (n : Nat) :
    (keys.foldl (setOne now b) (n, reg)).1 =
      n + (keys.toFinset.filter fun k => reg.isActive? k = some (!b)).card := by
  induction keys generalizing n reg with
  | nil => simp
  | cons k₀ ks ih =>
      have hstatus : ∀ k, (setOne now b (n, reg) k₀).2.isActive? k =
          if k = k₀ then (reg.isActive? k).map fun _ => b else reg.isActive? k := by
        intro k
        rw [isActive?, find?_setOne]
        split_ifs <;> simp [isActive?, Function.comp_def]
      have hfilter : (ks.toFinset.filter fun k =>
            (setOne now b (n, reg) k₀).2.isActive? k = some (!b)) =
          (ks.toFinset.filter fun k => reg.isActive? k = some (!b)).erase k₀ := by
        ext k
        simp only [Finset.mem_filter, Finset.mem_erase, hstatus]
        by_cases hk : k = k₀ <;> simp [hk]
      rw [List.foldl_cons, ← Prod.mk.eta (p := setOne now b (n, reg) k₀), ih, hfilter,
        List.toFinset_cons, Finset.filter_insert, setOne_eq]
      split_ifs with hb
      · rw [← Finset.card_erase_add_one (Finset.mem_insert_self k₀ _), Finset.erase_insert_eq_erase]
        omega
      · rw [Finset.erase_eq_of_notMem (by simp [hb])]

/-- If some record has no entry, nothing changes. -/
lemma setStatus_of_missing {b : Bool} {records : List Record} (h : reg.missing? records = some k) :
    reg.setStatus now b records = (.error (notRegistered k), reg) := by
  simp [setStatus, h]

/-- If all records have entries, the ones with the other status are counted and get this one. -/
lemma setStatus_of_contains {b : Bool} {records : List Record}
    (h : ∀ r ∈ records, reg.contains r.key = true) :
    (reg.setStatus now b records).1 = .ok ((records.map Record.key).toFinset.filter fun k =>
        reg.isActive? k = some (!b)).card ∧
      ∀ k, (reg.setStatus now b records).2.find? k =
        if k ∈ records.map Record.key then (reg.find? k).map (Entry.given b now)
        else reg.find? k := by
  have hm := missing?_eq_none_iff.mpr h
  refine ⟨?_, fun k => ?_⟩
  · simp only [setStatus, hm]
    rw [fst_setAll, Nat.zero_add]
  · simp only [setStatus, hm]
    exact find?_setAll b _ 0

/-- A change of status succeeds exactly if all records have entries. -/
lemma setStatus_eq_ok_iff {b : Bool} {records : List Record} :
    (∃ n, (reg.setStatus now b records).1 = .ok n) ↔
      ∀ r ∈ records, reg.contains r.key = true := by
  refine ⟨?_, fun h => ⟨_, (setStatus_of_contains h).1⟩⟩
  rintro ⟨n, hn⟩
  rw [← missing?_eq_none_iff]
  cases hm : reg.missing? records with
  | none => rfl
  | some k =>
      rw [setStatus_of_missing hm] at hn
      exact absurd hn (by simp)

lemma WellFormed.setStatus (h : reg.WellFormed) (b : Bool) (records : List Record) :
    (reg.setStatus now b records).2.WellFormed := by
  unfold Registry.setStatus
  split
  · exact h
  · exact h.setAll b _ 0

/-- A change of status keeps the keys. -/
lemma contains_setStatus (b : Bool) (records : List Record) :
    (reg.setStatus now b records).2.contains k = reg.contains k := by
  cases hm : reg.missing? records with
  | some k => rw [setStatus_of_missing hm]
  | none =>
      rw [contains_eq_isSome, contains_eq_isSome,
        (setStatus_of_contains (missing?_eq_none_iff.mp hm)).2]
      split_ifs <;> simp

/-- The status of a member after a change of status that succeeds. -/
lemma isActive?_setStatus {b : Bool} {records : List Record}
    (h : ∀ r ∈ records, reg.contains r.key = true) :
    (reg.setStatus now b records).2.isActive? k =
      if k ∈ records.map Record.key then some b else reg.isActive? k := by
  rw [isActive?, (setStatus_of_contains h).2]
  split_ifs with hk
  · obtain ⟨r, hr, rfl⟩ := List.mem_map.mp hk
    obtain ⟨e, he⟩ := contains_iff_exists_find?.mp (h r hr)
    simp [he]
  · rfl

/-- With distinct keys, one step of a change of status gives the entry under the key this status. -/
lemma setOne_eq_modify (h : reg.WellFormed) (b : Bool) (n : Nat) (k : Key) :
    (setOne now b (n, reg) k).2 = reg.modify k (Entry.given b now) := by
  have hother : ∀ e ∈ reg.entries, e.key = k → reg.isActive? k = some e.active := by
    intro e he hk
    rw [isActive?, h.find?_iff.mpr ⟨he, hk⟩]
    rfl
  rw [setOne_eq]
  split_ifs with hb
  · refine congrArg Registry.mk (List.map_congr_left fun e he => ?_)
    split_ifs with hk
    · have hact : e.active = !b := by simpa [hb] using (hother e he hk).symm
      rw [Entry.given, if_neg (by simp [hact])]
    · rfl
  · refine congrArg Registry.mk ?_
    conv_lhs => rw [← List.map_id reg.entries]
    refine List.map_congr_left fun e he => ?_
    split_ifs with hk
    · have hact : e.active = b := by
        rw [hother e he hk] at hb
        simpa using hb
      rw [Entry.given, if_pos hact]
      rfl
    · rfl

/-- The entries after a change of status: those of the keys that were named have this status. -/
lemma entries_setAll (h : reg.WellFormed) (b : Bool) (keys : List Key) (n : Nat) :
    (keys.foldl (setOne now b) (n, reg)).2.entries =
      reg.entries.map fun e => if e.key ∈ keys then Entry.given b now e else e := by
  induction keys generalizing n reg with
  | nil => simp
  | cons k ks ih =>
      rw [List.foldl_cons, ← Prod.mk.eta (p := setOne now b (n, reg) k), ih (h.setOne b n k),
        setOne_eq_modify h, Registry.modify, List.map_map]
      refine List.map_congr_left fun e _ => ?_
      rw [Function.comp_apply]
      by_cases hk : e.key = k
      · by_cases hks : k ∈ ks <;> simp [hk, hks]
      · simp [hk]

/-- If all records have entries, these get the status. -/
lemma entries_setStatus (h : reg.WellFormed) {b : Bool} {records : List Record}
    (hall : ∀ r ∈ records, reg.contains r.key = true) :
    (reg.setStatus now b records).2.entries =
      reg.entries.map fun e => if e.key ∈ records.map Record.key then Entry.given b now e
        else e := by
  simp only [setStatus, missing?_eq_none_iff.mpr hall]
  exact entries_setAll h b _ 0

/-- A change of status that changes nobody's leaves all entries as they are. -/
lemma snd_setStatus_of_zero (h : reg.WellFormed) {b : Bool} {records : List Record}
    (hzero : (reg.setStatus now b records).1 = .ok 0) : (reg.setStatus now b records).2 = reg := by
  have hall := setStatus_eq_ok_iff.mp ⟨0, hzero⟩
  have hcard := Except.ok.inj ((setStatus_of_contains hall).1.symm.trans hzero)
  rw [Finset.card_eq_zero, Finset.filter_eq_empty_iff] at hcard
  refine congrArg Registry.mk ((entries_setStatus h hall).trans ?_)
  conv_rhs => rw [← List.map_id reg.entries]
  refine List.map_congr_left fun e he => ?_
  split_ifs with hk
  · have hother := hcard (List.mem_toFinset.mpr hk)
    rw [isActive?, h.find?_iff.mpr ⟨he, rfl⟩] at hother
    rw [Entry.given, if_pos (by simpa using hother)]
    rfl
  · rfl

/-! ### Telling an identifier -/

/-- With distinct keys, the entry under a key splits the list: no other one has its key. -/
lemma WellFormed.split_of_find? (h : reg.WellFormed) (hf : reg.find? k = some e) :
    ∃ before after, reg.entries = before ++ e :: after ∧ (∀ x ∈ before ++ after, x.key ≠ k) ∧
      (reg.entries.findIdx? fun x => x.key == k) = some before.length := by
  obtain ⟨hk, before, after, hsplit, hbefore⟩ := List.find?_eq_some_iff_append.mp hf
  have hk : e.key = k := by simpa using hk
  have hbefore : ∀ x ∈ before, x.key ≠ k := by simpa using hbefore
  have hdistinct := h.distinct
  rw [hsplit, List.map_append, List.map_cons, List.nodup_middle, List.nodup_cons,
    ← List.map_append] at hdistinct
  refine ⟨before, after, hsplit, fun x hx hxk => ?_, ?_⟩
  · exact hdistinct.1 (List.mem_map.mpr ⟨x, hx, by rw [hxk, hk]⟩)
  · rw [hsplit, List.findIdx?_append, List.findIdx?_eq_none_iff.mpr (by simpa using hbefore),
      List.findIdx?_cons]
    simp [hk]

/-- An identifier that has an entry is registered once. -/
lemma WellFormed.filter_identifier (h : reg.WellFormed) {i : String}
    (hf : reg.find? (.identifier i) = some e) :
    reg.entries.filter (fun e => e.record.identifier = some i) = [e] := by
  obtain ⟨before, after, hsplit, hother, -⟩ := h.split_of_find? hf
  have hnone : ∀ x ∈ before ++ after, x.record.identifier ≠ some i := by
    intro x hx hid
    have hplaced : x.key = x.record.key := by
      refine h.placed x ?_
      rw [hsplit]
      rcases List.mem_append.mp hx with hb | ha
      · exact List.mem_append_left _ hb
      · exact List.mem_append_right _ (List.mem_cons_of_mem _ ha)
    exact hother x hx (hplaced.trans (Record.key_eq_identifier_iff.mpr hid))
  have hid : e.record.identifier = some i := Record.key_eq_identifier_iff.mp (h.record_key hf)
  rw [hsplit, List.filter_append, List.filter_cons_of_pos (by simpa using hid),
    List.filter_eq_nil_iff.mpr fun x hx => by simpa using hnone x (List.mem_append_left _ hx),
    List.filter_eq_nil_iff.mpr fun x hx => by simpa using hnone x (List.mem_append_right _ hx)]
  rfl

/-- Taking the entry under a key out of a list that it splits. -/
lemma erase_of_split {before after : List Entry} (hs : reg.entries = before ++ e :: after)
    (hk : e.key = k) (ho : ∀ x ∈ before ++ after, x.key ≠ k) :
    reg.erase k = ⟨before ++ after⟩ := by
  have hfilter : (before ++ after).filter (fun x => decide (x.key ≠ k)) = before ++ after := by
    rw [List.filter_eq_self]
    simpa using ho
  rw [erase, hs, List.filter_append, List.filter_cons_of_neg (by simp [hk]),
    ← List.filter_append, hfilter]

/-- Changing the entry under a key in a list that it splits. -/
lemma modify_of_split {before after : List Entry} {f : Entry → Entry}
    (hs : reg.entries = before ++ e :: after) (hk : e.key = k)
    (ho : ∀ x ∈ before ++ after, x.key ≠ k) :
    reg.modify k f = ⟨before ++ f e :: after⟩ := by
  have hsame : ∀ l : List Entry, (∀ x ∈ l, x.key ≠ k) →
      l.map (fun x => if x.key = k then f x else x) = l := by
    intro l hl
    conv_rhs => rw [← List.map_id l]
    exact List.map_congr_left fun x hx => if_neg (hl x hx)
  rw [modify, hs, List.map_append, List.map_cons, if_pos hk,
    hsame before fun x hx => ho x (List.mem_append_left _ hx),
    hsame after fun x hx => ho x (List.mem_append_right _ hx)]

/-- The ways in which telling an identifier can go: there is no entry under the address; the
identifier has an entry, whose hash is refreshed while the other one leaves; or the entry under
the address takes the identifier on where it stands. -/
lemma WellFormed.resolve_cases (h : reg.WellFormed) (a : Address) (id : String)
    (hash : Option String) :
    (reg.find? (.address a) = none ∧
      reg.resolve a id hash = (.error (notUnresolved a), reg)) ∨
    (∃ owner, reg.contains (.address a) = true ∧ reg.find? (.identifier id) = some owner ∧
      reg.resolve a id hash =
        (.ok (.merged { owner.record with topologyHash := hash <|> owner.record.topologyHash }),
          (reg.erase (.address a)).modify (.identifier id) fun e => { e with
            record := { owner.record with topologyHash := hash <|> owner.record.topologyHash } })) ∨
    (∃ e, reg.find? (.address a) = some e ∧ reg.find? (.identifier id) = none ∧
      reg.resolve a id hash = (.ok (.resolved (identified e id hash).record),
        reg.modify (.address a) fun _ => identified e id hash)) := by
  cases hf : reg.find? (.address a) with
  | none =>
      refine Or.inl ⟨rfl, ?_⟩
      simp only [resolve, hf]
      split <;> simp_all
  | some e =>
      obtain ⟨before, after, hsplit, hother, hidx⟩ := h.split_of_find? hf
      have hkey : e.key = .address a := Registry.key_of_find? hf
      have hrest : (⟨reg.entries.eraseIdx before.length⟩ : Registry) =
          reg.erase (.address a) := by
        rw [erase_of_split hsplit hkey hother, hsplit,
          List.eraseIdx_append_of_length_le le_rfl, Nat.sub_self, List.eraseIdx_cons_zero]
      have howner : (reg.erase (.address a)).find? (.identifier id) =
          reg.find? (.identifier id) := by
        simp [find?_erase]
      cases ho : reg.find? (.identifier id) with
      | some owner =>
          refine Or.inr (Or.inl ⟨owner, contains_iff_exists_find?.mpr ⟨e, hf⟩, rfl, ?_⟩)
          simp only [resolve, hidx, hf, hrest, howner, ho, Registry.key_of_find? ho]
      | none =>
          refine Or.inr (Or.inr ⟨e, rfl, rfl, ?_⟩)
          have hput : (⟨(reg.entries.eraseIdx before.length).insertIdx before.length
              (identified e id hash)⟩ : Registry) =
              reg.modify (.address a) fun _ => identified e id hash := by
            rw [List.insertIdx_eraseIdx_self (by simp [hsplit]),
              modify_of_split hsplit hkey hother, hsplit, List.set_append_right _ _ le_rfl]
            simp
          simp only [resolve, hidx, hf, hrest, howner, ho, hput]

/-- An entry that is replaced where it stands by one under a key that is new. -/
lemma WellFormed.find?_replace (h : reg.WellFormed) {e' : Entry} (hf : reg.find? k = some e)
    (hnew : reg.find? e'.key = none) (k' : Key) :
    (reg.modify k fun _ => e').find? k' =
      if k' = k then none else if k' = e'.key then some e' else reg.find? k' := by
  obtain ⟨before, after, hsplit, hother, -⟩ := h.split_of_find? hf
  have hk : e.key = k := Registry.key_of_find? hf
  have hnone : ∀ x ∈ reg.entries, x.key ≠ e'.key := by
    simpa [find?] using hnew
  have hne : e'.key ≠ k := fun heq => hnone e (mem_of_find? hf) (hk.trans heq.symm)
  rw [modify_of_split hsplit hk hother, find?, find?, hsplit]
  have hbefore : ∀ k₁, (∀ x ∈ before, x.key ≠ k₁) → before.find? (fun x => x.key == k₁) = none :=
    fun k₁ hb => List.find?_eq_none.mpr (by simpa using hb)
  have hafter : ∀ k₁, (∀ x ∈ after, x.key ≠ k₁) → after.find? (fun x => x.key == k₁) = none :=
    fun k₁ hb => List.find?_eq_none.mpr (by simpa using hb)
  simp only [List.find?_append, List.find?_cons]
  split_ifs with h₁ h₂
  · subst h₁
    rw [hbefore k' fun x hx => hother x (List.mem_append_left _ hx),
      hafter k' fun x hx => hother x (List.mem_append_right _ hx)]
    simp [beq_eq_false_iff_ne.mpr hne]
  · subst h₂
    rw [hbefore e'.key fun x hx => hnone x (by simp [hsplit, hx])]
    simp
  · have he : (e.key == k') = false := beq_eq_false_iff_ne.mpr (hk ▸ Ne.symm h₁)
    have he' : (e'.key == k') = false := beq_eq_false_iff_ne.mpr (Ne.symm h₂)
    simp [he, he']

lemma WellFormed.replace (h : reg.WellFormed) {e' : Entry} (hf : reg.find? k = some e)
    (hnew : reg.find? e'.key = none) (hplaced : e'.key = e'.record.key) :
    (reg.modify k fun _ => e').WellFormed := by
  obtain ⟨before, after, hsplit, hother, -⟩ := h.split_of_find? hf
  have hk : e.key = k := Registry.key_of_find? hf
  have hnone : ∀ x ∈ reg.entries, x.key ≠ e'.key := by
    simpa [find?] using hnew
  have hdistinct := h.distinct
  rw [hsplit, List.map_append, List.map_cons, List.nodup_middle, List.nodup_cons,
    ← List.map_append] at hdistinct
  rw [modify_of_split hsplit hk hother]
  refine ⟨?_, fun x hx => ?_⟩
  · rw [List.map_append, List.map_cons, List.nodup_middle, List.nodup_cons, ← List.map_append]
    refine ⟨fun hmem => ?_, hdistinct.2⟩
    obtain ⟨x, hx, hxk⟩ := List.mem_map.mp hmem
    refine hnone x ?_ hxk
    rw [hsplit]
    rcases List.mem_append.mp hx with hb | ha
    · exact List.mem_append_left _ hb
    · exact List.mem_append_right _ (List.mem_cons_of_mem _ ha)
  · rcases List.mem_append.mp hx with hb | ha
    · exact h.placed x (by simp [hsplit, hb])
    · rcases List.mem_cons.mp ha with rfl | ha
      · exact hplaced
      · exact h.placed x (by simp [hsplit, ha])

/-- The entries after telling an identifier that has an entry already. -/
lemma WellFormed.resolve_of_owner (h : reg.WellFormed) {a : Address} {id : String} {owner : Entry}
    (ha : reg.contains (.address a) = true) (ho : reg.find? (.identifier id) = some owner)
    (hash : Option String) :
    ∃ record : Record, record.address = owner.record.address ∧ record.identifier = some id ∧
      (reg.resolve a id hash).1 = .ok (.merged record) ∧
      ∀ k, (reg.resolve a id hash).2.find? k =
        if k = .address a then none
        else if k = .identifier id then some { owner with record := record } else reg.find? k := by
  obtain ⟨hn, -⟩ | ⟨owner', -, ho', heq⟩ | ⟨e, -, hn, -⟩ := h.resolve_cases a id hash
  · rw [find?_eq_none_iff, ha] at hn
    exact absurd hn (by simp)
  · obtain rfl : owner = owner' := by simpa [ho] using ho'
    have hid : owner.record.identifier = some id :=
      Record.key_eq_identifier_iff.mp (h.record_key ho)
    refine ⟨{ owner.record with topologyHash := hash <|> owner.record.topologyHash }, rfl, hid,
      by rw [heq], fun k => ?_⟩
    rw [heq]
    by_cases hka : k = .address a
    · simp [hka, find?_modify, find?_erase]
    · by_cases hki : k = .identifier id <;> simp [hki, hka, find?_modify, find?_erase, ho]
  · rw [ho] at hn
    exact absurd hn (by simp)

/-- The entries after telling an identifier that is new: it takes the place of the address. -/
lemma WellFormed.resolve_of_new (h : reg.WellFormed) {a : Address} {id : String}
    (he : reg.find? (.address a) = some e) (hn : reg.find? (.identifier id) = none)
    (hash : Option String) :
    (reg.resolve a id hash).1 = .ok (.resolved (identified e id hash).record) ∧
      ∀ k, (reg.resolve a id hash).2.find? k =
        if k = .address a then none
        else if k = .identifier id then some (identified e id hash) else reg.find? k := by
  obtain ⟨hn', -⟩ | ⟨owner, -, ho, -⟩ | ⟨e', he', -, heq⟩ := h.resolve_cases a id hash
  · rw [he] at hn'
    exact absurd hn' (by simp)
  · rw [hn] at ho
    exact absurd ho (by simp)
  · obtain rfl : e = e' := by simpa [he] using he'
    rw [heq]
    exact ⟨rfl, fun k => h.find?_replace he hn k⟩

/-- Without an entry under the address nothing changes. -/
lemma resolve_of_none {a : Address} (h : reg.find? (.address a) = none) (id : String)
    (hash : Option String) : reg.resolve a id hash = (.error (notUnresolved a), reg) := by
  simp only [resolve, h]
  split <;> simp_all

lemma WellFormed.resolve (h : reg.WellFormed) (a : Address) (id : String)
    (hash : Option String) : (reg.resolve a id hash).2.WellFormed := by
  obtain ⟨-, heq⟩ | ⟨owner, -, ho, heq⟩ | ⟨e, he, hn, heq⟩ := h.resolve_cases a id hash
  · rw [heq]; exact h
  · have hid : owner.record.identifier = some id :=
      Record.key_eq_identifier_iff.mp (h.record_key ho)
    rw [heq]
    exact (h.erase _).modify (fun _ => rfl) fun _ _ _ => Record.key_eq_identifier_iff.mpr hid
  · rw [heq]
    exact h.replace he hn rfl

/-- Only what stands under the address and under the identifier changes. -/
lemma WellFormed.find?_resolve_of_ne (h : reg.WellFormed) {a : Address} {id : String}
    (ha : k ≠ .address a) (hid : k ≠ .identifier id) (hash : Option String) :
    (reg.resolve a id hash).2.find? k = reg.find? k := by
  obtain ⟨-, heq⟩ | ⟨owner, hc, ho, -⟩ | ⟨e, he, hn, -⟩ := h.resolve_cases a id hash
  · rw [heq]
  · obtain ⟨record, -, -, -, hfind⟩ := h.resolve_of_owner hc ho hash
    rw [hfind, if_neg ha, if_neg hid]
  · obtain ⟨-, hfind⟩ := h.resolve_of_new he hn hash
    rw [hfind, if_neg ha, if_neg hid]

/-- An entry under an address stays what it is or leaves. -/
lemma WellFormed.find?_address_resolve (h : reg.WellFormed) (a a' : Address) (id : String)
    (hash : Option String) :
    (reg.resolve a id hash).2.find? (.address a') = none ∨
      (reg.resolve a id hash).2.find? (.address a') = reg.find? (.address a') := by
  obtain ⟨-, heq⟩ | ⟨owner, ha, ho, -⟩ | ⟨e, he, hn, -⟩ := h.resolve_cases a id hash
  · rw [heq]
    exact Or.inr rfl
  · obtain ⟨record, -, -, -, hfind⟩ := h.resolve_of_owner ha ho hash
    rw [hfind]
    by_cases hk : a' = a <;> simp [hk]
  · obtain ⟨-, hfind⟩ := h.resolve_of_new he hn hash
    rw [hfind]
    by_cases hk : a' = a <;> simp [hk]

/-! ### Listed members and their hashes -/

/-- The entry of a member that another one listed. -/
def Entry.listed (id : String) (a : Address) (hash : Option String) (now : Instant) :
    Option Entry → Entry
  | some e =>
    if e.record.address = a then e
    else { e with record := { e.record with address := a, topologyHash := hash } }
  | none => .fresh (.resolved a id hash) true now

lemma find?_mergeMember (id : String) (a : Address) (hash : Option String) :
    (reg.mergeMember now id a hash).2.find? k =
      if k = .identifier id then
        some (Entry.listed id a hash now (reg.find? (.identifier id)))
      else if k = .address a ∧ reg.find? (.identifier id) = none then none
      else reg.find? k := by
  unfold mergeMember
  cases hf : reg.find? (.identifier id) with
  | some e =>
      by_cases ha : e.record.address = a
      · simp only [if_pos ha, Entry.listed, reduceCtorEq, and_false, if_false]
        split_ifs with hk
        · rw [hk, hf]
        · rfl
      · simp only [if_neg ha, Entry.listed, reduceCtorEq, and_false, if_false]
        by_cases hk : k = .identifier id <;> simp [find?_modify, hk, hf]
  | none =>
      simp only [find?_push, find?_erase, Entry.listed, and_true]
      by_cases hk : k = .identifier id
      · simp [hk, hf, Entry.fresh]
      · have hne : (Entry.fresh (.resolved a id hash) true now).key ≠ k := by
          simpa [Entry.fresh, eq_comm] using hk
        simp [hk, hne]

/-- The keys after a listed member is taken over. -/
lemma contains_mergeMember (id : String) (a : Address) (hash : Option String) :
    (reg.mergeMember now id a hash).2.contains k = true ↔
      k = .identifier id ∨
        reg.contains k = true ∧ ¬ (k = .address a ∧ reg.contains (.identifier id) = false) := by
  rw [contains_eq_isSome, find?_mergeMember, ← find?_eq_none_iff, contains_eq_isSome]
  split_ifs with hk hgone
  · simp [hk]
  · simp [hgone]
  · simp [hk, hgone]

/-- A listed member that is new is active; one that is known keeps its status. -/
lemma isActive?_mergeMember (id i : String) (a : Address) (hash : Option String) :
    (reg.mergeMember now id a hash).2.isActive? (.identifier i) =
      (reg.isActive? (.identifier i)).or (if id = i then some true else none) := by
  rw [isActive?, find?_mergeMember, isActive?]
  by_cases hi : id = i
  · subst hi
    cases hf : reg.find? (.identifier id) with
    | none => simp [Entry.listed, Entry.fresh]
    | some e =>
        rw [if_pos rfl, Entry.listed]
        split_ifs <;> simp
  · simp [hi, Ne.symm hi]

lemma WellFormed.mergeMember (h : reg.WellFormed) (id : String) (a : Address)
    (hash : Option String) : (reg.mergeMember now id a hash).2.WellFormed := by
  unfold Registry.mergeMember
  cases hf : reg.find? (.identifier id) with
  | some e =>
      by_cases ha : e.record.address = a
      · simp only [if_pos ha]; exact h
      · simp only [if_neg ha]
        refine h.modify (fun _ => rfl) fun e' _ hr => ?_
        rw [Record.key_eq_identifier_iff] at hr ⊢
        exact hr
  | none =>
      refine (h.erase _).push ?_ rfl
      rw [← find?_eq_none_iff, find?_erase]
      simpa [Entry.fresh] using hf

lemma find?_updateHash (id hash : String) :
    (reg.updateHash id hash).find? k =
      if k = .identifier id then
        (reg.find? k).map fun e => { e with record := { e.record with topologyHash := some hash } }
      else reg.find? k := by
  unfold updateHash
  by_cases hk : k = .identifier id <;> simp [find?_modify, hk]

lemma WellFormed.updateHash (h : reg.WellFormed) (id hash : String) :
    (reg.updateHash id hash).WellFormed := by
  refine h.modify (fun _ => rfl) fun e _ hr => ?_
  rw [Record.key_eq_identifier_iff] at hr ⊢
  exact hr

/-! ### Identifiers stay -/

lemma contains_identifier_resolve (h : reg.WellFormed) {i : String}
    (hc : reg.contains (.identifier i) = true) (a : Address) (id : String)
    (hash : Option String) : (reg.resolve a id hash).2.contains (.identifier i) = true := by
  rw [contains_iff_exists_find?] at hc ⊢
  obtain ⟨e, he⟩ := hc
  obtain ⟨-, heq⟩ | ⟨owner, ha, ho, -⟩ | ⟨e', he', hn, -⟩ := h.resolve_cases a id hash
  · rw [heq]
    exact ⟨e, he⟩
  · obtain ⟨record, -, -, -, hfind⟩ := h.resolve_of_owner ha ho hash
    rw [hfind]
    by_cases hi : i = id <;> simp [hi, he]
  · obtain ⟨-, hfind⟩ := h.resolve_of_new he' hn hash
    rw [hfind]
    by_cases hi : i = id <;> simp [hi, he]

lemma contains_identifier_mergeMember {i : String} (hc : reg.contains (.identifier i) = true)
    (id : String) (a : Address) (hash : Option String) :
    (reg.mergeMember now id a hash).2.contains (.identifier i) = true :=
  (contains_mergeMember id a hash).mpr (Or.inr ⟨hc, by simp⟩)

lemma contains_updateHash (id hash : String) :
    (reg.updateHash id hash).contains k = reg.contains k := by
  rw [contains_eq_isSome, contains_eq_isSome, find?_updateHash]
  split_ifs <;> simp

/-! ### Entries without their hashes -/

variable {reg' : Registry}

/-- An entry without the hash that it tells. -/
def Entry.unhashed (e : Entry) : Entry :=
  { e with record := { e.record with topologyHash := none } }

lemma unhashed_updateHash (id hash : String) :
    (reg.updateHash id hash).entries.map Entry.unhashed = reg.entries.map Entry.unhashed := by
  simp only [updateHash, modify, List.map_map]
  refine List.map_congr_left fun e _ => ?_
  rw [Function.comp_apply]
  split_ifs <;> rfl

/-- Where an entry says that its member is, and whether it is active. -/
def Entry.outline (e : Entry) : Address × Bool := (e.record.address, e.active)

lemma map_fst_outline (reg : Registry) (i : String) :
    ((reg.find? (.identifier i)).map Entry.outline).map Prod.fst =
      (reg.get? i).map Record.address := by
  rw [get?, Option.map_map, Option.map_map]
  rfl

lemma map_snd_outline (reg : Registry) (k : Key) :
    ((reg.find? k).map Entry.outline).map Prod.snd = reg.isActive? k := by
  rw [isActive?, Option.map_map]
  rfl

/-- What the entries say about their members once a listed member is taken over: it is at the address
at which it was listed, and a member that is new is active and takes the place of the address. -/
lemma outline_mergeMember (id : String) (a : Address) (hash : Option String) :
    ((reg.mergeMember now id a hash).2.find? k).map Entry.outline =
      if k = .identifier id then some (a, (reg.isActive? (.identifier id)).getD true)
      else if k = .address a ∧ reg.contains (.identifier id) = false then none
      else (reg.find? k).map Entry.outline := by
  simp only [find?_mergeMember, ← find?_eq_none_iff]
  split_ifs with hk
  · unfold isActive? Entry.listed
    cases hf : reg.find? (.identifier id) with
    | none => rfl
    | some e =>
        dsimp only
        split_ifs with ha
        · simp [Entry.outline, ha]
        · rfl
  · rfl
  · rfl

/-- Entries that differ in their hashes only say the same about their members. -/
lemma outline_of_unhashed
    (h : reg'.entries.map Entry.unhashed = reg.entries.map Entry.unhashed) (k : Key) :
    (reg'.find? k).map Entry.outline = (reg.find? k).map Entry.outline := by
  have hfind : ∀ reg : Registry, (reg.find? k).map Entry.unhashed =
      (reg.entries.map Entry.unhashed).find? fun e => e.key == k := by
    intro reg
    rw [List.find?_map]
    rfl
  have hunhashed := congrArg (Option.map Entry.outline) ((hfind reg').trans (h ▸ (hfind reg).symm))
  rwa [Option.map_map, Option.map_map] at hunhashed

lemma contains_of_unhashed
    (h : reg'.entries.map Entry.unhashed = reg.entries.map Entry.unhashed) (k : Key) :
    reg'.contains k = reg.contains k := by
  rw [contains_eq_isSome, contains_eq_isSome, ← Option.isSome_map (f := Entry.outline),
    outline_of_unhashed h, Option.isSome_map]

end Registry

end Roster
