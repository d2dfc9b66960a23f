import Roster.Proofs.Discovery.Displacing
import Roster.Proofs.Discovery.Probing

/-!
# What reports count

A refresh counts the listed members that are new and those that have moved, one after the other as
they are taken over; and members that are asked so that they may become active count if they do.

* `AtHome`: a member is listed at the address at which it is registered.
* `Tallies`: what the counts of a refresh tell about the members that were taken over.
* `quiet_takeRefresh_iff`: nothing was counted exactly if all members were at home, and then
  nothing has changed but hashes; `added_takeRefresh_of_known`: nobody is new if all are registered.
* `length_recovered_takeProbes`: how many members became active by their answers.
* `Usurped`: somebody else than was asked has answered and is to be found under a key.
* `outline_takeProbes_of_unrecovered`: if nobody became active, only the entries under these keys
  may say something else about their members than before;
  `registry_takeProbes_of_unrecovered`: without such keys the registry is what it was.
-/

namespace Roster

namespace Registry

variable {reg reg' : Registry} {m : Listing}

/-- A member is registered, and at the address at which it is listed. -/
def AtHome (reg : Registry) (m : Listing) : Prop :=
  (reg.get? m.identifier).map Record.address = some m.address

/-- A member that is at home can be taken over without any change. -/
lemma AtHome.mergeMember (h : AtHome reg m) (now : Instant) (hash : Option String) :
    reg.mergeMember now m.identifier m.address hash = (.unchanged, reg) := by
  rw [AtHome, get?, Option.map_map] at h
  obtain ⟨e, he, ha⟩ := Option.map_eq_some_iff.mp h
  have ha : e.record.address = m.address := ha
  simp only [Registry.mergeMember, he, if_pos ha]

/-- A member that is not at home is new or has moved. -/
lemma mergeMember_of_not_atHome (h : ¬ AtHome reg m) (now : Instant) (hash : Option String) :
    (reg.mergeMember now m.identifier m.address hash).1 = .added ∨
      (reg.mergeMember now m.identifier m.address hash).1 = .relocated := by
  unfold AtHome get? at h
  unfold Registry.mergeMember
  cases hf : reg.find? (.identifier m.identifier) with
  | none => exact Or.inl rfl
  | some e =>
      rw [hf] at h
      have ha : e.record.address ≠ m.address := by simpa using h
      exact Or.inr (by simp only [if_neg ha])

/-- A member is new if it is not registered. -/
lemma added_mergeMember_iff {id : String} {a : Address} {now : Instant} {hash : Option String} :
    (reg.mergeMember now id a hash).1 = .added ↔ reg.contains (.identifier id) = false := by
  rw [← find?_eq_none_iff]
  unfold Registry.mergeMember
  cases hf : reg.find? (.identifier id) with
  | none => simp
  | some e => by_cases ha : e.record.address = a <;> simp [ha]

/-- Who is at home depends on what the entry of the member says about it. -/
lemma atHome_iff_of_outline
    (h : (reg'.find? (.identifier m.identifier)).map Entry.outline =
      (reg.find? (.identifier m.identifier)).map Entry.outline) : AtHome reg' m ↔ AtHome reg m := by
  rw [AtHome, AtHome, ← map_fst_outline, ← map_fst_outline, h]

/-- Who is at home does not depend on hashes. -/
lemma atHome_iff_of_unhashed
    (h : reg'.entries.map Entry.unhashed = reg.entries.map Entry.unhashed) (m : Listing) :
    AtHome reg' m ↔ AtHome reg m := atHome_iff_of_outline (outline_of_unhashed h _)

/-- Who is at home is registered. -/
lemma AtHome.contains (h : AtHome reg m) : reg.contains (.identifier m.identifier) = true := by
  rw [contains_iff_exists_find?]
  rw [AtHome, get?, Option.map_map] at h
  obtain ⟨e, he, -⟩ := Option.map_eq_some_iff.mp h
  exact ⟨e, he⟩

end Registry

namespace Discovery

open Registry

variable {merges : Bool} {l : Ledger} {xs : List (Record × Except Failure TopologyView)}
  {ms ms' : List Listing} {acc acc' acc'' : RefreshReport × Ledger}

/-! ### Listed members -/

/-- What the counts of a refresh tell about members that were taken over: if all of them are at
home, nothing is counted, and nothing changes but hashes; and otherwise something is counted. -/
structure Tallies (ms : List Listing) (acc acc' : RefreshReport × Ledger) : Prop where
  added_le : acc.1.added ≤ acc'.1.added
  relocated_le : acc.1.relocated ≤ acc'.1.relocated
  quiet : (∀ m ∈ ms, AtHome acc.2.registry m) →
    acc'.1.added = acc.1.added ∧ acc'.1.relocated = acc.1.relocated ∧
      acc'.2.registry.entries.map Entry.unhashed = acc.2.registry.entries.map Entry.unhashed
  atHome : acc'.1.added = acc.1.added → acc'.1.relocated = acc.1.relocated →
    ∀ m ∈ ms, AtHome acc.2.registry m

namespace Tallies

/-- Without listed members, hashes change at most. -/
lemma hashed (hadded : acc'.1.added = acc.1.added) (hrelocated : acc'.1.relocated = acc.1.relocated)
    (h : acc'.2.registry.entries.map Entry.unhashed = acc.2.registry.entries.map Entry.unhashed) :
    Tallies [] acc acc' :=
  ⟨hadded.ge, hrelocated.ge, fun _ => ⟨hadded, hrelocated, h⟩, fun _ _ _ hm => absurd hm (by simp)⟩

lemma single (hash : String) (acc : RefreshReport × Ledger) (m : Listing) :
    Tallies [m] acc (mergeListing hash acc m) := by
  obtain ⟨report, l⟩ := acc
  rw [mergeListing_eq]
  refine ⟨by simp, by simp, fun hhome => ?_, fun hadded hrelocated m' hm' => ?_⟩
  · have hsame := (hhome m List.mem_cons_self).mergeMember l.now (some hash)
    simp only [Ledger.mergeMember, hsame]
    exact ⟨rfl, rfl, rfl⟩
  · rw [List.mem_singleton.mp hm']
    by_contra hout
    rcases mergeMember_of_not_atHome hout l.now (some hash) with h | h
    · simp [Ledger.mergeMember, h] at hadded
    · simp [Ledger.mergeMember, h] at hrelocated

/-- As long as nothing is counted, members that are taken over later are at home if they were in the
beginning. -/
lemma trans (h : Tallies ms acc acc') (h' : Tallies ms' acc' acc'') :
    Tallies (ms ++ ms') acc acc'' := by
  refine ⟨h.added_le.trans h'.added_le, h.relocated_le.trans h'.relocated_le, fun hhome => ?_,
    fun hadded hrelocated => ?_⟩
  · obtain ⟨hms, hms'⟩ := List.forall_mem_append.mp hhome
    obtain ⟨hadded, hrelocated, hsame⟩ := h.quiet hms
    obtain ⟨hadded', hrelocated', hsame'⟩ :=
      h'.quiet fun m hm => (atHome_iff_of_unhashed hsame m).mpr (hms' m hm)
    exact ⟨hadded'.trans hadded, hrelocated'.trans hrelocated, hsame'.trans hsame⟩
  · have hadded_le := h.added_le
    have hadded_le' := h'.added_le
    have hrelocated_le := h.relocated_le
    have hrelocated_le' := h'.relocated_le
    have hms := h.atHome (by omega) (by omega)
    obtain ⟨-, -, hsame⟩ := h.quiet hms
    have hms' := h'.atHome (by omega) (by omega)
    exact List.forall_mem_append.mpr
      ⟨hms, fun m hm => (atHome_iff_of_unhashed hsame m).mp (hms' m hm)⟩

end Tallies

/-- All answers, whose members are taken over. -/
lemma tallies_takeRefresh : Tallies (listings xs) ({}, l) (takeRefresh true xs l) := by
  have hall := takeRefresh_listings_induction true xs l
    (P := fun ms added relocated reg => Tallies ms ({}, l)
      ({ added := added, relocated := relocated }, { l with registry := reg }))
    (fun ms added relocated reg id hash hP => ?_)
    (fun _ v _ m _ ms added relocated reg now hP => ?_) (.hashed rfl rfl rfl)
  · exact ⟨hall.added_le, hall.relocated_le, hall.quiet, hall.atHome⟩
  · rw [← List.append_nil ms]
    exact hP.trans (.hashed rfl rfl (unhashed_updateHash id hash))
  · have hone := Tallies.single v.topologyHash
      ({ added := added, relocated := relocated }, { l with now := now, registry := reg }) m
    rw [mergeListing_eq] at hone
    exact hP.trans ⟨hone.added_le, hone.relocated_le, hone.quiet, hone.atHome⟩

/-- Without taking listed members over, nothing is counted. -/
lemma quiet_takeRefresh_false : (takeRefresh false xs l).1.added = 0 ∧
    (takeRefresh false xs l).1.relocated = 0 ∧
    (takeRefresh false xs l).2.registry.entries.map Entry.unhashed =
      l.registry.entries.map Entry.unhashed :=
  takeRefresh_induction (P := fun added relocated reg => added = 0 ∧ relocated = 0 ∧
      reg.entries.map Entry.unhashed = l.registry.entries.map Entry.unhashed)
    (fun _ _ _ id hash hP => ⟨hP.1, hP.2.1, (unhashed_updateHash id hash).trans hP.2.2⟩)
    (fun hmerges => absurd hmerges (by simp)) ⟨rfl, rfl, rfl⟩

/-- **What a refresh that counts nothing tells**: all listed members are at home, if members are
taken over. -/
lemma quiet_takeRefresh_iff :
    (takeRefresh merges xs l).1.added = 0 ∧ (takeRefresh merges xs l).1.relocated = 0 ↔
      (merges = true → ∀ m ∈ listings xs, AtHome l.registry m) := by
  cases merges with
  | false =>
      obtain ⟨hadded, hrelocated, -⟩ : (takeRefresh false xs l).1.added = 0 ∧
          (takeRefresh false xs l).1.relocated = 0 ∧ _ := quiet_takeRefresh_false
      simp [hadded, hrelocated]
  | true =>
      have htally : Tallies (listings xs) ({}, l) (takeRefresh true xs l) := tallies_takeRefresh
      simp only [forall_const]
      refine ⟨fun ⟨hadded, hrelocated⟩ => htally.atHome hadded hrelocated, fun hhome => ?_⟩
      obtain ⟨hadded, hrelocated, -⟩ := htally.quiet hhome
      exact ⟨hadded, hrelocated⟩

/-- If all listed members are at home, a refresh changes nothing but hashes. -/
lemma unhashed_takeRefresh_of_atHome
    (h : merges = true → ∀ m ∈ listings xs, AtHome l.registry m) :
    (takeRefresh merges xs l).2.registry.entries.map Entry.unhashed =
      l.registry.entries.map Entry.unhashed := by
  cases merges with
  | false => exact quiet_takeRefresh_false.2.2
  | true => exact (tallies_takeRefresh.quiet (h rfl)).2.2

/-- Nobody is new if all listed members are registered. -/
lemma added_takeRefresh_of_known (h : merges = true → ∀ m ∈ listings xs,
    l.registry.contains (.identifier m.identifier) = true) :
    (takeRefresh merges xs l).1.added = 0 := by
  refine (takeRefresh_induction (P := fun added _ reg => added = 0 ∧
    ∀ i, l.registry.contains (.identifier i) = true → reg.contains (.identifier i) = true)
    (fun _ _ _ id hash hP => ⟨hP.1, fun i hi => ?_⟩) (fun hmerges v hv m hm _ _ reg now hP => ?_)
    ⟨rfl, fun i hi => hi⟩).1
  · rw [contains_updateHash]
    exact hP.2 i hi
  · have hknown := hP.2 _ (h hmerges m (mem_listings_iff.mpr ⟨v, hv, hm⟩))
    rw [if_neg (by simp [added_mergeMember_iff, hknown])]
    exact ⟨hP.1, fun i hi => contains_identifier_mergeMember (hP.2 i hi) _ _ _⟩

/-! ### Members that may become active -/

variable {report report' : ProbeReport}

/-- Whether an answer makes a member active: one that had no identifier, or one that answered as
itself. -/
def returns : Record × Except Failure TopologyView → Bool
  | (r, .ok v) => r.identifier.all (· == v.identifier)
  | (_, .error _) => false

lemma returns_ok_iff {r : Record} {v : TopologyView} :
    returns (r, .ok v) = true ↔ r.identifier = none ∨ r.identifier = some v.identifier := by
  cases hr : r.identifier <;> simp [returns, hr]

/-- A member counts if its answer makes it active. -/
lemma length_recovered_recover {r : Record} {v : TopologyView} (h : l.registry.WellFormed)
    (hok : (recover r v report l).1 = .ok report') :
    report'.recovered.length = report.recovered.length + if returns (r, .ok v) then 1 else 0 := by
  cases hr : r.identifier with
  | none =>
      obtain ⟨e, -, -, -, hone, -⟩ := recover_unresolved (v := v) report h hr
      obtain rfl := Except.ok.inj (hone.symm.trans hok)
      rw [if_pos (returns_ok_iff.mpr (Or.inl hr)), List.length_append, List.length_singleton]
  | some id =>
      by_cases hid : id = v.identifier
      · subst hid
        cases hc : l.registry.contains (.identifier v.identifier) with
        | false => exact absurd ((recover_self_of_absent hr hc).symm.trans hok) (by simp)
        | true =>
            obtain rfl := Except.ok.inj ((recover_self report hr hc).1.symm.trans hok)
            rw [if_pos (returns_ok_iff.mpr (Or.inr hr)), List.length_append, List.length_singleton]
      · have hout : ¬ returns (r, .ok v) = true := by
          rw [returns_ok_iff]
          simp [hr, hid]
        obtain rfl := Except.ok.inj ((recover_other (l := l) report hr hid).1.symm.trans hok)
        rw [if_neg hout, Nat.add_zero]

/-- How many members became active by their answers. -/
lemma length_recovered_takeProbes (h : l.registry.WellFormed)
    (hok : (takeProbes xs report l).1 = .ok report') :
    report'.recovered.length = report.recovered.length + xs.countP returns := by
  induction xs generalizing report l with
  | nil =>
      obtain rfl : report = report' := by simpa [takeProbes] using hok
      rfl
  | cons x xs ih =>
      obtain ⟨r, answer⟩ := x
      cases answer with
      | error f =>
          rw [takeProbes] at hok
          rw [ih (l := l.note (probeFailed r f)) h hok, List.countP_cons_of_neg (by simp [returns])]
      | ok v =>
          cases hone : (recover r v report l).1 with
          | error f =>
              rw [takeProbes_cons_error hone] at hok
              exact absurd hok (by simp)
          | ok report₁ =>
              rw [takeProbes_cons_ok xs hone] at hok
              rw [ih ((recover_leadsTo h r v report).wellFormed h) hok,
                length_recovered_recover h hone, List.countP_cons]
              omega

/-- If every answer makes a member active, as many become active as answered. -/
lemma length_recovered_of_returns (h : l.registry.WellFormed)
    (hok : (takeProbes xs report l).1 = .ok report')
    (hall : ∀ r v, (r, .ok v) ∈ xs → returns (r, .ok v) = true) :
    report'.recovered.length = report.recovered.length + xs.countP fun x => x.2.isOk := by
  rw [length_recovered_takeProbes h hok]
  congr 1
  refine List.countP_congr fun x hx => ?_
  obtain ⟨r, answer⟩ := x
  cases answer with
  | error f => simp [returns, Except.isOk, Except.toBool]
  | ok v => exact iff_of_true (hall r v hx) rfl

/-- If members without identifiers are asked, all answers are taken over, and each of them makes a
member active. -/
lemma recovered_takeProbes (report : ProbeReport) (h : l.registry.WellFormed)
    (hnone : ∀ x ∈ xs, x.1.identifier = none) :
    ∃ report', (takeProbes xs report l).1 = .ok report' ∧ report'.recovered.length =
      report.recovered.length + xs.countP fun x => x.2.isOk := by
  obtain ⟨report', hok⟩ := takeProbes_ok report h fun x hx id hid =>
    absurd ((hnone x hx).symm.trans hid) (by simp)
  exact ⟨report', hok, length_recovered_of_returns h hok fun r v hx =>
    returns_ok_iff.mpr (Or.inl (hnone _ hx))⟩

/-- If nobody was counted as active, no answer makes a member active. -/
lemma returns_of_unrecovered (h : l.registry.WellFormed)
    (hok : (takeProbes xs report l).1 = .ok report')
    (hnobody : report'.recovered.length = report.recovered.length) :
    ∀ x ∈ xs, returns x = false := by
  rw [length_recovered_takeProbes h hok, Nat.add_eq_left, List.countP_eq_zero] at hnobody
  exact fun x hx => Bool.not_eq_true _ ▸ hnobody x hx

/-- An answer that makes nobody active is that of another one. -/
lemma exists_other {r : Record} {v : TopologyView} (h : returns (r, .ok v) = false) :
    ∃ id, r.identifier = some id ∧ id ≠ v.identifier := by
  rw [← Bool.not_eq_true, returns_ok_iff, not_or] at h
  obtain ⟨id, hr⟩ := Option.ne_none_iff_exists'.mp h.1
  exact ⟨id, hr, fun hid => h.2 (hid ▸ hr)⟩

/-! ### Others who answered instead -/

variable {reg reg' : Registry} {x : Record × Except Failure TopologyView} {k : Key}

/-- Somebody else than was asked has answered, who is not at home there, and a key is that of its
identifier, or the address if it is not registered. -/
def Usurped (reg : Registry) (xs : List (Record × Except Failure TopologyView)) (k : Key) : Prop :=
  ∃ r v i, (r, .ok v) ∈ xs ∧ r.identifier = some i ∧ i ≠ v.identifier ∧
    ¬ AtHome reg ⟨v.identifier, r.address⟩ ∧
    (k = .identifier v.identifier ∨
      k = .address r.address ∧ reg.contains (.identifier v.identifier) = false)

lemma Usurped.cons (h : Usurped reg xs k) : Usurped reg (x :: xs) k := by
  obtain ⟨r, v, i, hx, hrest⟩ := h
  exact ⟨r, v, i, List.mem_cons_of_mem x hx, hrest⟩

/-- A key at which nothing has changed is usurped by no more answers than before, if all who were
registered still are. -/
lemma Usurped.of_outline (h : Usurped reg' xs k)
    (hsame : (reg'.find? k).map Entry.outline = (reg.find? k).map Entry.outline)
    (hstay : ∀ i, reg.contains (.identifier i) = true → reg'.contains (.identifier i) = true) :
    Usurped reg xs k := by
  obtain ⟨r, v, i, hx, hr, hne, haway, rfl | ⟨rfl, hnew⟩⟩ := h
  · exact ⟨r, v, i, hx, hr, hne, fun hhome => haway ((atHome_iff_of_outline hsame).mpr hhome),
      Or.inl rfl⟩
  · have hold : ¬ reg.contains (.identifier v.identifier) = true := fun hc => by
      rw [hstay _ hc] at hnew
      cases hnew
    exact ⟨r, v, i, hx, hr, hne, fun hhome => hold hhome.contains,
      Or.inr ⟨rfl, Bool.not_eq_true _ ▸ hold⟩⟩

/-- If no answer makes a member active, an entry says the same about its member as before, unless
its key is usurped. -/
lemma outline_takeProbes_of_not_usurped (hxs : ∀ x ∈ xs, returns x = false)
    (hk : ¬ Usurped l.registry xs k) (report : ProbeReport) :
    ((takeProbes xs report l).2.registry.find? k).map Entry.outline =
      (l.registry.find? k).map Entry.outline := by
  induction xs generalizing report l with
  | nil => rfl
  | cons x xs ih =>
      obtain ⟨r, answer⟩ := x
      have hrest : ∀ x ∈ xs, returns x = false := fun x hx => hxs x (List.mem_cons_of_mem _ hx)
      cases answer with
      | error f => exact ih (l := l.note (probeFailed r f)) hrest (fun h => hk h.cons) _
      | ok v =>
          obtain ⟨id, hr, hid⟩ := exists_other (hxs _ List.mem_cons_self)
          obtain ⟨hone, hreg⟩ := recover_other (l := l) (v := v) report hr hid
          have hsame : ((recover r v report l).2.registry.find? k).map Entry.outline =
              (l.registry.find? k).map Entry.outline := by
            rw [hreg]
            by_cases hhome : AtHome l.registry ⟨v.identifier, r.address⟩
            · rw [hhome.mergeMember]
            · have husurped := fun hk' => hk ⟨r, v, id, List.mem_cons_self, hr, hid, hhome, hk'⟩
              rw [outline_mergeMember, if_neg fun h => husurped (Or.inl h),
                if_neg fun h => husurped (Or.inr h)]
          have hstay : ∀ i, l.registry.contains (.identifier i) = true →
              (recover r v report l).2.registry.contains (.identifier i) = true := fun i hi => by
            rw [hreg]
            exact contains_identifier_mergeMember hi _ _ _
          rw [takeProbes_cons_ok xs hone, ih hrest (fun h => hk (h.of_outline hsame hstay).cons),
            hsame]

/-- If nobody was counted as active, an entry says the same about its member as before, unless its
key is usurped. -/
lemma outline_takeProbes_of_unrecovered (h : l.registry.WellFormed)
    (hok : (takeProbes xs report l).1 = .ok report')
    (hnobody : report'.recovered.length = report.recovered.length)
    (hk : ¬ Usurped l.registry xs k) :
    ((takeProbes xs report l).2.registry.find? k).map Entry.outline =
      (l.registry.find? k).map Entry.outline :=
  outline_takeProbes_of_not_usurped (returns_of_unrecovered h hok hnobody) hk report

/-- If nobody becomes active and all those who answered instead are at home, nothing changes. -/
lemma registry_takeProbes_of_atHome
    (hxs : ∀ r v, (r, .ok v) ∈ xs → returns (r, .ok v) = false ∧
      AtHome l.registry ⟨v.identifier, r.address⟩) (report : ProbeReport) :
    (takeProbes xs report l).2.registry = l.registry := by
  induction xs generalizing report l with
  | nil => rfl
  | cons x xs ih =>
      obtain ⟨r, answer⟩ := x
      have hrest := fun r v hx => hxs r v (List.mem_cons_of_mem _ hx)
      cases answer with
      | error f => exact ih (l := l.note (probeFailed r f)) hrest _
      | ok v =>
          obtain ⟨hout, hhome⟩ := hxs r v List.mem_cons_self
          obtain ⟨id, hr, hid⟩ := exists_other hout
          obtain ⟨hone, hreg⟩ := recover_other (l := l) (v := v) report hr hid
          have hsame : (recover r v report l).2.registry = l.registry := by
            rw [hreg, hhome.mergeMember]
          rw [takeProbes_cons_ok xs hone, ih (by rwa [hsame]), hsame]

/-- If nobody was counted as active and all those who answered in place of others are at home,
nothing changes. -/
lemma registry_takeProbes_of_unrecovered (h : l.registry.WellFormed)
    (hok : (takeProbes xs report l).1 = .ok report')
    (hnobody : report'.recovered.length = report.recovered.length)
    (hhome : ∀ r v i, (r, .ok v) ∈ xs → r.identifier = some i → i ≠ v.identifier →
      AtHome l.registry ⟨v.identifier, r.address⟩) :
    (takeProbes xs report l).2.registry = l.registry := by
  refine registry_takeProbes_of_atHome (fun r v hx => ?_) report
  have hout := returns_of_unrecovered h hok hnobody _ hx
  obtain ⟨i, hi, hne⟩ := exists_other hout
  exact ⟨hout, hhome r v i hx hi hne⟩

end Discovery

end Roster
