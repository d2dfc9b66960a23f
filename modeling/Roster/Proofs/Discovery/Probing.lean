import Roster.Discovery.Answers
import Roster.Proofs.Registry.Deeds

/-!
# Answers of members that may become active

What one answer does to the registry, by what is known of the member that was asked, and what
all of them together do to the status of the members.

* `settled`: where a member without an identifier is registered once it told one.
* `recover_unresolved`: a member without an identifier takes on the one that it told, and the
  entry under that identifier is active.
* `recover_self`: a member that answered as itself becomes active.
* `recover_other`: another member answered, and is taken over as a listed one.
* `active_takeProbes_iff`: who is active after all answers.
-/

namespace Roster

namespace Discovery

open Registry

variable {r : Record} {v : TopologyView} {report report' : ProbeReport} {l l' : Ledger}

/-! ### Making one member active -/

/-- A member that has an entry becomes active, and no other entry changes. -/
lemma activate_singleton (hc : l.registry.contains r.key = true) :
    (∃ n, (l.activate [r]).1 = .ok n) ∧
      ∀ k, (l.activate [r]).2.registry.find? k =
        if k = r.key then (l.registry.find? k).map (Entry.given true l.now)
        else l.registry.find? k := by
  have hall : ∀ s ∈ [r], l.registry.contains s.key = true := by simpa using hc
  refine ⟨⟨_, (setStatus_of_contains hall).1⟩, fun k => ?_⟩
  have hk : (l.registry.setStatus l.now true [r]).2.find? k = _ :=
    (setStatus_of_contains hall).2 k
  simpa [Ledger.activate] using hk

/-- What comes of an answer for which a member was found that has an entry. -/
lemma recover_of_identify (report : ProbeReport) {current : Record} {l₁ : Ledger}
    (hi : identify r v l = (some current, l₁))
    (hc : l₁.registry.contains current.key = true) :
    (recover r v report l).1 = .ok { report with recovered := report.recovered ++ [current] } ∧
      ∀ k, (recover r v report l).2.registry.find? k =
        if k = current.key then (l₁.registry.find? k).map (Entry.given true l₁.now)
        else l₁.registry.find? k := by
  obtain ⟨⟨n, hn⟩, hfind⟩ := activate_singleton hc
  have hactivate : l₁.activate [current] = (.ok n, (l₁.activate [current]).2) := by
    rw [← hn]
  have hrecover : recover r v report l = (.ok { report with
      recovered := report.recovered ++ [current] }, (l₁.activate [current]).2) := by
    simp only [recover, hi]
    rw [hactivate]
  rw [hrecover]
  exact ⟨rfl, hfind⟩

/-! ### One answer -/

/-- The entry under the address of the member tells who it is. -/
lemma identify_of_resolve {resolution : Resolution} (hr : r.identifier = none)
    (hres : (l.registry.resolve r.address v.identifier (some v.topologyHash)).1 =
      .ok resolution) :
    identify r v l =
      (some resolution.record, (l.resolve r.address v.identifier (some v.topologyHash)).2) := by
  cases hl : l.resolve r.address v.identifier (some v.topologyHash) with
  | mk result l₁ =>
      obtain rfl : result = .ok resolution := by
        rw [← hres]
        exact (congrArg Prod.fst hl).symm
      simp only [identify, hr, hl]

/-- The entry under the address of the member has gone: the member that it told to be is taken
over as a listed one. -/
lemma identify_of_absent (hr : r.identifier = none)
    (hf : l.registry.find? (.address r.address) = none) :
    ∃ l₁, identify r v l = (l₁.registry.get? v.identifier, l₁) ∧ l₁.registry =
      (l.registry.mergeMember l.now v.identifier r.address (some v.topologyHash)).2 := by
  have hl : l.resolve r.address v.identifier (some v.topologyHash) =
      (.error (notUnresolved r.address), l.put l.registry []) := by
    simp only [Ledger.resolve, resolve_of_none hf, Ledger.resolutionEvents]
  refine ⟨((l.put l.registry []).mergeMember v.identifier r.address (some v.topologyHash)).2,
    ?_, rfl⟩
  simp only [identify, hr, hl]

/-- Where a member is registered once it told an identifier at an address: where it was registered
under it already, unless nothing stands under the address itself. -/
def settled (reg : Registry) (a : Address) (id : String) : Address :=
  if reg.contains (.address a) then ((reg.get? id).map Record.address).getD a else a

lemma settled_cases (reg : Registry) (a : Address) (id : String) :
    settled reg a id = a ∨ ∃ owner, reg.find? (.identifier id) = some owner ∧
      settled reg a id = owner.record.address := by
  unfold settled get?
  cases reg.find? (.identifier id) with
  | none => simp
  | some owner => split_ifs <;> simp

/-- A member without an identifier takes on the one that it told; if its entry has gone, the
member that it told to be is taken over as a listed one. -/
lemma identify_unresolved (h : l.registry.WellFormed) (hr : r.identifier = none) :
    ∃ e l₁, identify r v l = (some e.record, l₁) ∧ e.record.key = .identifier v.identifier ∧
      e.record.address = settled l.registry r.address v.identifier ∧
      ∀ k, l₁.registry.find? k =
        if k = .address r.address then none
        else if k = .identifier v.identifier then some e else l.registry.find? k := by
  cases hf : l.registry.find? (.address r.address) with
  | none =>
      obtain ⟨l₁, hi, hreg⟩ := identify_of_absent (v := v) hr hf
      have hfind : ∀ k, l₁.registry.find? k = if k = .identifier v.identifier then
          some (Entry.listed v.identifier r.address (some v.topologyHash) l.now
            (l.registry.find? (.identifier v.identifier))) else l.registry.find? k := by
        intro k
        rw [hreg, find?_mergeMember]
        by_cases hk : k = .address r.address <;> simp [hk, hf]
      have hwf : l₁.registry.WellFormed := by
        rw [hreg]
        exact h.mergeMember _ _ _
      have he := hfind (.identifier v.identifier)
      rw [if_pos rfl] at he
      refine ⟨_, l₁, ?_, hwf.record_key he, ?_, fun k => ?_⟩
      · rw [hi, get?, he, Option.map_some]
      · rw [settled, find?_eq_none_iff.mp hf, if_neg Bool.false_ne_true]
        unfold Entry.listed
        split
        · split_ifs with ha
          · exact ha
          · rfl
        · rfl
      · rw [hfind]
        by_cases hk : k = .address r.address <;> simp [hk, hf]
  | some e =>
      have hc := contains_iff_exists_find?.mpr ⟨e, hf⟩
      cases ho : l.registry.find? (.identifier v.identifier) with
      | none =>
          obtain ⟨hfst, hfind⟩ := h.resolve_of_new hf ho (some v.topologyHash)
          have haddress : e.record.address = r.address :=
            (Record.key_eq_address_iff.mp (h.record_key hf)).2
          exact ⟨identified e v.identifier (some v.topologyHash), _, identify_of_resolve hr hfst,
            rfl, by simpa [settled, hc, get?, ho, identified] using haddress, hfind⟩
      | some owner =>
          obtain ⟨record, haddress, hid, hfst, hfind⟩ :=
            h.resolve_of_owner hc ho (some v.topologyHash)
          exact ⟨{ owner with record := record }, _, identify_of_resolve hr hfst,
            Record.key_eq_identifier_iff.mpr hid, by simpa [settled, hc, get?, ho] using haddress,
            hfind⟩

lemma identify_self (hr : r.identifier = some v.identifier) :
    identify r v l = (some r, l.updateHash v.identifier v.topologyHash) := by
  simp only [identify, hr, if_true]

/-- What a listed member changes is all that another one's answer changes. -/
lemma identify_other {id : String} (hr : r.identifier = some id) (hne : id ≠ v.identifier) :
    ∃ l₁, identify r v l = (none, l₁) ∧ l₁.registry =
      (l.registry.mergeMember l.now v.identifier r.address (some v.topologyHash)).2 := by
  refine ⟨((l.note (otherAnswered r id v)).mergeMember v.identifier r.address
    (some v.topologyHash)).2, ?_, rfl⟩
  simp only [identify, hr, if_neg hne]

/-- A member without an identifier that answered: its own entry is gone, the one under the
identifier is active, and no other entry changes. -/
lemma recover_unresolved (report : ProbeReport) (h : l.registry.WellFormed)
    (hr : r.identifier = none) :
    ∃ e, e.active = true ∧ e.record.key = .identifier v.identifier ∧
      e.record.address = settled l.registry r.address v.identifier ∧
      (recover r v report l).1 = .ok { report with recovered := report.recovered ++ [e.record] } ∧
      ∀ k, (recover r v report l).2.registry.find? k =
        if k = .address r.address then none
        else if k = .identifier v.identifier then some e else l.registry.find? k := by
  obtain ⟨e, l₁, hi, hkey, haddress, hfind⟩ := identify_unresolved (v := v) h hr
  have hc : l₁.registry.contains e.record.key = true := by
    rw [hkey, contains_iff_exists_find?]
    exact ⟨e, by rw [hfind]; simp⟩
  obtain ⟨hok, hfind'⟩ := recover_of_identify report hi hc
  refine ⟨Entry.given true l₁.now e, by simp, by simpa using hkey, by simpa using haddress,
    by simpa using hok, fun k => ?_⟩
  rw [hfind', hfind, hkey]
  by_cases hk : k = .identifier v.identifier
  · simp [hk]
  · simp [hk]

/-- A member that answered as itself and has an entry becomes active, with the hash that it
told. -/
lemma recover_self (report : ProbeReport) (hr : r.identifier = some v.identifier)
    (hc : l.registry.contains (.identifier v.identifier) = true) :
    (recover r v report l).1 = .ok { report with recovered := report.recovered ++ [r] } ∧
      ∃ now, ∀ k, (recover r v report l).2.registry.find? k =
        if k = .identifier v.identifier then
          (l.registry.find? k).map fun e => Entry.given true now
            { e with record := { e.record with topologyHash := some v.topologyHash } }
        else l.registry.find? k := by
  have hkey : r.key = .identifier v.identifier := Record.key_eq_identifier_iff.mpr hr
  have hfind : ∀ k, (l.updateHash v.identifier v.topologyHash).registry.find? k = _ :=
    fun k => find?_updateHash v.identifier v.topologyHash
  obtain ⟨e, he⟩ := contains_iff_exists_find?.mp hc
  have hc₁ : (l.updateHash v.identifier v.topologyHash).registry.contains r.key = true := by
    rw [hkey, contains_iff_exists_find?, hfind]
    simp [he]
  obtain ⟨hok, hfind'⟩ := recover_of_identify report (identify_self hr) hc₁
  refine ⟨hok, l.now, fun k => ?_⟩
  rw [hfind', hfind, hkey]
  split_ifs with hk
  · rw [Option.map_map]
    rfl
  · rfl

/-- If a member that answered as itself has no entry, that is noticed. -/
lemma recover_self_of_absent (hr : r.identifier = some v.identifier)
    (hc : l.registry.contains (.identifier v.identifier) = false) :
    (recover r v report l).1 = .error (notRegistered (.identifier v.identifier)) := by
  have hkey : r.key = .identifier v.identifier := Record.key_eq_identifier_iff.mpr hr
  have hc₁ : (l.registry.updateHash v.identifier v.topologyHash).contains
      (.identifier v.identifier) = false := by
    rw [← find?_eq_none_iff, find?_updateHash, find?_eq_none_iff.mpr hc]
    simp
  have hmissing : (l.registry.updateHash v.identifier v.topologyHash).missing? [r] =
      some (.identifier v.identifier) := by
    simp [missing?, hc₁, hkey]
  simp only [recover, identify_self hr, Ledger.activate, Ledger.setStatus,
    Ledger.registry_updateHash, setStatus_of_missing hmissing]

/-- If another member answered, it is taken over as a listed one, and nobody is recovered. -/
lemma recover_other (report : ProbeReport) {id : String} (hr : r.identifier = some id)
    (hne : id ≠ v.identifier) :
    (recover r v report l).1 = .ok report ∧ (recover r v report l).2.registry =
      (l.registry.mergeMember l.now v.identifier r.address (some v.topologyHash)).2 := by
  obtain ⟨l₁, hi, hreg⟩ := identify_other (l := l) hr hne
  simp only [recover, hi, true_and]
  exact hreg

/-- Finding out which member answered gives no entry another status, and registers nobody but that
member. -/
lemma identify_via (r : Record) (v : TopologyView) (l : Ledger) :
    Via (fun c => c.IsQuiet ∧ ∀ i, c.Names i → i = v.identifier)
      l.registry (identify r v l).2.registry := by
  have hmerge : ∀ now reg, Via (fun c => c.IsQuiet ∧ ∀ i, c.Names i → i = v.identifier) reg
      (reg.mergeMember now v.identifier r.address (some v.topologyHash)).2 :=
    fun now reg => Via.single (c := .mergeMember v.identifier r.address (some v.topologyHash))
      ⟨trivial, fun _ => Eq.symm⟩ now reg
  cases hr : r.identifier with
  | none =>
      have hstep : Via (fun c => c.IsQuiet ∧ ∀ i, c.Names i → i = v.identifier) l.registry
          (l.resolve r.address v.identifier (some v.topologyHash)).2.registry :=
        Via.single (c := .resolve r.address v.identifier (some v.topologyHash))
          ⟨trivial, fun _ => Eq.symm⟩ l.now _
      cases hl : l.resolve r.address v.identifier (some v.topologyHash) with
      | mk result l₁ =>
          rw [hl] at hstep
          cases result with
          | ok resolution => simpa only [identify, hr, hl] using hstep
          | error f =>
              simp only [identify, hr, hl]
              exact hstep.trans (hmerge l₁.now _)
  | some id =>
      by_cases hid : id = v.identifier
      · subst hid
        rw [identify_self hr]
        exact Via.single (c := .updateHash v.identifier v.topologyHash)
          ⟨trivial, fun _ => False.elim⟩ l.now _
      · obtain ⟨l₁, hi, hreg⟩ := identify_other (l := l) hr hid
        rw [hi, hreg]
        exact hmerge l.now _

/-- A member that is to become active has an identifier. -/
lemma isResolved_of_identify (h : l.registry.WellFormed) {current : Record} {l₁ : Ledger}
    (hi : identify r v l = (some current, l₁)) : current.isResolved = true := by
  cases hr : r.identifier with
  | none =>
      obtain ⟨e, l₂, hi', hkey, -⟩ := identify_unresolved (v := v) h hr
      rw [hi'] at hi
      obtain ⟨rfl, -⟩ : e.record = current ∧ l₂ = l₁ := by simpa using hi
      exact Record.isResolved_iff.mpr ⟨_, hkey⟩
  | some id =>
      by_cases hid : id = v.identifier
      · subst hid
        rw [identify_self hr] at hi
        obtain ⟨rfl, -⟩ : r = current ∧ _ = l₁ := by simpa using hi
        simp [Record.isResolved, hr]
      · obtain ⟨l₂, hi', -⟩ := identify_other (l := l) hr hid
        rw [hi'] at hi
        exact absurd hi (by simp)

/-- An answer makes changes that give no entry another status and register nobody but the member
that answered, and may make the member active that was found to have answered. -/
lemma recover_via {P : Change → Prop}
    (hquiet : ∀ c, c.IsQuiet → (∀ i, c.Names i → i = v.identifier) → P c)
    (hactivate : ∀ current l₁, identify r v l = (some current, l₁) → P (.activate [current]))
    (report : ProbeReport) : Via P l.registry (recover r v report l).2.registry := by
  have hstep := (identify_via r v l).mono fun c hc => hquiet c hc.1 hc.2
  cases hi : identify r v l with
  | mk current? l₁ =>
      rw [hi] at hstep
      cases current? with
      | none => simpa only [recover, hi] using hstep
      | some current =>
          have hboth : Via P l.registry (l₁.activate [current]).2.registry :=
            hstep.trans (Via.single (hactivate current l₁ hi) l₁.now _)
          cases hl : l₁.activate [current] with
          | mk result l₂ =>
              rw [hl] at hboth
              cases result <;> simpa only [recover, hi, hl] using hboth

lemma recover_orderly (h : l.registry.WellFormed) (r : Record) (v : TopologyView)
    (report : ProbeReport) :
    Via Change.IsOrderly l.registry (recover r v report l).2.registry := by
  refine recover_via (fun _ hc _ => hc.orderly) (fun current l₁ hi s hs => ?_) report
  rw [List.mem_singleton.mp hs]
  exact isResolved_of_identify h hi

/-- An answer changes the registry in an orderly way. -/
lemma recover_leadsTo (h : l.registry.WellFormed) (r : Record) (v : TopologyView)
    (report : ProbeReport) : LeadsTo l.registry (recover r v report l).2.registry :=
  (recover_orderly h r v report).leadsTo

/-- The status of a member after an answer: it is active if it is the one that answered and was
asked without an identifier, under its own, or without being known. -/
lemma isActive?_recover (h : l.registry.WellFormed)
    (hok : (recover r v report l).1 = .ok report') (i : String) :
    (recover r v report l).2.registry.isActive? (.identifier i) =
      if v.identifier = i ∧ (r.identifier = none ∨ r.identifier = some i ∨
        l.registry.contains (.identifier i) = false) then some true
      else l.registry.isActive? (.identifier i) := by
  cases hr : r.identifier with
  | none =>
      obtain ⟨e, hact, -, -, -, hfind⟩ := recover_unresolved (v := v) report h hr
      rw [isActive?, hfind, isActive?]
      by_cases hi : i = v.identifier
      · simp [hi, hact]
      · simp [hi, Ne.symm hi]
  | some id =>
      by_cases hid : id = v.identifier
      · subst hid
        cases hc : l.registry.contains (.identifier v.identifier) with
        | false =>
            rw [recover_self_of_absent hr hc] at hok
            exact absurd hok (by simp)
        | true =>
            obtain ⟨-, now, hfind⟩ := recover_self report hr hc
            obtain ⟨e, he⟩ := contains_iff_exists_find?.mp hc
            rw [isActive?, hfind, isActive?]
            by_cases hi : i = v.identifier
            · simp [hi, he]
            · simp [hi, Ne.symm hi]
      · obtain ⟨-, hreg⟩ := recover_other (l := l) report hr hid
        rw [hreg, isActive?_mergeMember]
        by_cases hi : v.identifier = i
        · subst hi
          cases hstatus : l.registry.isActive? (.identifier v.identifier) with
          | none => simp [isActive?_eq_none_iff.mp hstatus]
          | some b =>
              have hc : l.registry.contains (.identifier v.identifier) ≠ false := by
                rw [ne_eq, ← isActive?_eq_none_iff, hstatus]
                simp
              simp [hc, hid]
        · simp [hi]

/-! ### All answers -/

variable {xs : List (Record × Except Failure TopologyView)}

lemma takeProbes_cons_ok (xs : List (Record × Except Failure TopologyView))
    (hok : (recover r v report l).1 = .ok report') :
    takeProbes ((r, .ok v) :: xs) report l = takeProbes xs report' (recover r v report l).2 := by
  cases hx : recover r v report l with
  | mk result l₁ =>
      rw [hx] at hok
      obtain rfl : result = .ok report' := hok
      simp only [takeProbes, hx]

lemma takeProbes_cons_error {f : Failure} (hx : (recover r v report l).1 = .error f) :
    takeProbes ((r, .ok v) :: xs) report l = (.error f, (recover r v report l).2) := by
  cases hr : recover r v report l with
  | mk result l₁ =>
      rw [hr] at hx
      obtain rfl : result = .error f := hx
      simp only [takeProbes, hr]

/-- If each answer makes changes of a kind only as long as something holds of the registry, and this
goes on to hold, then all answers do. -/
lemma takeProbes_via {P : Change → Prop} {p : Registry → Prop}
    {xs : List (Record × Except Failure TopologyView)}
    (hstep : ∀ r v, (r, .ok v) ∈ xs → ∀ report (l : Ledger), p l.registry →
      Via P l.registry (recover r v report l).2.registry ∧ p (recover r v report l).2.registry)
    (h : p l.registry) (report : ProbeReport) :
    Via P l.registry (takeProbes xs report l).2.registry := by
  induction xs generalizing report l with
  | nil => exact Via.refl _
  | cons x xs ih =>
      have hrest := fun r v hx => hstep r v (List.mem_cons_of_mem _ hx)
      obtain ⟨r, answer⟩ := x
      cases answer with
      | error f =>
          rw [takeProbes]
          exact ih hrest (l := l.note (probeFailed r f)) h _
      | ok v =>
          obtain ⟨hone, hp⟩ := hstep r v List.mem_cons_self report l h
          cases hres : (recover r v report l).1 with
          | error f =>
              rw [takeProbes_cons_error hres]
              exact hone
          | ok report' =>
              rw [takeProbes_cons_ok xs hres]
              exact hone.trans (ih hrest hp report')

/-- All answers make nobody inactive, and register nobody but the members that answered. -/
lemma takeProbes_gentle (xs : List (Record × Except Failure TopologyView)) (report : ProbeReport)
    (l : Ledger) :
    Via (fun c => c.IsGentle ∧ ∀ i, c.Names i → ∃ r v, (r, .ok v) ∈ xs ∧ v.identifier = i)
      l.registry (takeProbes xs report l).2.registry := by
  refine takeProbes_via (p := fun _ => True) (fun r v hx report l _ => ⟨?_, trivial⟩) trivial report
  refine recover_via (fun c hc hnames => ⟨hc.gentle, fun i hi => ?_⟩)
    (fun _ _ _ => ⟨trivial, fun _ => False.elim⟩) report
  exact ⟨r, v, hx, (hnames i hi).symm⟩

/-- All answers change the registry in an orderly way. -/
lemma takeProbes_leadsTo (h : l.registry.WellFormed)
    (xs : List (Record × Except Failure TopologyView)) (report : ProbeReport) :
    LeadsTo l.registry (takeProbes xs report l).2.registry :=
  (takeProbes_via (p := WellFormed) (fun r v _ report _ h => ⟨recover_orderly h r v report,
    (recover_orderly h r v report).wellFormed h⟩) h report).leadsTo

/-- If the members that were asked under an identifier are registered, all answers are taken
over. -/
lemma takeProbes_ok (report : ProbeReport) (h : l.registry.WellFormed)
    (hall : ∀ x ∈ xs, ∀ id, x.1.identifier = some id →
      l.registry.contains (.identifier id) = true) :
    ∃ report', (takeProbes xs report l).1 = .ok report' := by
  induction xs generalizing report l with
  | nil => exact ⟨report, rfl⟩
  | cons x xs ih =>
      obtain ⟨r, answer⟩ := x
      cases answer with
      | error f =>
          rw [takeProbes]
          refine ih _ (by simpa using h) fun x hx => ?_
          simpa using hall x (List.mem_cons_of_mem _ hx)
      | ok v =>
          have hok : ∃ report', (recover r v report l).1 = .ok report' := by
            cases hr : r.identifier with
            | none =>
                obtain ⟨e, -, -, -, hok, -⟩ := recover_unresolved (v := v) report h hr
                exact ⟨_, hok⟩
            | some id =>
                by_cases hid : id = v.identifier
                · subst hid
                  exact ⟨_, (recover_self report hr (hall _ List.mem_cons_self _ hr)).1⟩
                · exact ⟨_, (recover_other report hr hid).1⟩
          obtain ⟨report', hok⟩ := hok
          rw [takeProbes_cons_ok xs hok]
          have hlead := recover_leadsTo h r v report
          exact ih _ (hlead.wellFormed h) fun x hx id hid =>
            hlead.contains_identifier h (hall x (List.mem_cons_of_mem _ hx) id hid)

/-- **Who is active after all answers**: those who were before, and those who answered and were
asked without an identifier, under their own, or without being known before. -/
lemma active_takeProbes_iff (h : l.registry.WellFormed)
    (hok : (takeProbes xs report l).1 = .ok report') (i : String) :
    (takeProbes xs report l).2.registry.isActive? (.identifier i) = some true ↔
      l.registry.isActive? (.identifier i) = some true ∨
      ∃ r v, (r, .ok v) ∈ xs ∧ v.identifier = i ∧ (r.identifier = none ∨ r.identifier = some i ∨
        l.registry.contains (.identifier i) = false) := by
  induction xs generalizing report l with
  | nil => simp [takeProbes]
  | cons x xs ih =>
      obtain ⟨r, answer⟩ := x
      cases answer with
      | error f =>
          rw [takeProbes] at hok ⊢
          rw [ih (by simpa using h) hok]
          simp
      | ok v =>
          cases hres : (recover r v report l).1 with
          | error f =>
              rw [takeProbes_cons_error hres] at hok
              exact absurd hok (by simp)
          | ok report₁ =>
              have hlead := recover_leadsTo h r v report
              rw [takeProbes_cons_ok xs hres] at hok ⊢
              have hstatus := isActive?_recover h hres i
              rw [ih (hlead.wellFormed h) hok, hstatus]
              split_ifs at hstatus ⊢ with hP
              · exact ⟨fun _ => Or.inr ⟨r, v, List.mem_cons_self, hP⟩, fun _ => Or.inl rfl⟩
              · have hcontains :
                    (recover r v report l).2.registry.contains (.identifier i) = false ↔
                      l.registry.contains (.identifier i) = false := by
                  rw [← isActive?_eq_none_iff, hstatus, isActive?_eq_none_iff]
                refine or_congr_right ⟨?_, ?_⟩
                · rintro ⟨r', v', hmem, hid, hcase⟩
                  rw [hcontains] at hcase
                  exact ⟨r', v', List.mem_cons_of_mem _ hmem, hid, hcase⟩
                · rintro ⟨r', v', hmem, hid, hcase⟩
                  rcases List.mem_cons.mp hmem with heq | hmem
                  · obtain ⟨rfl, rfl⟩ : r' = r ∧ v' = v := by simpa using heq
                    exact absurd ⟨hid, hcase⟩ hP
                  · exact ⟨r', v', hmem, hid, by rwa [hcontains]⟩

/-- Asking members makes nobody inactive. -/
lemma inactive_of_takeProbes (h : l.registry.WellFormed)
    (hok : (takeProbes xs report l).1 = .ok report') {i : String}
    (hi : (takeProbes xs report l).2.registry.isActive? (.identifier i) = some false) :
    l.registry.isActive? (.identifier i) = some false := by
  induction xs generalizing report l with
  | nil => exact hi
  | cons x xs ih =>
      obtain ⟨r, answer⟩ := x
      cases answer with
      | error f =>
          rw [takeProbes] at hok hi
          exact ih (l := l.note (probeFailed r f)) h hok hi
      | ok v =>
          cases hres : (recover r v report l).1 with
          | error f =>
              rw [takeProbes_cons_error hres] at hok
              exact absurd hok (by simp)
          | ok report₁ =>
              rw [takeProbes_cons_ok xs hres] at hok hi
              have hone := ih ((recover_leadsTo h r v report).wellFormed h) hok hi
              rw [isActive?_recover h hres] at hone
              split_ifs at hone
              · exact absurd hone (by simp)
              · exact hone

end Discovery

end Roster
