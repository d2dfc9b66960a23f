import Mathlib.Data.Finset.Card
import Mathlib.Data.Set.Defs
import Roster.Proofs.Discovery.Counting

/-!
# Registries that track members at their places

Members are placed if each of them has one address and no two have the same. If whoever answers at
a place is the member that is placed there, and whoever is listed is listed at its place, then the
registry follows the places: nobody ever moves.

* `Placement`: where members are.
* `Tracks`: what a registry that is filled from such answers always satisfies.
* `Tracks.mergeMember`, `Tracks.updateHash`, `Tracks.deactivate`, `Tracks.of_recover`: each change
  that answers make keeps it.
* `Tracks.of_takeProbes`, `Tracks.of_takeRefresh`: all answers together keep it, and a refresh
  counts those that are registered by it.
-/

namespace Roster

/-- Where members are: each one at one address, and at most one at an address. -/
structure Placement where
  sites : Set Listing
  address_unique : ∀ {i a b}, ⟨i, a⟩ ∈ sites → ⟨i, b⟩ ∈ sites → a = b
  identifier_unique : ∀ {i j a}, ⟨i, a⟩ ∈ sites → ⟨j, a⟩ ∈ sites → i = j

open Discovery Registry

/-! ### The identifiers of a registry -/

namespace Registry

variable {reg : Registry} {i : String} {now : Instant}

/-- The identifiers that are registered. -/
def identifiers (reg : Registry) : Finset String :=
  (reg.entries.filterMap fun e => e.record.identifier).toFinset

lemma WellFormed.mem_identifiers (h : reg.WellFormed) :
    i ∈ reg.identifiers ↔ reg.contains (.identifier i) = true := by
  simp only [identifiers, List.mem_toFinset, List.mem_filterMap, contains_iff]
  refine exists_congr fun e => and_congr_right fun he => ?_
  rw [h.placed e he, Record.key_eq_identifier_iff]

lemma identifiers_mergeMember (h : reg.WellFormed) (id : String) (a : Address)
    (hash : Option String) :
    (reg.mergeMember now id a hash).2.identifiers = insert id reg.identifiers := by
  ext i
  rw [(h.mergeMember id a hash).mem_identifiers, contains_mergeMember, Finset.mem_insert,
    h.mem_identifiers]
  simp

lemma identifiers_updateHash (h : reg.WellFormed) (id hash : String) :
    (reg.updateHash id hash).identifiers = reg.identifiers := by
  ext i
  rw [(h.updateHash id hash).mem_identifiers, contains_updateHash, h.mem_identifiers]

/-- A listed member that is not registered counts as new. -/
lemma mergeMember_new {id : String} (hc : reg.contains (.identifier id) = false) (a : Address)
    (hash : Option String) : (reg.mergeMember now id a hash).1 = .added := by
  simp only [mergeMember, find?_eq_none_iff.mpr hc]

end Registry

/-- What a registry satisfies that is filled from the answers of placed members: every member with
an identifier has its address, and every other one is inactive and stands for an address to start
from; if that is the address of a placed member, then this one is not registered under its
identifier. -/
structure Tracks (P : Placement) (seeds : List Address) (reg : Registry) : Prop where
  wellFormed : reg.WellFormed
  member : ∀ {i e}, reg.find? (.identifier i) = some e → ⟨i, e.record.address⟩ ∈ P.sites
  placeholder : ∀ {a e}, reg.find? (.address a) = some e →
    a ∈ seeds ∧ e.record = .unresolved a ∧ e.active = false ∧
      ∀ i, ⟨i, a⟩ ∈ P.sites → reg.find? (.identifier i) = none

namespace Tracks

variable {P : Placement} {seeds : List Address} {reg : Registry} {now : Instant}

lemma empty : Tracks P seeds Registry.empty :=
  ⟨WellFormed.empty, fun h => absurd h (by simp [find?]), fun h => absurd h (by simp [find?])⟩

/-- The addresses to start from can be entered. -/
lemma add_seeds (now : Instant) {as : List Address} (has : as ⊆ seeds) (h : Tracks P seeds reg)
    (hnone : ∀ i, reg.find? (.identifier i) = none) :
    Tracks P seeds (reg.add now (as.map Record.unresolved)) ∧
      ∀ i, (reg.add now (as.map Record.unresolved)).find? (.identifier i) = none := by
  induction as generalizing reg with
  | nil => exact ⟨h, hnone⟩
  | cons a as ih =>
      obtain ⟨ha, has⟩ := List.cons_subset.mp has
      have hnone' : ∀ i, (reg.addOne now (.unresolved a)).find? (.identifier i) = none := by
        intro i
        rw [find?_addOne, if_neg (by simp), hnone]
      refine ih has ⟨h.wellFormed.addOne _, fun hf => ?_, fun {a' e} hf => ?_⟩ hnone'
      · rw [hnone'] at hf
        exact absurd hf (by simp)
      · rw [find?_addOne] at hf
        split_ifs at hf with hk
        · obtain rfl : a' = a := by simpa using hk
          obtain rfl := Option.some.inj hf
          rw [Record.key_unresolved]
          cases hold : reg.find? (.address a') with
          | none => exact ⟨ha, rfl, rfl, fun i _ => hnone' i⟩
          | some e₀ => exact ⟨ha, rfl, (h.placeholder hold).2.2.1, fun i _ => hnone' i⟩
        · obtain ⟨hmem, hrecord, hact, -⟩ := h.placeholder hf
          exact ⟨hmem, hrecord, hact, fun i _ => hnone' i⟩

/-- A placed member that is registered has its address already. -/
lemma mergeMember_known (h : Tracks P seeds reg) {m : Listing} (hm : m ∈ P.sites)
    (hc : reg.contains (.identifier m.identifier) = true) (hash : Option String) :
    reg.mergeMember now m.identifier m.address hash = (.unchanged, reg) := by
  obtain ⟨e, he⟩ := contains_iff_exists_find?.mp hc
  have ha : e.record.address = m.address := P.address_unique (h.member he) hm
  simp only [Registry.mergeMember, he, if_pos ha]

/-- A placed member can be taken over, wherever it is listed. -/
lemma mergeMember (h : Tracks P seeds reg) {m : Listing} (hm : m ∈ P.sites)
    (hash : Option String) :
    Tracks P seeds (reg.mergeMember now m.identifier m.address hash).2 := by
  cases hnew : reg.find? (.identifier m.identifier) with
  | some e =>
      rw [h.mergeMember_known hm (contains_iff_exists_find?.mpr ⟨e, hnew⟩)]
      exact h
  | none =>
      have hfind : ∀ k, (reg.mergeMember now m.identifier m.address hash).2.find? k =
          if k = .identifier m.identifier then
            some (.fresh (.resolved m.address m.identifier hash) true now)
          else if k = .address m.address then none else reg.find? k := by
        intro k
        rw [find?_mergeMember, hnew]
        simp [Entry.listed]
      refine ⟨h.wellFormed.mergeMember _ _ _, fun {i e} hf => ?_, fun {a e} hf => ?_⟩
      · rw [hfind] at hf
        by_cases hi : i = m.identifier
        · subst hi
          rw [if_pos rfl] at hf
          rw [← Option.some.inj hf]
          exact hm
        · rw [if_neg (by simpa using hi), if_neg (by simp)] at hf
          exact h.member hf
      · rw [hfind, if_neg (by simp)] at hf
        split_ifs at hf with ha
        · obtain ⟨hmem, hrecord, hact, hnone⟩ := h.placeholder hf
          refine ⟨hmem, hrecord, hact, fun i hi => ?_⟩
          have hne : i ≠ m.identifier := by
            rintro rfl
            exact ha (congrArg Key.address (P.address_unique hi hm))
          rw [hfind, if_neg (by simpa using hne), if_neg (by simp)]
          exact hnone i hi

/-- A change that keeps addresses, records without identifiers and who has which status among them
keeps the invariant. -/
lemma of_find? (h : Tracks P seeds reg) {reg' : Registry} (hw : reg'.WellFormed)
    (hid : ∀ {i e'}, reg'.find? (.identifier i) = some e' →
      ∃ e, reg.find? (.identifier i) = some e ∧ e'.record.address = e.record.address)
    (hno : ∀ a, reg'.find? (.address a) = reg.find? (.address a)) : Tracks P seeds reg' := by
  refine ⟨hw, fun hf => ?_, fun hf => ?_⟩
  · obtain ⟨e, he, ha⟩ := hid hf
    rw [ha]
    exact h.member he
  · rw [hno] at hf
    obtain ⟨hmem, hrecord, hact, hnone⟩ := h.placeholder hf
    refine ⟨hmem, hrecord, hact, fun i hi => ?_⟩
    cases hf' : reg'.find? (.identifier i) with
    | none => rfl
    | some e' =>
        obtain ⟨e, he, -⟩ := hid hf'
        rw [hnone i hi] at he
        exact absurd he (by simp)

lemma updateHash (h : Tracks P seeds reg) (id hash : String) :
    Tracks P seeds (reg.updateHash id hash) := by
  refine h.of_find? (h.wellFormed.updateHash _ _) (fun {i e'} hf => ?_) fun a => ?_
  · rw [find?_updateHash] at hf
    split_ifs at hf with hk
    · obtain ⟨e, he, rfl⟩ := Option.map_eq_some_iff.mp hf
      exact ⟨e, he, rfl⟩
    · exact ⟨e', hf, rfl⟩
  · rw [find?_updateHash, if_neg (by simp)]

/-- Members can be made inactive. -/
lemma deactivate (h : Tracks P seeds reg) (records : List Record) :
    Tracks P seeds (reg.setStatus now false records).2 := by
  cases hm : reg.missing? records with
  | some k => rwa [setStatus_of_missing hm]
  | none =>
      have hfind : ∀ k, (reg.setStatus now false records).2.find? k = _ :=
        (setStatus_of_contains (missing?_eq_none_iff.mp hm)).2
      refine h.of_find? (h.wellFormed.setStatus _ _) (fun {i e'} hf => ?_) fun a => ?_
      · rw [hfind] at hf
        split_ifs at hf with hk
        · obtain ⟨e, he, rfl⟩ := Option.map_eq_some_iff.mp hf
          exact ⟨e, he, by simp⟩
        · exact ⟨e', hf, rfl⟩
      · rw [hfind]
        split_ifs with hk
        · -- Nothing without an identifier is active, so it keeps its status.
          cases hf : reg.find? (.address a) with
          | none => rfl
          | some e =>
              rw [Option.map_some, Entry.given, if_pos (h.placeholder hf).2.2.1]
        · rfl

/-! ### Members that are asked -/

/-- A record that is asked may stand for an address, and otherwise for a placed member that is
registered. -/
def Fits (P : Placement) (reg : Registry) (r : Record) : Prop :=
  ∀ i, r.identifier = some i → ⟨i, r.address⟩ ∈ P.sites ∧ reg.contains (.identifier i) = true

variable {l : Ledger} {r : Record} {v : TopologyView}

/-- What is read from the registry fits. -/
lemma fits (h : Tracks P seeds reg) {b : Bool} (hr : r ∈ reg.withStatus b) : Fits P reg r := by
  intro i hi
  obtain ⟨e, he, -, rfl⟩ := h.wellFormed.mem_withStatus_iff.mp hr
  rw [Record.key_eq_identifier_iff.mpr hi] at he
  exact ⟨h.member he, contains_iff_exists_find?.mpr ⟨e, he⟩⟩

/-- An active member has an identifier. -/
lemma identifier_of_active (h : Tracks P seeds reg) {r : Record} (hr : r ∈ reg.active) :
    ∃ i, r.identifier = some i := by
  cases hid : r.identifier with
  | some i => exact ⟨i, rfl⟩
  | none =>
      obtain ⟨e, he, hact, -⟩ := h.wellFormed.mem_withStatus_iff.mp hr
      rw [Record.key_eq_address_iff.mpr ⟨hid, rfl⟩] at he
      rw [(h.placeholder he).2.2.1] at hact
      exact absurd hact (by simp)

/-- A placed member that answers becomes active. -/
lemma of_recover (h : Tracks P seeds l.registry) (hr : Fits P l.registry r)
    (hv : ⟨v.identifier, r.address⟩ ∈ P.sites) (report : ProbeReport) :
    Tracks P seeds (recover r v report l).2.registry ∧
      ∃ current, (recover r v report l).1 =
        .ok { report with recovered := report.recovered ++ [current] } := by
  cases hid : r.identifier with
  | none =>
      obtain ⟨e, hact, hkey, haddress, hok, hfind⟩ :=
        recover_unresolved (v := v) report h.wellFormed hid
      refine ⟨⟨(recover_leadsTo h.wellFormed r v report).wellFormed h.wellFormed,
        fun {i e'} hf => ?_, fun {a e'} hf => ?_⟩, e.record, hok⟩
      · rw [hfind, if_neg (by simp)] at hf
        by_cases hi : i = v.identifier
        · subst hi
          rw [if_pos rfl] at hf
          obtain rfl := Option.some.inj hf
          rw [haddress]
          obtain heq | ⟨owner, howner, heq⟩ := settled_cases l.registry r.address v.identifier
          · rwa [heq]
          · rw [heq]
            exact h.member howner
        · rw [if_neg (by simpa using hi)] at hf
          exact h.member hf
      · rw [hfind] at hf
        by_cases ha : a = r.address
        · rw [if_pos (by rw [ha])] at hf
          exact absurd hf (by simp)
        · rw [if_neg (by simpa using ha), if_neg (by simp)] at hf
          obtain ⟨hmem, hrecord, hact, hnone⟩ := h.placeholder hf
          refine ⟨hmem, hrecord, hact, fun i hi => ?_⟩
          have hne : i ≠ v.identifier := by
            rintro rfl
            exact ha (P.address_unique hi hv)
          rw [hfind, if_neg (by simp), if_neg (by simpa using hne)]
          exact hnone i hi
  | some i =>
      obtain ⟨hi, hc⟩ := hr i hid
      obtain rfl : i = v.identifier := P.identifier_unique hi hv
      obtain ⟨hok, now, hfind⟩ := recover_self report hid hc
      refine ⟨h.of_find? ((recover_leadsTo h.wellFormed r v report).wellFormed h.wellFormed)
        (fun {j e'} hf => ?_) fun a => ?_, r, hok⟩
      · rw [hfind] at hf
        split_ifs at hf
        · obtain ⟨e, he, rfl⟩ := Option.map_eq_some_iff.mp hf
          exact ⟨e, he, by simp⟩
        · exact ⟨e', hf, rfl⟩
      · rw [hfind, if_neg (by simp)]

variable {xs : List (Record × Except Failure TopologyView)} {merges : Bool}

/-- Placed members stay where they are placed when they answer one after the other. -/
lemma tracks_takeProbes (h : Tracks P seeds l.registry) (hfits : ∀ x ∈ xs, Fits P l.registry x.1)
    (hplaced : ∀ x ∈ xs, ∀ v, x.2 = .ok v → ⟨v.identifier, x.1.address⟩ ∈ P.sites)
    (report : ProbeReport) : Tracks P seeds (takeProbes xs report l).2.registry := by
  induction xs generalizing report l with
  | nil => exact h
  | cons x xs ih =>
      obtain ⟨r, answer⟩ := x
      obtain ⟨hone, hrest⟩ := List.forall_mem_cons.mp hplaced
      obtain ⟨hfit, hfits'⟩ := List.forall_mem_cons.mp hfits
      cases answer with
      | error f =>
          rw [takeProbes]
          exact ih (l := l.note (probeFailed r f)) h hfits' hrest _
      | ok v =>
          obtain ⟨htracks, current, hok⟩ := h.of_recover hfit (hone v rfl) report
          have hlead := recover_leadsTo h.wellFormed r v report
          rw [takeProbes_cons_ok xs hok]
          exact ih htracks (fun x hx i hi =>
            ⟨(hfits' x hx i hi).1, hlead.contains_identifier h.wellFormed (hfits' x hx i hi).2⟩)
            hrest _

/-- All answers of placed members are taken over, and each of them makes a member active. -/
lemma of_takeProbes (h : Tracks P seeds l.registry) (hfits : ∀ x ∈ xs, Fits P l.registry x.1)
    (hplaced : ∀ x ∈ xs, ∀ v, x.2 = .ok v → ⟨v.identifier, x.1.address⟩ ∈ P.sites)
    (report : ProbeReport) :
    Tracks P seeds (takeProbes xs report l).2.registry ∧
      ∃ report', (takeProbes xs report l).1 = .ok report' ∧
        report'.recovered.length =
          report.recovered.length + (xs.filter fun x => x.2.isOk).length := by
  obtain ⟨report', hok⟩ := takeProbes_ok report h.wellFormed fun x hx i hi => (hfits x hx i hi).2
  refine ⟨h.tracks_takeProbes hfits hplaced report, report', hok, ?_⟩
  rw [← List.countP_eq_length_filter]
  -- Whoever has an identifier answers as itself, since nobody else is placed where it was asked.
  refine length_recovered_of_returns h.wellFormed hok fun r v hx => returns_ok_iff.mpr ?_
  cases hid : r.identifier with
  | none => exact Or.inl rfl
  | some i => exact Or.inr (congrArg some
      (P.identifier_unique (hfits _ hx i hid).1 (hplaced _ hx v rfl)))

/-- After the addresses to start from were asked, those members are registered and active that
answered. -/
lemma of_seeds {answers : List (Except Failure TopologyView)} (h : Tracks P seeds l.registry)
    (hnone : ∀ i, l.registry.find? (.identifier i) = none)
    (hplaced : ∀ a v, (a, .ok v) ∈ seeds.zip answers → ⟨v.identifier, a⟩ ∈ P.sites) :
    let result := takeProbes ((seeds.map Record.unresolved).zip answers) {} l
    Tracks P seeds result.2.registry ∧
      (∃ report, result.1 = .ok report ∧
        ((∃ a v, (a, .ok v) ∈ seeds.zip answers) → report.recovered ≠ [])) ∧
      (∀ i, result.2.registry.isActive? (.identifier i) ≠ some false) ∧
      ∀ i, result.2.registry.isActive? (.identifier i) = some true ↔
        ∃ a v, (a, .ok v) ∈ seeds.zip answers ∧ v.identifier = i := by
  intro result
  have hzip : (seeds.map Record.unresolved).zip answers =
      (seeds.zip answers).map fun x => (.unresolved x.1, x.2) := by
    rw [List.zip_map_left]
    rfl
  have hasked : ∀ r v, (r, .ok v) ∈ (seeds.map Record.unresolved).zip answers ↔
      ∃ a, r = .unresolved a ∧ (a, .ok v) ∈ seeds.zip answers := by
    intro r v
    rw [hzip, List.mem_map]
    constructor
    · rintro ⟨⟨a, answer⟩, hx, heq⟩
      obtain ⟨rfl, rfl⟩ : Record.unresolved a = r ∧ answer = .ok v := by simpa using heq
      exact ⟨a, rfl, hx⟩
    · rintro ⟨a, rfl, hx⟩
      exact ⟨_, hx, rfl⟩
  have hfits : ∀ x ∈ (seeds.map Record.unresolved).zip answers, Fits P l.registry x.1 := by
    intro x hx i hi
    obtain ⟨a, -, ha⟩ := List.mem_map.mp (List.of_mem_zip hx).1
    exact absurd hi (by simp [← ha, Record.unresolved])
  have hsites : ∀ x ∈ (seeds.map Record.unresolved).zip answers, ∀ v, x.2 = .ok v →
      ⟨v.identifier, x.1.address⟩ ∈ P.sites := by
    intro x hx v hv
    obtain ⟨a, ha, hx⟩ := (hasked x.1 v).mp (by rwa [← hv])
    rw [ha]
    exact hplaced a v hx
  obtain ⟨htracks, report, hok, hlength⟩ := h.of_takeProbes hfits hsites {}
  refine ⟨htracks, ⟨report, hok, ?_⟩, fun i hi => ?_, fun i => ?_⟩
  · rintro ⟨a, v, hx⟩ hempty
    have hrecovered : (.unresolved a, .ok v) ∈
        ((seeds.map Record.unresolved).zip answers).filter fun x => x.2.isOk :=
      List.mem_filter.mpr ⟨(hasked _ v).mpr ⟨a, rfl, hx⟩, rfl⟩
    have hpos := List.length_pos_of_mem hrecovered
    rw [hempty] at hlength
    simp only [List.length_nil] at hlength
    omega
  · have hbefore := inactive_of_takeProbes h.wellFormed hok hi
    rw [isActive?, hnone] at hbefore
    exact absurd hbefore (by simp)
  · rw [active_takeProbes_iff h.wellFormed hok]
    constructor
    · rintro (hbefore | ⟨r, v, hx, hv, -⟩)
      · rw [isActive?, hnone] at hbefore
        exact absurd hbefore (by simp)
      · obtain ⟨a, -, hx⟩ := (hasked r v).mp hx
        exact ⟨a, v, hx, hv⟩
    · rintro ⟨a, v, hx, hv⟩
      exact Or.inr ⟨_, v, (hasked _ v).mpr ⟨a, rfl, hx⟩, hv, Or.inl rfl⟩

/-! ### Members that are listed -/

section Listed

variable (h : Tracks P seeds l.registry)
  (hlisted : ∀ v, Viewed xs v → ∀ m ∈ v.members, m ∈ P.sites)

include h hlisted

/-- A refresh counts those members that are registered by it, and none that has moved. -/
lemma counted_takeRefresh (merges : Bool) :
    Tracks P seeds (takeRefresh merges xs l).2.registry ∧
      (takeRefresh merges xs l).1.added + l.registry.identifiers.card =
        (takeRefresh merges xs l).2.registry.identifiers.card ∧
      (takeRefresh merges xs l).1.relocated = 0 := by
  -- The count is followed together with the registry, view by view and member by member.
  refine takeRefresh_induction (P := fun added relocated reg => Tracks P seeds reg ∧
    added + l.registry.identifiers.card = reg.identifiers.card ∧ relocated = 0) ?_ ?_
    ⟨h, by simp, rfl⟩
  · rintro _ _ reg id hash ⟨htracks, hcount, rfl⟩
    refine ⟨htracks.updateHash id hash, ?_, rfl⟩
    rw [hcount, identifiers_updateHash htracks.wellFormed]
  · rintro - v hv m hm _ _ reg now ⟨htracks, hcount, rfl⟩
    have hsite := hlisted v hv m hm
    refine ⟨htracks.mergeMember hsite _, ?_⟩
    cases hc : reg.contains (.identifier m.identifier) with
    | true =>
        rw [htracks.mergeMember_known hsite hc]
        exact ⟨hcount, rfl⟩
    | false =>
        have hnew : m.identifier ∉ reg.identifiers := by
          rw [htracks.wellFormed.mem_identifiers, hc]
          simp
        rw [identifiers_mergeMember htracks.wellFormed, Finset.card_insert_of_notMem hnew,
          ← hcount, mergeMember_new hc]
        exact ⟨by simp; omega, rfl⟩

/-- The answers of placed members to a refresh. -/
lemma of_takeRefresh : Tracks P seeds (takeRefresh merges xs l).2.registry :=
  (h.counted_takeRefresh hlisted merges).1

/-- If all listed members are registered, a refresh finds none that is new or has moved. -/
lemma counts_takeRefresh (merges : Bool) (hfull : ∀ v, Viewed xs v → ∀ m ∈ v.members,
      l.registry.contains (.identifier m.identifier) = true) :
    (takeRefresh merges xs l).1.added = 0 ∧ (takeRefresh merges xs l).1.relocated = 0 := by
  refine ⟨added_takeRefresh_of_known fun _ m hm => ?_, (h.counted_takeRefresh hlisted merges).2.2⟩
  obtain ⟨v, hv, hm⟩ := mem_listings_iff.mp hm
  exact hfull v hv m hm

/-- A refresh that registers nobody leaves all entries as they are, but for the hashes that they
tell. -/
lemma unhashed_takeRefresh (hadded : (takeRefresh merges xs l).1.added = 0) :
    (takeRefresh merges xs l).2.registry.entries.map Entry.unhashed =
      l.registry.entries.map Entry.unhashed :=
  unhashed_takeRefresh_of_atHome
    (quiet_takeRefresh_iff.mp ⟨hadded, (h.counted_takeRefresh hlisted merges).2.2⟩)

end Listed

end Tracks

end Roster
