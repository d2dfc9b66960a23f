import Roster.Proofs.Watch.Run

/-!
# Who is active after a pass

Every member that was active is asked once, and from its answer, the views of all and what others
have heard it follows whether the pass makes it inactive; every member that stays inactive is asked
again unless nobody lists it.

* `Listed`: whether the views that were fetched list an identifier, or do not speak against it.
* `retire_ok`: the stretch in which members become inactive, and the members to ask again.
* `mem_retired_iff`: an active member becomes inactive unless its answer, or another one's, spares
  it.
* `active_pass_iff`: who is active after a pass, in terms of the answers.
-/

namespace Roster

namespace Watch

open Activity Discovery Registry

variable {τ : Type} {w : Watch} {l l' : Ledger} {t : List (Exchange τ)} {i : String}
  {kept : List String} {merges : Bool} {report : RefreshReport}
  {answers : List (Except Failure TopologyView)}
  {xs : List (Record × Except Failure TopologyView)}

/-- The views list an identifier, or none of them lists anybody, or views are not used. -/
def Listed (merges : Bool) (xs : List (Record × Except Failure TopologyView)) (i : String) :
    Prop :=
  merges = false ∨ (∀ v, Viewed xs v → v.members = []) ∨ ∃ v, Viewed xs v ∧ v.contains i = true

/-- A member with an identifier counts as listed if its identifier does; one without it always
counts as listed. -/
lemma isListed_takeRefresh_iff {r : Record} :
    isListed merges (takeRefresh merges xs l).1 r = true ↔
      ∀ i, r.identifier = some i → Listed merges xs i := by
  have hsaw : (takeRefresh merges xs l).1.sawTopology = false ↔
      ¬ (merges = true ∧ ∃ v, Viewed xs v ∧ v.members ≠ []) := by
    rw [← sawTopology_takeRefresh (l := l), Bool.not_eq_true]
  have hseen : ∀ i, (takeRefresh merges xs l).1.seen.contains i = true ↔
      merges = true ∧ ∃ v, Viewed xs v ∧ v.contains i = true := by
    intro i
    rw [List.contains_iff_mem, mem_seen_takeRefresh]
  cases hr : r.identifier with
  | none => simp [isListed, hr]
  | some i =>
      cases merges with
      | false => simp [isListed, Listed]
      | true =>
          simp only [isListed, hr, Bool.not_true, Bool.false_or, Bool.or_eq_true,
            Bool.not_eq_true', hsaw, hseen, Option.some.injEq, forall_eq', Listed]
          simp

/-! ### The stretch in which members become inactive -/

/-- If members could be made inactive, they had entries, and those to ask again were inactive
before, still are, and count as listed. -/
lemma retire_ok {before : List Key} {n : Nat} {again : List Record} {l₁ : Ledger}
    (h : retire merges report kept before l = (.ok (n, again), l₁)) :
    (∀ r ∈ retired merges report kept, l.registry.contains r.key = true) ∧
      (l.registry.setStatus l.now false (retired merges report kept)).1 = .ok n ∧
      l₁.registry = (l.registry.setStatus l.now false (retired merges report kept)).2 ∧
      again = (l₁.registry.inactive.filter fun r => before.contains r.key).filter
        (isListed merges report) := by
  have hresult := fst_retire merges report kept before l
  have hregistry := registry_retire merges report kept before l
  rw [h] at hresult hregistry
  rw [← hregistry] at hresult
  cases hs : (l.registry.setStatus l.now false (retired merges report kept)).1 with
  | error f =>
      rw [hs] at hresult
      exact absurd hresult (by simp [Except.map])
  | ok m =>
      rw [hs] at hresult
      obtain ⟨rfl, hagain⟩ : n = m ∧ again = (retries merges report before l₁.registry).1 := by
        simpa [Except.map] using hresult
      refine ⟨setStatus_eq_ok_iff.mp ⟨n, hs⟩, rfl, hregistry, ?_⟩
      rw [hagain, retries, List.partition_eq_filter_filter]

lemma mem_retired_iff {r : Record} :
    r ∈ retired merges (takeRefresh merges xs l).1 kept ↔
      (∃ x ∈ xs, ∃ f, fault? x = some f ∧ x.1 = r ∧ isAmong kept r = false) ∨
      ∃ x ∈ xs, fault? x = none ∧ x.1 = r ∧
        isListed merges (takeRefresh merges xs l).1 r = false := by
  simp only [retired, down, unlisted, List.mem_append, List.mem_filter, List.mem_map,
    failed_takeRefresh, reached_takeRefresh, List.mem_filterMap, Option.map_eq_some_iff,
    Bool.not_eq_true', Option.isNone_iff_eq_none]
  constructor
  · rintro (⟨⟨_, ⟨x, hx, f, hf, rfl⟩, rfl⟩, hkept⟩ | ⟨⟨x, ⟨hx, hf⟩, rfl⟩, hlisted⟩)
    · exact Or.inl ⟨x, hx, f, hf, rfl, hkept⟩
    · exact Or.inr ⟨x, hx, hf, rfl, hlisted⟩
  · rintro (⟨x, hx, f, hf, rfl, hkept⟩ | ⟨x, hx, hf, rfl, hlisted⟩)
    · exact Or.inl ⟨⟨_, ⟨x, hx, f, hf, rfl⟩, rfl⟩, hkept⟩
    · exact Or.inr ⟨⟨x, ⟨hx, hf⟩, rfl⟩, hlisted⟩

/-- Only members that were asked become inactive. -/
lemma asked_of_retired {r : Record}
    (hr : r ∈ retired merges (takeRefresh merges xs l).1 kept) : ∃ x ∈ xs, x.1 = r := by
  rcases mem_retired_iff.mp hr with ⟨x, hx, -, -, hxr, -⟩ | ⟨x, hx, -, hxr, -⟩
  · exact ⟨x, hx, hxr⟩
  · exact ⟨x, hx, hxr⟩

lemma mem_timedOut_iff {id : String} :
    id ∈ timedOut (takeRefresh merges xs l).1 ↔
      ∃ x ∈ xs, ∃ f, fault? x = some f ∧ f.isTimeout = true ∧ x.1.identifier = some id := by
  simp only [timedOut, failed_takeRefresh, List.mem_filterMap, List.mem_filter,
    Option.map_eq_some_iff]
  constructor
  · rintro ⟨_, ⟨⟨x, hx, f, hf, rfl⟩, htimeout⟩, hid⟩
    exact ⟨x, hx, f, hf, htimeout, hid⟩
  · rintro ⟨x, hx, f, hf, htimeout, hid⟩
    exact ⟨_, ⟨⟨x, hx, f, hf, rfl⟩, htimeout⟩, hid⟩

/-- Why an active member stays active: it answered as itself and is listed, or its answer took too
long and another member vouches for it. -/
def Spared (w : Watch) (xs : List (Record × Except Failure TopologyView))
    (gossips : List (Exchange τ)) (i : String) : Prop :=
  (∃ r v, (r, .ok v) ∈ xs ∧ r.identifier = some i ∧ v.identifier = i ∧
    Listed w.discovery.merges xs i) ∨
  ∃ r f, (r, .error f) ∈ xs ∧ r.identifier = some i ∧ f.isTimeout = true ∧ Vouched w gossips i

/-- An answer of a member with an identifier has no fault if the member answered as itself. -/
lemma fault?_eq_none_iff {x : Record × Except Failure TopologyView}
    (hi : x.1.identifier = some i) :
    fault? x = none ↔ ∃ v, x.2 = .ok v ∧ v.identifier = i := by
  obtain ⟨r, answer⟩ := x
  cases answer with
  | error f => simp [fault?]
  | ok v =>
      rw [fault?, hi]
      simp [eq_comm (a := i)]

/-- A fault is that an answer took too long only if there was no answer. -/
lemma timeout_fault?_iff {x : Record × Except Failure TopologyView} {f : Failure} :
    fault? x = some f ∧ f.isTimeout = true ↔ x.2 = .error f ∧ f.isTimeout = true := by
  obtain ⟨r, answer⟩ := x
  cases answer with
  | error f' => simp [fault?]
  | ok v =>
      simp only [reduceCtorEq, false_and, iff_false, not_and, Bool.not_eq_true]
      intro hf
      rw [fault?] at hf
      split at hf
      · split_ifs at hf
        rw [← Option.some.inj hf]
        rfl
      · exact absurd hf (by simp)

section Asked

variable {x : Record × Except Failure TopologyView} {gossips : List (Exchange τ)}
  (hkeys : (xs.map fun x => x.1.key).Nodup)

include hkeys

/-- Nobody is asked twice. -/
lemma eq_of_identifier (hx : x ∈ xs) (hi : x.1.identifier = some i) :
    ∀ y ∈ xs, y.1.identifier = some i → y = x := by
  intro y hy hyi
  refine List.inj_on_of_nodup_map hkeys hy hx ?_
  rw [Record.key_eq_identifier_iff.mpr hyi, Record.key_eq_identifier_iff.mpr hi]

/-- What spares a member, in terms of its own answer. -/
lemma spared_iff (hx : x ∈ xs) (hi : x.1.identifier = some i) :
    Spared w xs gossips i ↔ (fault? x = none ∧ Listed w.discovery.merges xs i) ∨
      (∃ f, fault? x = some f ∧ f.isTimeout = true) ∧ Vouched w gossips i := by
  have hunique := eq_of_identifier hkeys hx hi
  simp only [timeout_fault?_iff, fault?_eq_none_iff hi]
  constructor
  · rintro (⟨r, v, hr, hri, hvi, hlisted⟩ | ⟨r, f, hr, hri, htimeout, hvouched⟩)
    · exact Or.inl ⟨⟨v, by rw [← hunique _ hr hri], hvi⟩, hlisted⟩
    · exact Or.inr ⟨⟨f, by rw [← hunique _ hr hri], htimeout⟩, hvouched⟩
  · rintro (⟨⟨v, hv, hvi⟩, hlisted⟩ | ⟨⟨f, hf, htimeout⟩, hvouched⟩)
    · exact Or.inl ⟨x.1, v, by rwa [← hv], hi, hvi, hlisted⟩
    · exact Or.inr ⟨x.1, f, by rwa [← hf], hi, htimeout, hvouched⟩

/-- A member that was asked is made inactive unless something spares it. -/
lemma identifier_mem_retired_iff
    (hkept : ∀ id, id ∈ kept ↔
      id ∈ timedOut (takeRefresh w.discovery.merges xs l).1 ∧ Vouched w gossips id)
    (hx : x ∈ xs) (hi : x.1.identifier = some i) :
    .identifier i ∈ (retired w.discovery.merges (takeRefresh w.discovery.merges xs l).1 kept).map
      Record.key ↔ ¬ Spared w xs gossips i := by
  have hunique := eq_of_identifier hkeys hx hi
  have hkept' : isAmong kept x.1 = true ↔
      (∃ f, fault? x = some f ∧ f.isTimeout = true) ∧ Vouched w gossips i := by
    rw [isAmong, hi, Option.any_some, List.contains_iff_mem, hkept, mem_timedOut_iff]
    refine and_congr_left fun _ => ⟨?_, fun ⟨f, hf, htimeout⟩ => ⟨x, hx, f, hf, htimeout, hi⟩⟩
    rintro ⟨y, hy, f, hf, htimeout, hyi⟩
    exact ⟨f, hunique y hy hyi ▸ hf, htimeout⟩
  have hlisted : isListed w.discovery.merges (takeRefresh w.discovery.merges xs l).1 x.1 = true ↔
      Listed w.discovery.merges xs i := by
    rw [isListed_takeRefresh_iff, hi]
    simp
  have hretired : .identifier i ∈ (retired w.discovery.merges
        (takeRefresh w.discovery.merges xs l).1 kept).map Record.key ↔
      (∃ f, fault? x = some f) ∧ ¬ isAmong kept x.1 = true ∨ fault? x = none ∧
        ¬ isListed w.discovery.merges (takeRefresh w.discovery.merges xs l).1 x.1 = true := by
    simp only [Bool.not_eq_true, List.mem_map, mem_retired_iff]
    constructor
    · rintro ⟨r, ⟨y, hy, f, hf, rfl, hout⟩ | ⟨y, hy, hf, rfl, hout⟩, hk⟩
      · obtain rfl := hunique y hy (Record.key_eq_identifier_iff.mp hk)
        exact Or.inl ⟨⟨f, hf⟩, hout⟩
      · obtain rfl := hunique y hy (Record.key_eq_identifier_iff.mp hk)
        exact Or.inr ⟨hf, hout⟩
    · have hk : x.1.key = .identifier i := Record.key_eq_identifier_iff.mpr hi
      rintro (⟨⟨f, hf⟩, hout⟩ | ⟨hf, hout⟩)
      · exact ⟨x.1, Or.inl ⟨x, hx, f, hf, rfl, hout⟩, hk⟩
      · exact ⟨x.1, Or.inr ⟨x, hx, hf, rfl, hout⟩, hk⟩
  rw [hretired, spared_iff hkeys hx hi, hkept', hlisted]
  cases fault? x with
  | none => simp
  | some f => simp

end Asked

variable {answers answers' : List (Except Failure TopologyView)}

section Retiring

variable {before : List Key} {n : Nat} {again : List Record} {l₁ l₂ : Ledger}
  {gossips : List (Exchange τ)} (h : l.registry.WellFormed)
  (hlength : answers.length = l.registry.active.length) (hl₁ : l₁.registry = l.registry)
  (hkept : ∀ id, id ∈ kept ↔ id ∈ timedOut (takeRefresh w.discovery.merges
    (asked l.registry answers) l₁).1 ∧ Vouched w gossips id)
  (hl₂ : l₂.registry = (takeRefresh w.discovery.merges (asked l.registry answers) l₁).2.registry)
  (hret : retire w.discovery.merges (takeRefresh w.discovery.merges
    (asked l.registry answers) l₁).1 kept before l₂ = (.ok (n, again), l'))

include hl₁ hl₂ hret

/-- A member that is not registered after the stretch in which members become inactive was not so
before the pass either, and nobody listed it. -/
lemma contains_retire_eq_false_iff :
    l'.registry.contains (.identifier i) = false ↔
      l.registry.contains (.identifier i) = false ∧ ¬ (w.discovery.merges = true ∧
        ∃ v, Viewed (asked l.registry answers) v ∧ v.contains i = true) := by
  obtain ⟨-, -, hl', -⟩ := retire_ok hret
  rw [hl', contains_setStatus, hl₂, ← isActive?_eq_none_iff, isActive?_takeRefresh, hl₁,
    ← mem_seen_takeRefresh (l := l₁), ← isActive?_eq_none_iff]
  cases l.registry.isActive? (.identifier i) <;> simp

include h hlength hkept

/-- The active members after the stretch in which members become inactive: those that were active
before the pass and are spared, and those that are new and listed. -/
lemma active_retire_iff :
    l'.registry.isActive? (.identifier i) = some true ↔
      l.registry.isActive? (.identifier i) = some true ∧
        Spared w (asked l.registry answers) gossips i ∨
      l.registry.contains (.identifier i) = false ∧ w.discovery.merges = true ∧
        ∃ v, Viewed (asked l.registry answers) v ∧ v.contains i = true := by
  obtain ⟨hcontains, -, hl', -⟩ := retire_ok hret
  have hstatus : l'.registry.isActive? (.identifier i) =
      if .identifier i ∈ (retired w.discovery.merges (takeRefresh w.discovery.merges
          (asked l.registry answers) l₁).1 kept).map Record.key then
        some false
      else l₂.registry.isActive? (.identifier i) := by
    rw [hl', isActive?_setStatus hcontains]
  rw [hstatus, hl₂, isActive?_takeRefresh, hl₁, ← mem_seen_takeRefresh (l := l₁),
    ← isActive?_eq_none_iff]
  cases hbefore : l.registry.isActive? (.identifier i) with
  | some b =>
      cases b with
      | true =>
          obtain ⟨x, hx, hi⟩ := (active_iff_asked h hlength).mp hbefore
          have hout := identifier_mem_retired_iff (keys_asked_nodup h hlength) hkept hx hi
          by_cases hspared : Spared w (asked l.registry answers) gossips i
          · rw [if_neg (by simpa [hspared] using hout)]
            simp [hspared]
          · rw [if_pos (hout.mpr hspared)]
            simp [hspared]
      | false => split_ifs <;> simp
  | none =>
      -- Only members that were asked become inactive.
      have hout : .identifier i ∉ (retired w.discovery.merges (takeRefresh w.discovery.merges
          (asked l.registry answers) l₁).1 kept).map Record.key := by
        intro hmem
        obtain ⟨r, hr, hk⟩ := List.mem_map.mp hmem
        obtain ⟨x, hx, rfl⟩ := asked_of_retired hr
        have hasked : ∃ x ∈ asked l.registry answers, x.1.identifier = some i :=
          ⟨x, hx, Record.key_eq_identifier_iff.mp hk⟩
        rw [← active_iff_asked h hlength, hbefore] at hasked
        exact absurd hasked (by simp)
      rw [if_neg hout]
      simp

end Retiring

/-- **Who is active after a pass.** Let nobody but the pass change the registry meanwhile. The
pass asks the active members, then perhaps some of those that answered as themselves what they
have heard, and then the members that were inactive and still are, unless they have an identifier
that is not listed. If it succeeds, a member is active afterwards exactly if

* it was active, and answered as itself and is listed, or took too long and is vouched for;
* it was not registered, and an active member listed it, if such members are taken over, or it
  answered when another one was asked again;
* it was registered, and answered when it was asked again, or when a member without an identifier
  was asked again. -/
theorem active_pass_iff {s : PassSummary} (hkeys : (l.registry.entries.map Entry.key).Nodup)
    (hcheck : l.registry.check = .ok ())
    (hrun : Runs Ledger.Later (w.pass : Activity τ (Except Failure PassSummary)) l t (.ok s) l') :
    ∃ (answers : List (Except Failure TopologyView)) (gossips : List (Exchange τ))
      (middle : Registry) (again : List Record) (answers' : List (Except Failure TopologyView)),
      t = .probed l.registry (l.registry.active.map Record.address) answers ::
        (gossips ++ [.probed middle (again.map Record.address) answers']) ∧
      answers.length = l.registry.active.length ∧ answers'.length = again.length ∧
      gossips.map peer? <+: ((asked l.registry answers).filter fun x => (fault? x).isNone).map
        (fun x => some x.1.address) ∧
      again.Sublist middle.inactive ∧
      (∀ r, r ∈ again ↔ r ∈ middle.inactive ∧ r.key ∈ l.registry.inactive.map Record.key ∧
        ∀ i, r.identifier = some i → Listed w.discovery.merges (asked l.registry answers) i) ∧
      ∀ i, l'.registry.isActive? (.identifier i) = some true ↔
        l.registry.isActive? (.identifier i) = some true ∧
          Spared w (asked l.registry answers) gossips i ∨
        l.registry.contains (.identifier i) = false ∧
          (w.discovery.merges = true ∧
            (∃ v, Viewed (asked l.registry answers) v ∧ v.contains i = true) ∨
          ∃ r v, (r, .ok v) ∈ again.zip answers' ∧ v.identifier = i) ∨
        l.registry.contains (.identifier i) = true ∧
          ∃ r v, (r, .ok v) ∈ again.zip answers' ∧ v.identifier = i ∧
            (r.identifier = none ∨ r.identifier = some i) := by
  have h : l.registry.WellFormed := ⟨hkeys, check_eq_ok_iff.mp hcheck⟩
  obtain ⟨answers, l₁, gossips, kept, l₂, t', hlength, hwait, rfl, hvouchers, hend⟩ :=
    runs_pass_iff.mp hrun
  obtain ⟨hl₂, hpeers, hkept⟩ := runs_vouchers hvouchers
  cases hret : retire w.discovery.merges (takeRefresh w.discovery.merges
      (asked l.registry answers) l₁).1 kept (l.registry.inactive.map Record.key) l₂ with
  | mk result l₃ =>
      rw [hret] at hend
      cases result with
      | error f => exact absurd hend.2.1 (by simp)
      | ok x =>
          obtain ⟨n, again⟩ := x
          obtain ⟨answers', l₄, hlength', hwait', rfl, hok, rfl⟩ := hend
          have hwell : l₃.registry.WellFormed := by
            obtain ⟨-, -, hl₃, -⟩ := retire_ok hret
            rw [hl₃, hl₂]
            exact (takeRefresh_leadsTo.wellFormed (hwait.registry_eq ▸ h)).setStatus _ _
          have hagain : again = (l₃.registry.inactive.filter fun r =>
              (l.registry.inactive.map Record.key).contains r.key).filter
              (isListed w.discovery.merges
                (takeRefresh w.discovery.merges (asked l.registry answers) l₁).1) :=
            (retire_ok hret).2.2.2
          refine ⟨answers, gossips, l₃.registry, again, answers', rfl, hlength, hlength', ?_, ?_,
            fun r => ?_, fun i => ?_⟩
          · rwa [reached_takeRefresh, List.map_map] at hpeers
          · rw [hagain]
            exact List.filter_sublist.trans List.filter_sublist
          · rw [hagain, List.mem_filter, List.mem_filter, isListed_takeRefresh_iff,
              List.contains_iff_mem, and_assoc]
          · cases hprobes : (takeProbes (again.zip answers') {} l₄).1 with
            | error f =>
                rw [hprobes] at hok
                exact absurd hok (by simp [Except.map])
            | ok report' =>
                rw [active_takeProbes_iff (hwait'.registry_eq ▸ hwell) hprobes, hwait'.registry_eq,
                  active_retire_iff h hlength hwait.registry_eq hkept hl₂ hret]
                simp only [contains_retire_eq_false_iff hwait.registry_eq hl₂ hret]
                by_cases hlisted : w.discovery.merges = true ∧
                    ∃ v, Viewed (asked l.registry answers) v ∧ v.contains i = true
                · cases l.registry.contains (.identifier i) <;> simp [hlisted]
                · cases l.registry.contains (.identifier i) <;> simp [hlisted]

/-- The nodes of a cluster in which one address is silent, and a node answers at all others. -/
def halfSilent (silent : Address) : Client (StateM Unit) Unit where
  probe limit as := pure <| as.map fun a =>
    if a = silent then .error (.noAnswer a limit) else .ok ⟨"b", "", []⟩
  gossip limit a := pure (.error (.noAnswer a limit))
  call _ := pure (.ok ())

/-- A pass in which an active member is silent, and in which a node answers at an address of which
nothing else was known. -/
lemma active_pass_halfSilent :
    let a : Address := ⟨"http", none, .whole "a", none, none⟩
    let b : Address := ⟨"http", none, .whole "b", none, none⟩
    let reg : Registry := ⟨[.fresh (.resolved a "a" none) true 0, .fresh (.unresolved b) false 0]⟩
    let l : Ledger := { Ledger.start 0 .first with registry := reg }
    let w : Watch := ⟨⟨⟨1⟩, true⟩, ⟨1⟩, none⟩
    ∃ (t : List (Exchange Unit)) (l' : Ledger),
      (reg.entries.map Entry.key).Nodup ∧ reg.check = .ok () ∧
      Runs Ledger.Later w.pass l t (.ok { deactivated := 1, reactivated := 1 }) l' ∧
      ∃ (answers : List (Except Failure TopologyView)) (again : List Record)
        (answers' : List (Except Failure TopologyView)),
        l'.registry.isActive? (.identifier "b") = some true ↔
          (∃ v, Viewed (asked reg answers) v ∧ v.contains "b" = true) ∨
            ∃ r v, (r, .ok v) ∈ again.zip answers' ∧ v.identifier = "b" := by
  intro a b reg l w
  obtain ⟨t, hrun, -⟩ := runs_runWith Ledger.Later.refl (halfSilent a)
    (fun _ _ _ => List.length_map _) w.pass l ()
  have hkeys : (reg.entries.map Entry.key).Nodup := by decide
  have hcheck : reg.check = .ok () := by decide
  have habsent : l.registry.contains (.identifier "b") = false := by decide
  have hmerges : w.discovery.merges = true := rfl
  have hok : (((runWith (halfSilent a) w.pass).run l).run ()).1.1 =
      .ok { deactivated := 1, reactivated := 1 } := by decide
  rw [hok] at hrun
  obtain ⟨answers, gossips, middle, again, answers', -, -, -, -, -, -, hactive⟩ :=
    active_pass_iff hkeys hcheck hrun
  refine ⟨t, _, hkeys, hcheck, hrun, answers, again, answers', ?_⟩
  have hb := hactive "b"
  rw [isActive?_eq_none_iff.mpr habsent] at hb
  simpa [habsent, hmerges] using hb

end Watch

end Roster
