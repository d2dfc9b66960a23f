import Roster.Discovery.Answers
import Roster.Proofs.Registry.Deeds

/-!
# Answers of the active members

What the answers of the active members do, all together: which members count as reached, which
as failed, which identifiers were listed, and who has which status afterwards.

* `fault?`: what is wrong with one answer, if anything.
* `failed_takeRefresh`, `reached_takeRefresh`: the answers with and without a fault, in order.
* `mem_seen_takeRefresh`, `sawTopology_takeRefresh`: what the answers listed.
* `isActive?_takeRefresh`: members that were known keep their status, and the ones that are new
  and listed are active.
* `listings`: all that the answers list, in the order in which it is taken over.
* `takeRefresh_listings_induction`: what hashes and listed members keep, all answers keep.
-/

namespace Roster

namespace Discovery

open Registry

variable {merges : Bool} {l : Ledger} {i : String}
  {answers : List (Record × Except Failure TopologyView)}

/-- What is wrong with an answer: there is none, or another member gave it. -/
def fault? : Record × Except Failure TopologyView → Option Failure
  | (_, .error f) => some f
  | (r, .ok v) =>
    match r.identifier with
    | some id => if id = v.identifier then none else some (impostor r v)
    | none => none

/-- A view that some answer holds. -/
def Viewed (answers : List (Record × Except Failure TopologyView)) (v : TopologyView) : Prop :=
  ∃ r, (r, .ok v) ∈ answers

/-- All that the answers list, in the order in which it is taken over. -/
def listings (xs : List (Record × Except Failure TopologyView)) : List Listing :=
  xs.flatMap fun x =>
    match x.2 with
    | .ok v => v.members
    | .error _ => []

/-! ### One listed member -/

/-- The report and the ledger after a listed member, without cases. -/
lemma mergeListing_eq (hash : String) (report : RefreshReport) (l : Ledger) (m : Listing) :
    mergeListing hash (report, l) m =
      ({ report with
          seen := report.seen.insert m.identifier
          added := report.added +
            if (l.mergeMember m.identifier m.address (some hash)).1 = .added then 1 else 0
          relocated := report.relocated +
            if (l.mergeMember m.identifier m.address (some hash)).1 = .relocated then 1 else 0 },
        (l.mergeMember m.identifier m.address (some hash)).2) := by
  cases hm : l.mergeMember m.identifier m.address (some hash) with
  | mk outcome l₁ => cases outcome <;> simp [mergeListing, hm]

/-- What is listed, counts up and changes the registry when members are taken over one after the
other: if a property of all that is kept by each of them, it is kept by all. -/
lemma mergeListings_induction {P : List Listing → Nat → Nat → Registry → Prop} (hash : String)
    (ms : List Listing) (acc : RefreshReport × Ledger)
    (hmerge : ∀ before a b reg now, ∀ m ∈ ms, P before a b reg →
      P (before ++ [m])
        (a + if (reg.mergeMember now m.identifier m.address (some hash)).1 = .added then 1 else 0)
        (b + if (reg.mergeMember now m.identifier m.address (some hash)).1 = .relocated
          then 1 else 0)
        (reg.mergeMember now m.identifier m.address (some hash)).2)
    (before : List Listing) (h : P before acc.1.added acc.1.relocated acc.2.registry) :
    P (before ++ ms) (ms.foldl (mergeListing hash) acc).1.added
      (ms.foldl (mergeListing hash) acc).1.relocated
      (ms.foldl (mergeListing hash) acc).2.registry := by
  induction ms generalizing before acc with
  | nil => rwa [List.append_nil]
  | cons m ms ih =>
      obtain ⟨report, l⟩ := acc
      rw [List.foldl_cons, mergeListing_eq, List.append_cons]
      refine ih _ (fun before a b reg now m' hm' =>
        hmerge before a b reg now m' (List.mem_cons_of_mem _ hm')) _ ?_
      exact hmerge _ _ _ _ l.now m List.mem_cons_self h

/-- Listed members are noted as seen; nothing else of the report but the counts changes. -/
lemma mergeListings_report (hash : String) (ms : List Listing) (acc : RefreshReport × Ledger) :
    (ms.foldl (mergeListing hash) acc).1.failed = acc.1.failed ∧
      (ms.foldl (mergeListing hash) acc).1.reached = acc.1.reached ∧
      (ms.foldl (mergeListing hash) acc).1.sawTopology = acc.1.sawTopology ∧
      (i ∈ (ms.foldl (mergeListing hash) acc).1.seen ↔
        i ∈ acc.1.seen ∨ ∃ m ∈ ms, m.identifier = i) := by
  induction ms generalizing acc with
  | nil => simp
  | cons m ms ih =>
      obtain ⟨report, l⟩ := acc
      rw [List.foldl_cons, mergeListing_eq]
      obtain ⟨hfailed, hreached, hsaw, hseen⟩ := ih ({ report with
        seen := report.seen.insert m.identifier, added := _, relocated := _ }, _)
      refine ⟨hfailed, hreached, hsaw, ?_⟩
      rw [hseen]
      simp only [List.mem_insert_iff, List.mem_cons, exists_eq_or_imp, eq_comm (a := i)]
      tauto

lemma isActive?_mergeListings (hash : String) (ms : List Listing)
    (acc : RefreshReport × Ledger) :
    (ms.foldl (mergeListing hash) acc).2.registry.isActive? (.identifier i) =
      (acc.2.registry.isActive? (.identifier i)).or
        (if ms.any fun m => m.identifier == i then some true else none) := by
  induction ms generalizing acc with
  | nil => simp
  | cons m ms ih =>
      obtain ⟨report, l⟩ := acc
      rw [List.foldl_cons, ih, mergeListing_eq]
      rw [Ledger.registry_mergeMember, isActive?_mergeMember, Option.or_assoc]
      congr 1
      by_cases hm : m.identifier = i <;> simp [hm]

/-! ### One answer -/

variable (r : Record) (v : TopologyView)

lemma fst_acknowledge (l : Ledger) : (acknowledge r v l).1 = fault? (r, .ok v) := by
  cases hr : r.identifier with
  | none => simp [acknowledge, fault?, hr]
  | some id => by_cases hid : id = v.identifier <;> simp [acknowledge, fault?, hr, hid]

/-- A member that answered as itself notes its hash, and nobody else does. -/
lemma registry_acknowledge_eq (l : Ledger) :
    (acknowledge r v l).2.registry =
      if r.identifier = some v.identifier then
        l.registry.updateHash v.identifier v.topologyHash
      else l.registry := by
  cases hr : r.identifier with
  | none => simp [acknowledge, hr]
  | some id =>
      by_cases hid : id = v.identifier
      · subst hid
        simp [acknowledge, hr]
      · simp [acknowledge, hr, hid]

/-- A member that answered notes at most its own hash. -/
lemma registry_acknowledge (l : Ledger) :
    (acknowledge r v l).2.registry = l.registry ∨ r.identifier = some v.identifier ∧
      (acknowledge r v l).2.registry = l.registry.updateHash v.identifier v.topologyHash := by
  rw [registry_acknowledge_eq]
  split_ifs with hr
  · exact Or.inr ⟨hr, rfl⟩
  · exact Or.inl rfl

/-- The report and the ledger once the listed members of a view are taken over, if they are. -/
def merged (merges : Bool) (acc : RefreshReport × Ledger) : RefreshReport × Ledger :=
  if merges then mergeView v (acc.1, (acknowledge r v acc.2).2)
  else (acc.1, (acknowledge r v acc.2).2)

lemma takeRefreshOne_ok (acc : RefreshReport × Ledger) :
    takeRefreshOne merges acc (r, .ok v) =
      match fault? (r, .ok v) with
      | some f => ({ (merged r v merges acc).1 with
          failed := (merged r v merges acc).1.failed ++ [(r, f)] }, (merged r v merges acc).2)
      | none => ({ (merged r v merges acc).1 with
          reached := (merged r v merges acc).1.reached ++ [r] }, (merged r v merges acc).2) := by
  rw [← fst_acknowledge r v acc.2]
  cases ha : acknowledge r v acc.2 with
  | mk fault l₁ =>
      cases merges <;> cases fault <;> simp [takeRefreshOne, merged, ha]

lemma snd_takeRefreshOne_ok (acc : RefreshReport × Ledger) :
    (takeRefreshOne merges acc (r, .ok v)).2 = (merged r v merges acc).2 := by
  rw [takeRefreshOne_ok]
  cases fault? (r, .ok v) <;> rfl

lemma failed_merged (acc : RefreshReport × Ledger) :
    (merged r v merges acc).1.failed = acc.1.failed := by
  unfold merged
  split_ifs
  · exact (mergeListings_report (i := "") _ _ _).1
  · rfl

lemma reached_merged (acc : RefreshReport × Ledger) :
    (merged r v merges acc).1.reached = acc.1.reached := by
  unfold merged
  split_ifs
  · exact (mergeListings_report (i := "") _ _ _).2.1
  · rfl

lemma sawTopology_merged (acc : RefreshReport × Ledger) :
    (merged r v merges acc).1.sawTopology =
      (acc.1.sawTopology || merges && !v.members.isEmpty) := by
  cases merges with
  | false => simp [merged]
  | true => simpa [merged, mergeView] using (mergeListings_report (i := "") _ _ _).2.2.1

lemma mem_seen_merged (acc : RefreshReport × Ledger) :
    i ∈ (merged r v merges acc).1.seen ↔
      i ∈ acc.1.seen ∨ merges = true ∧ v.contains i = true := by
  cases merges with
  | false => simp [merged]
  | true =>
      simpa [merged, mergeView, TopologyView.contains] using
        (mergeListings_report (i := i) _ _ _).2.2.2

lemma isActive?_merged (acc : RefreshReport × Ledger) :
    (merged r v merges acc).2.registry.isActive? (.identifier i) =
      (acc.2.registry.isActive? (.identifier i)).or
        (if merges = true ∧ v.contains i = true then some true else none) := by
  have hack : (acknowledge r v acc.2).2.registry.isActive? (.identifier i) =
      acc.2.registry.isActive? (.identifier i) := by
    rcases registry_acknowledge r v acc.2 with heq | ⟨-, heq⟩
    · rw [heq]
    · rw [heq, isActive?, find?_updateHash, isActive?]
      split_ifs
      · rw [Option.map_map]
        rfl
      · rfl
  cases merges with
  | false => simp [merged, hack]
  | true =>
      have h := isActive?_mergeListings (i := i) v.topologyHash v.members
        ({ acc.1 with sawTopology := acc.1.sawTopology || !v.members.isEmpty },
          (acknowledge r v acc.2).2)
      rw [hack] at h
      simpa [merged, mergeView, TopologyView.contains] using h

/-! ### All answers -/

/-- The members with a fault, with what is wrong. -/
lemma failed_takeRefresh :
    (takeRefresh merges answers l).1.failed =
      answers.filterMap fun x => (fault? x).map fun f => (x.1, f) := by
  have hfold : ∀ acc, (answers.foldl (takeRefreshOne merges) acc).1.failed =
      acc.1.failed ++ answers.filterMap fun x => (fault? x).map fun f => (x.1, f) := by
    induction answers with
    | nil => simp
    | cons x xs ih =>
        intro acc
        obtain ⟨r, answer⟩ := x
        rw [List.foldl_cons, ih]
        cases answer with
        | error f => simp [takeRefreshOne, fault?]
        | ok v =>
            rw [takeRefreshOne_ok]
            cases hf : fault? (r, .ok v) <;> simp [failed_merged, hf]
  simpa [takeRefresh] using hfold ({}, l)

lemma map_fst_failed_takeRefresh :
    (takeRefresh merges answers l).1.failed.map Prod.fst =
      (answers.filter fun x => !(fault? x).isNone).map Prod.fst := by
  rw [failed_takeRefresh]
  induction answers with
  | nil => rfl
  | cons x xs ih => cases hf : fault? x <;> simp [hf, ih]

/-- The members without a fault. -/
lemma reached_takeRefresh :
    (takeRefresh merges answers l).1.reached =
      (answers.filter fun x => (fault? x).isNone).map Prod.fst := by
  have hfold : ∀ acc, (answers.foldl (takeRefreshOne merges) acc).1.reached =
      acc.1.reached ++ (answers.filter fun x => (fault? x).isNone).map Prod.fst := by
    induction answers with
    | nil => simp
    | cons x xs ih =>
        intro acc
        obtain ⟨r, answer⟩ := x
        rw [List.foldl_cons, ih]
        cases answer with
        | error f => simp [takeRefreshOne, fault?]
        | ok v =>
            rw [takeRefreshOne_ok]
            cases hf : fault? (r, .ok v) <;> simp [reached_merged, hf]
  simpa [takeRefresh] using hfold ({}, l)

lemma viewed_cons {x : Record × Except Failure TopologyView}
    {xs : List (Record × Except Failure TopologyView)} {v : TopologyView} :
    Viewed (x :: xs) v ↔ x.2 = .ok v ∨ Viewed xs v := by
  obtain ⟨r, answer⟩ := x
  simp [Viewed, exists_or, eq_comm]

/-- The identifiers that some view lists, if members are taken over at all. -/
lemma mem_seen_takeRefresh :
    i ∈ (takeRefresh merges answers l).1.seen ↔
      merges = true ∧ ∃ v, Viewed answers v ∧ v.contains i = true := by
  have hfold : ∀ acc, i ∈ (answers.foldl (takeRefreshOne merges) acc).1.seen ↔
      i ∈ acc.1.seen ∨ merges = true ∧ ∃ v, Viewed answers v ∧ v.contains i = true := by
    induction answers with
    | nil => simp [Viewed]
    | cons x xs ih =>
        intro acc
        obtain ⟨r, answer⟩ := x
        rw [List.foldl_cons, ih]
        cases answer with
        | error f => simp [takeRefreshOne, viewed_cons]
        | ok v =>
            rw [takeRefreshOne_ok]
            cases hf : fault? (r, .ok v) <;>
              simp [mem_seen_merged, viewed_cons, or_assoc, or_and_right, exists_or, ← and_or_left]
  simpa [takeRefresh] using hfold ({}, l)

/-- Whether some view lists members, if members are taken over at all. -/
lemma sawTopology_takeRefresh :
    (takeRefresh merges answers l).1.sawTopology = true ↔
      merges = true ∧ ∃ v, Viewed answers v ∧ v.members ≠ [] := by
  have hfold : ∀ acc, (answers.foldl (takeRefreshOne merges) acc).1.sawTopology = true ↔
      acc.1.sawTopology = true ∨ merges = true ∧ ∃ v, Viewed answers v ∧ v.members ≠ [] := by
    induction answers with
    | nil => simp [Viewed]
    | cons x xs ih =>
        intro acc
        obtain ⟨r, answer⟩ := x
        rw [List.foldl_cons, ih]
        cases answer with
        | error f => simp [takeRefreshOne, viewed_cons]
        | ok v =>
            rw [takeRefreshOne_ok]
            cases hf : fault? (r, .ok v) <;>
              simp [sawTopology_merged, viewed_cons, or_assoc, or_and_right, exists_or,
                ← and_or_left]
  simpa [takeRefresh] using hfold ({}, l)

/-- Whether an answer lists an identifier. -/
def tells (i : String) (x : Record × Except Failure TopologyView) : Bool :=
  match x.2 with
  | .ok v => v.contains i
  | .error _ => false

@[simp]
lemma tells_ok (r : Record) (v : TopologyView) : tells i (r, .ok v) = v.contains i := rfl

@[simp]
lemma tells_error (r : Record) (f : Failure) : tells i (r, .error f) = false := rfl

lemma any_tells_iff :
    answers.any (tells i) = true ↔ ∃ v, Viewed answers v ∧ v.contains i = true := by
  induction answers with
  | nil => simp [Viewed]
  | cons x xs ih =>
      obtain ⟨r, answer⟩ := x
      cases answer with
      | error f => simpa [viewed_cons] using ih
      | ok v =>
          rw [List.any_cons, Bool.or_eq_true, ih]
          simp [viewed_cons, or_and_right, exists_or]

/-- **Who has which status after all answers**: members that were known keep theirs, and the ones
that are new and listed are active. -/
lemma isActive?_takeRefresh :
    (takeRefresh merges answers l).2.registry.isActive? (.identifier i) =
      (l.registry.isActive? (.identifier i)).or
        (if i ∈ (takeRefresh merges answers l).1.seen then some true else none) := by
  have hfold : ∀ acc,
      (answers.foldl (takeRefreshOne merges) acc).2.registry.isActive? (.identifier i) =
        (acc.2.registry.isActive? (.identifier i)).or
          (if merges && answers.any (tells i) then some true else none) := by
    induction answers with
    | nil => simp
    | cons x xs ih =>
        intro acc
        obtain ⟨r, answer⟩ := x
        rw [List.foldl_cons, ih, List.any_cons]
        cases answer with
        | error f =>
            rw [tells_error, Bool.false_or]
            rfl
        | ok v =>
            rw [snd_takeRefreshOne_ok, isActive?_merged, Option.or_assoc, tells_ok]
            congr 1
            cases merges <;> cases v.contains i <;> rfl
  have hseen : (merges && answers.any (tells i)) = true ↔
      i ∈ (takeRefresh merges answers l).1.seen := by
    rw [mem_seen_takeRefresh, Bool.and_eq_true, any_tells_iff]
  simp only [← hseen]
  exact hfold ({}, l)

/-- If a property of what was listed so far, of the counts of new and of moved members and of the
registry is kept when a member that answered notes its hash, and when one more listed member is taken
over, then it is kept by all answers. -/
lemma takeRefresh_listings_induction (merges : Bool)
    (answers : List (Record × Except Failure TopologyView)) (l : Ledger)
    {P : List Listing → Nat → Nat → Registry → Prop}
    (hhash : ∀ ms a b reg id hash, P ms a b reg → P ms a b (reg.updateHash id hash))
    (hmerge : merges = true → ∀ v, Viewed answers v → ∀ m ∈ v.members, ∀ ms a b reg now,
      P ms a b reg →
      P (ms ++ [m])
        (a + if (reg.mergeMember now m.identifier m.address (some v.topologyHash)).1 = .added
          then 1 else 0)
        (b + if (reg.mergeMember now m.identifier m.address (some v.topologyHash)).1 = .relocated
          then 1 else 0)
        (reg.mergeMember now m.identifier m.address (some v.topologyHash)).2)
    (h : P [] 0 0 l.registry) :
    P (if merges then listings answers else []) (takeRefresh merges answers l).1.added
      (takeRefresh merges answers l).1.relocated (takeRefresh merges answers l).2.registry := by
  have hfold : ∀ acc ms, P ms acc.1.added acc.1.relocated acc.2.registry →
      P (ms ++ if merges then listings answers else [])
        (answers.foldl (takeRefreshOne merges) acc).1.added
        (answers.foldl (takeRefreshOne merges) acc).1.relocated
        (answers.foldl (takeRefreshOne merges) acc).2.registry := by
    induction answers with
    | nil =>
        intro acc ms hP
        have hnil : (ms ++ if merges then listings [] else []) = ms := by
          cases merges <;> exact List.append_nil ms
        rwa [hnil]
    | cons x xs ih =>
        intro acc ms hP
        have hrest := ih fun hm v hv => hmerge hm v (viewed_cons.mpr (Or.inr hv))
        obtain ⟨r, answer⟩ := x
        rw [List.foldl_cons]
        cases answer with
        | error f => exact hrest _ ms hP
        | ok v =>
            have hmerged : P (ms ++ if merges then v.members else [])
                (merged r v merges acc).1.added (merged r v merges acc).1.relocated
                (merged r v merges acc).2.registry := by
              have hack : P ms acc.1.added acc.1.relocated
                  (acknowledge r v acc.2).2.registry := by
                rcases registry_acknowledge r v acc.2 with heq | ⟨-, heq⟩
                · rwa [heq]
                · rw [heq]
                  exact hhash _ _ _ _ _ _ hP
              cases merges with
              | false => rwa [if_neg Bool.false_ne_true, List.append_nil]
              | true =>
                  exact mergeListings_induction v.topologyHash v.members _
                    (fun ms a b reg now m hm => hmerge rfl v (viewed_cons.mpr (Or.inl rfl)) m hm ms
                      a b reg now) ms hack
            have hlist : (ms ++ if merges then listings ((r, .ok v) :: xs) else []) =
                (ms ++ if merges then v.members else []) ++
                  if merges then listings xs else [] := by
              cases merges
              · simp
              · simp [listings]
            rw [hlist]
            refine hrest _ _ ?_
            rw [takeRefreshOne_ok]
            cases fault? (r, .ok v) <;> exact hmerged
  exact hfold ({}, l) [] h

/-- What hashes and listed members keep, all answers keep, if it does not matter what was listed
before. -/
lemma takeRefresh_induction {P : Nat → Nat → Registry → Prop}
    (hhash : ∀ a b reg id hash, P a b reg → P a b (reg.updateHash id hash))
    (hmerge : merges = true → ∀ v, Viewed answers v → ∀ m ∈ v.members, ∀ a b reg now, P a b reg →
      P (a + if (reg.mergeMember now m.identifier m.address (some v.topologyHash)).1 = .added
          then 1 else 0)
        (b + if (reg.mergeMember now m.identifier m.address (some v.topologyHash)).1 = .relocated
          then 1 else 0)
        (reg.mergeMember now m.identifier m.address (some v.topologyHash)).2)
    (h : P 0 0 l.registry) :
    P (takeRefresh merges answers l).1.added (takeRefresh merges answers l).1.relocated
      (takeRefresh merges answers l).2.registry :=
  takeRefresh_listings_induction merges answers l (P := fun _ => P) (fun _ => hhash)
    (fun hmerges v hv m hm _ => hmerge hmerges v hv m hm) h

/-- All answers give no entry another status, and register nobody but members that are listed. -/
lemma takeRefresh_via :
    Via (fun c => c.IsQuiet ∧ ∀ i, c.Names i →
        merges = true ∧ ∃ v, Viewed answers v ∧ v.contains i = true)
      l.registry (takeRefresh merges answers l).2.registry := by
  refine takeRefresh_induction (P := fun _ _ reg => Via _ l.registry reg) ?_ ?_ (Via.refl _)
  · intro _ _ reg id hash hP
    exact hP.trans (Via.single (c := .updateHash id hash) ⟨trivial, fun _ => False.elim⟩ 0 _)
  · intro hmerges v hv m hm _ _ reg now hP
    refine hP.trans (Via.single (c := .mergeMember m.identifier m.address (some v.topologyHash))
      ⟨trivial, ?_⟩ now _)
    rintro i rfl
    exact ⟨hmerges, v, hv, by simpa [TopologyView.contains] using ⟨m, hm, rfl⟩⟩

/-- All answers change the registry in an orderly way. -/
lemma takeRefresh_leadsTo : LeadsTo l.registry (takeRefresh merges answers l).2.registry :=
  (takeRefresh_via.mono fun _ hc => hc.1.orderly).leadsTo

end Discovery

end Roster
