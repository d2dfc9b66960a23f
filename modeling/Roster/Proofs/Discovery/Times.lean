import Mathlib.Data.Fintype.EquivFin
import Roster.Proofs.Discovery.Agreement
import Roster.Proofs.Registry.Times

/-!
# Answers that are taken over at another time

When answers are taken over, the time at which this is done is noted in entries, and nothing else
depends on it, nor on the times that are noted there already.

* `Ledger.Retimed`: a ledger at another time, whose entries tell other times.
* `Parallel`: the same result, with a ledger at another time.
* `parallel_takeProbes`, `parallel_takeRefresh`: answers that are taken over in both.
* `NotesTime.twins`: the same answers, taken over at two times.
-/

namespace Roster

/-- The ledger is at another time, and its entries tell other times. -/
structure Ledger.Retimed (φ : Instant → Instant) (l l' : Ledger) : Prop where
  now : l'.now = φ l.now
  registry : l'.registry = l.registry.retimed φ

namespace Discovery

open Registry

/-- The same comes of two things that were done, and leaves the ledger at another time. -/
structure Parallel {α : Type} (φ : Instant → Instant) (x x' : α × Ledger) : Prop where
  fst : x'.1 = x.1
  snd : Ledger.Retimed φ x.2 x'.2

variable {φ : Instant → Instant} {l l' : Ledger} {r : Record} {v : TopologyView}

/-! ### Changes of the ledger -/

lemma parallel_resolve (h : Ledger.Retimed φ l l') (a : Address) (id : String)
    (hash : Option String) : Parallel φ (l.resolve a id hash) (l'.resolve a id hash) := by
  have hreg := resolve_retimed (φ := φ) l.registry a id hash
  rw [← h.registry] at hreg
  have hfst := congrArg Prod.fst hreg
  have hsnd := congrArg Prod.snd hreg
  exact ⟨hfst, h.now, hsnd⟩

lemma parallel_mergeMember (h : Ledger.Retimed φ l l') (id : String) (a : Address)
    (hash : Option String) :
    Parallel φ (l.mergeMember id a hash) (l'.mergeMember id a hash) := by
  have hreg := mergeMember_retimed (φ := φ) l.registry l.now id a hash
  rw [← h.registry, ← h.now] at hreg
  have hfst := congrArg Prod.fst hreg
  have hsnd := congrArg Prod.snd hreg
  exact ⟨hfst, h.now, hsnd⟩

lemma retimed_updateHash (h : Ledger.Retimed φ l l') (id hash : String) :
    Ledger.Retimed φ (l.updateHash id hash) (l'.updateHash id hash) := by
  refine ⟨h.now, ?_⟩
  rw [Ledger.registry_updateHash, h.registry, updateHash_retimed]
  rfl

lemma parallel_activate (h : Ledger.Retimed φ l l') (records : List Record) :
    Parallel φ (l.activate records) (l'.activate records) := by
  have hreg := setStatus_retimed (φ := φ) l.registry l.now true records
  rw [← h.registry, ← h.now] at hreg
  have hfst := congrArg Prod.fst hreg
  have hsnd := congrArg Prod.snd hreg
  exact ⟨hfst, h.now, hsnd⟩

/-! ### Members that may become active -/

lemma parallel_identify (h : Ledger.Retimed φ l l') (r : Record) (v : TopologyView) :
    Parallel φ (identify r v l) (identify r v l') := by
  cases hr : r.identifier with
  | none =>
      have hres := parallel_resolve h r.address v.identifier (some v.topologyHash)
      have hfst : (l'.registry.resolve r.address v.identifier (some v.topologyHash)).1 =
          (l.registry.resolve r.address v.identifier (some v.topologyHash)).1 := hres.fst
      rw [identify_eq_of_none hr, identify_eq_of_none hr, hfst]
      cases (l.registry.resolve r.address v.identifier (some v.topologyHash)).1 with
      | ok resolution => exact ⟨rfl, hres.snd⟩
      | error f =>
          have hmerge := (parallel_mergeMember hres.snd v.identifier r.address
            (some v.topologyHash)).snd
          refine ⟨?_, hmerge⟩
          dsimp only
          rw [hmerge.registry, get?_retimed]
  | some id =>
      by_cases hid : id = v.identifier
      · subst hid
        rw [identify_self hr, identify_self hr]
        exact ⟨rfl, retimed_updateHash h _ _⟩
      · have hnote : Ledger.Retimed φ (l.note (otherAnswered r id v))
            (l'.note (otherAnswered r id v)) := ⟨h.now, h.registry⟩
        simp only [identify, hr, if_neg hid]
        exact ⟨rfl, (parallel_mergeMember hnote _ _ _).snd⟩

lemma parallel_recover (h : Ledger.Retimed φ l l') (r : Record) (v : TopologyView)
    (report : ProbeReport) : Parallel φ (recover r v report l) (recover r v report l') := by
  obtain ⟨hfst, hsnd⟩ := parallel_identify h r v
  unfold recover
  generalize identify r v l = x, identify r v l' = x' at hfst hsnd ⊢
  obtain ⟨current?, l₁⟩ := x
  obtain ⟨current?', l₁'⟩ := x'
  obtain rfl : current?' = current? := hfst
  cases current?' with
  | none => exact ⟨rfl, hsnd⟩
  | some current =>
      obtain ⟨hfst, hsnd⟩ := parallel_activate hsnd [current]
      dsimp only
      generalize l₁.activate [current] = y, l₁'.activate [current] = y' at hfst hsnd ⊢
      obtain ⟨result, l₂⟩ := y
      obtain ⟨result', l₂'⟩ := y'
      obtain rfl : result' = result := hfst
      cases result' with
      | ok n => exact ⟨rfl, hsnd⟩
      | error f => exact ⟨rfl, hsnd⟩

/-- All answers of members that may become active. -/
lemma parallel_takeProbes (h : Ledger.Retimed φ l l')
    (xs : List (Record × Except Failure TopologyView)) (report : ProbeReport) :
    Parallel φ (takeProbes xs report l) (takeProbes xs report l') := by
  induction xs generalizing report l l' with
  | nil => exact ⟨rfl, h⟩
  | cons x xs ih =>
      obtain ⟨r, answer⟩ := x
      cases answer with
      | error f =>
          have hnote : Ledger.Retimed φ (l.note (probeFailed r f)) (l'.note (probeFailed r f)) :=
            ⟨h.now, h.registry⟩
          rw [takeProbes, takeProbes]
          exact ih hnote _
      | ok v =>
          obtain ⟨hfst, hsnd⟩ := parallel_recover h r v report
          cases hres : (recover r v report l).1 with
          | error f =>
              rw [takeProbes_cons_error hres, takeProbes_cons_error (hfst.trans hres)]
              exact ⟨rfl, hsnd⟩
          | ok report' =>
              rw [takeProbes_cons_ok xs hres, takeProbes_cons_ok xs (hfst.trans hres)]
              exact ih hsnd _

/-! ### Active members -/

lemma parallel_mergeListings (hash : String) (ms : List Listing) {x x' : RefreshReport × Ledger}
    (h : Parallel φ x x') :
    Parallel φ (ms.foldl (mergeListing hash) x) (ms.foldl (mergeListing hash) x') := by
  induction ms generalizing x x' with
  | nil => exact h
  | cons m ms ih =>
      obtain ⟨report, l⟩ := x
      obtain ⟨report', l'⟩ := x'
      obtain rfl : report' = report := h.fst
      obtain ⟨hfst, hsnd⟩ := parallel_mergeMember h.snd m.identifier m.address (some hash)
      rw [List.foldl_cons, List.foldl_cons, mergeListing_eq, mergeListing_eq]
      dsimp only at hfst hsnd
      rw [hfst]
      exact ih ⟨rfl, hsnd⟩

lemma retimed_acknowledge (h : Ledger.Retimed φ l l') (r : Record) (v : TopologyView) :
    Ledger.Retimed φ (acknowledge r v l).2 (acknowledge r v l').2 := by
  cases hr : r.identifier with
  | none => simpa only [acknowledge, hr] using h
  | some id =>
      by_cases hid : id = v.identifier
      · simp only [acknowledge, hr, if_pos hid]
        exact retimed_updateHash h _ _
      · simp only [acknowledge, hr, if_neg hid]
        exact ⟨h.now, h.registry⟩

lemma parallel_merged (merges : Bool) {x x' : RefreshReport × Ledger} (h : Parallel φ x x')
    (r : Record) (v : TopologyView) : Parallel φ (merged r v merges x) (merged r v merges x') := by
  have hack := retimed_acknowledge h.snd r v
  cases merges with
  | false => exact ⟨h.fst, hack⟩
  | true =>
      refine parallel_mergeListings _ _ ⟨?_, hack⟩
      rw [h.fst]

lemma parallel_takeRefreshOne (merges : Bool) {x x' : RefreshReport × Ledger}
    (h : Parallel φ x x') (y : Record × Except Failure TopologyView) :
    Parallel φ (takeRefreshOne merges x y) (takeRefreshOne merges x' y) := by
  obtain ⟨r, answer⟩ := y
  cases answer with
  | error f =>
      refine ⟨?_, h.snd.now, h.snd.registry⟩
      simp only [takeRefreshOne, h.fst]
  | ok v =>
      obtain ⟨hfst, hsnd⟩ := parallel_merged merges h r v
      rw [takeRefreshOne_ok, takeRefreshOne_ok]
      cases fault? (r, .ok v) <;> exact ⟨by rw [hfst], hsnd⟩

/-- All answers of the active members. -/
lemma parallel_takeRefresh (merges : Bool) (h : Ledger.Retimed φ l l')
    (xs : List (Record × Except Failure TopologyView)) :
    Parallel φ (takeRefresh merges xs l) (takeRefresh merges xs l') := by
  have hfold : ∀ x x' : RefreshReport × Ledger, Parallel φ x x' →
      Parallel φ (xs.foldl (takeRefreshOne merges) x) (xs.foldl (takeRefreshOne merges) x') := by
    induction xs with
    | nil => exact fun _ _ h => h
    | cons y ys ih => exact fun x x' h => ih _ _ (parallel_takeRefreshOne merges h y)
  obtain ⟨hfst, hsnd⟩ := hfold ({}, l) ({}, l') ⟨rfl, h⟩
  exact ⟨hfst, hsnd.now, hsnd.registry⟩

/-! ### Two times -/

/-- What is done with a ledger does not depend on its time, and notes it at most. -/
def NotesTime {α : Type} (f : Ledger → α × Ledger) : Prop :=
  ∀ φ l l', Ledger.Retimed φ l l' → Parallel φ (f l) (f l')

/-- The same comes of it at two times, with registries that tell the one where the other tells the
other. -/
lemma NotesTime.twins {α : Type} {f : Ledger → α × Ledger} (h : NotesTime f) (l : Ledger)
    (t t' : Instant) :
    (f { l with now := t' }).1 = (f { l with now := t }).1 ∧
      Twins t t' (f { l with now := t }).2.registry (f { l with now := t' }).2.registry := by
  -- Both are what is done at a time that no entry tells.
  obtain ⟨t₀, hfresh⟩ := Infinite.exists_notMem_finset (l.registry.entries.map Entry.since).toFinset
  have hne : ∀ e ∈ l.registry.entries, e.since ≠ t₀ := by
    rintro e he rfl
    exact hfresh (List.mem_toFinset.mpr (List.mem_map_of_mem he))
  have hat : ∀ t, Parallel (Function.update id t₀ t) (f { l with now := t₀ })
      (f { l with now := t }) :=
    fun t => h _ _ _ ⟨(Function.update_self t₀ t id).symm, (retimed_update_of_ne hne t).symm⟩
  refine ⟨(hat t').fst.trans (hat t).fst.symm, ?_⟩
  rw [(hat t).snd.registry, (hat t').snd.registry]
  exact twins_retimed _ t₀ t t'

end Discovery

end Roster
