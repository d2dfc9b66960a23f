import Mathlib.Data.List.Forall2
import Roster.Proofs.Registry.Lookup

/-!
# No change looks at a time

An entry tells since when its member has its status, but no change of a registry depends on that: a
change at another time, of entries with other times, does the same and leaves other times.

* `Registry.retimed`: a registry with other times.
* `resolve_retimed`, `mergeMember_retimed`, `setStatus_retimed`, ...: changes of such a registry.
* `Registry.Twins`: registries that say the same about all members, and the same times but for one
  that is another one in the other registry.
-/

namespace Roster

namespace Registry

variable {φ : Instant → Instant} {reg reg' : Registry} {now t₀ t t' : Instant} {k : Key}

/-- An entry with another time. -/
def Entry.retimed (φ : Instant → Instant) (e : Entry) : Entry := { e with since := φ e.since }

/-- A registry with other times. -/
def retimed (φ : Instant → Instant) (reg : Registry) : Registry :=
  ⟨reg.entries.map (Entry.retimed φ)⟩

/-! ### What is found -/

lemma find?_retimed : (reg.retimed φ).find? k = (reg.find? k).map (Entry.retimed φ) := by
  rw [find?, retimed, List.find?_map]
  rfl

@[simp]
lemma contains_retimed : (reg.retimed φ).contains k = reg.contains k := by
  rw [contains_eq_isSome, contains_eq_isSome, find?_retimed, Option.isSome_map]

lemma get?_retimed (i : String) : (reg.retimed φ).get? i = reg.get? i := by
  rw [get?, get?, find?_retimed, Option.map_map]
  rfl

/-! ### Changes -/

lemma modify_retimed {f f' : Entry → Entry}
    (h : ∀ e, f' (Entry.retimed φ e) = Entry.retimed φ (f e)) :
    (reg.retimed φ).modify k f' = (reg.modify k f).retimed φ := by
  simp only [modify, retimed, List.map_map]
  refine congrArg mk (List.map_congr_left fun e _ => ?_)
  rw [Function.comp_apply, Function.comp_apply, apply_ite (Entry.retimed φ), h]
  rfl

lemma erase_retimed : (reg.retimed φ).erase k = (reg.erase k).retimed φ := by
  simp only [erase, retimed, List.filter_map]
  rfl

lemma push_retimed (e : Entry) :
    (reg.retimed φ).push (Entry.retimed φ e) = (reg.push e).retimed φ := by
  simp [push, retimed]

lemma mergeMember_retimed (reg : Registry) (now : Instant) (id : String) (a : Address)
    (hash : Option String) :
    (reg.retimed φ).mergeMember (φ now) id a hash =
      (reg.mergeMember now id a hash).map (fun r => r) (retimed φ) := by
  unfold mergeMember
  rw [find?_retimed]
  cases reg.find? (.identifier id) with
  | none =>
      rw [Option.map_none, erase_retimed]
      exact congrArg (Prod.mk MergeOutcome.added) (push_retimed (.fresh (.resolved a id hash) true now))
  | some e =>
      simp only [Option.map_some, Entry.retimed]
      split_ifs
      · rfl
      · exact congrArg _ (modify_retimed fun _ => rfl)

lemma updateHash_retimed (id hash : String) :
    (reg.retimed φ).updateHash id hash = (reg.updateHash id hash).retimed φ :=
  modify_retimed fun _ => rfl

lemma resolve_retimed (reg : Registry) (a : Address) (id : String) (hash : Option String) :
    (reg.retimed φ).resolve a id hash =
      (reg.resolve a id hash).map (fun r => r) (retimed φ) := by
  have hidx : ((reg.retimed φ).entries.findIdx? fun e => e.key == .address a) =
      reg.entries.findIdx? fun e => e.key == .address a := by
    rw [retimed, List.findIdx?_map]
    rfl
  unfold resolve
  rw [hidx, find?_retimed]
  cases reg.entries.findIdx? fun e => e.key == .address a with
  | none => rfl
  | some i =>
      cases reg.find? (.address a) with
      | none => rfl
      | some e =>
          have hrest : (⟨(reg.retimed φ).entries.eraseIdx i⟩ : Registry) =
              retimed φ ⟨reg.entries.eraseIdx i⟩ := congrArg mk (List.eraseIdx_map _ _ _)
          have hput : ((reg.retimed φ).entries.eraseIdx i).insertIdx i
                (identified (Entry.retimed φ e) id hash) =
              ((reg.entries.eraseIdx i).insertIdx i (identified e id hash)).map
                (Entry.retimed φ) := by
            rw [List.map_insertIdx, retimed, List.eraseIdx_map]
            rfl
          simp only [Option.map_some, hrest, find?_retimed, hput]
          cases Registry.find? ⟨reg.entries.eraseIdx i⟩ (.identifier id) with
          | none => rfl
          | some owner =>
              refine Prod.ext rfl ?_
              dsimp only [Option.map_some, Prod.map_snd]
              exact modify_retimed fun _ => rfl

lemma setOne_retimed (b : Bool) (n : ℕ) :
    setOne (φ now) b (n, reg.retimed φ) k =
      (setOne now b (n, reg) k).map (fun n => n) (retimed φ) := by
  unfold setOne
  rw [find?_retimed]
  cases reg.find? k with
  | none => rfl
  | some e =>
      simp only [Option.map_some, Entry.retimed]
      split_ifs
      · rfl
      · exact congrArg _ (modify_retimed fun _ => rfl)

lemma setStatus_retimed (reg : Registry) (now : Instant) (b : Bool) (records : List Record) :
    (reg.retimed φ).setStatus (φ now) b records =
      (reg.setStatus now b records).map (fun n => n) (retimed φ) := by
  have hall : ∀ (ks : List Key) (n : ℕ) (reg : Registry),
      ks.foldl (setOne (φ now) b) (n, reg.retimed φ) =
        (ks.foldl (setOne now b) (n, reg)).map (fun n => n) (retimed φ) := by
    intro ks
    induction ks with
    | nil => exact fun _ _ => rfl
    | cons k ks ih =>
        intro n reg
        rw [List.foldl_cons, List.foldl_cons, setOne_retimed]
        exact ih _ _
  unfold setStatus missing?
  simp only [contains_retimed]
  cases (records.map Record.key).find? fun k => !reg.contains k with
  | some k => rfl
  | none => simp only [hall, Prod.map_fst, Prod.map_snd, Prod.map_apply]

/-! ### One time in the place of another -/

/-- Entries that say the same of a member, at the same time or, if it is `t` in one of them, at `t'`
in the other one. -/
structure Entry.Twin (t t' : Instant) (e e' : Entry) : Prop where
  key : e'.key = e.key
  record : e'.record = e.record
  active : e'.active = e.active
  since : e'.since = e.since ∨ e.since = t ∧ e'.since = t'

/-- Registries with the same entries in the same order, but for a time that is `t` in one of them and
`t'` in the other one. -/
def Twins (t t' : Instant) (reg reg' : Registry) : Prop :=
  List.Forall₂ (Entry.Twin t t') reg.entries reg'.entries

/-- A time that no entry tells can be put in the place of others. -/
lemma retimed_update_of_ne (h : ∀ e ∈ reg.entries, e.since ≠ t₀) (t : Instant) :
    reg.retimed (Function.update id t₀ t) = reg := by
  refine congrArg mk ((List.map_congr_left fun e he => ?_).trans (List.map_id _))
  rw [Entry.retimed, Function.update_of_ne (h e he)]
  rfl

lemma twins_retimed (reg : Registry) (t₀ t t' : Instant) :
    Twins t t' (reg.retimed (Function.update id t₀ t)) (reg.retimed (Function.update id t₀ t')) := by
  rw [Twins, retimed, retimed, List.forall₂_map_left_iff, List.forall₂_map_right_iff]
  refine List.forall₂_same.mpr fun e _ => ⟨rfl, rfl, rfl, ?_⟩
  by_cases he : e.since = t₀
  · exact Or.inr ⟨by simp [Entry.retimed, he], by simp [Entry.retimed, he]⟩
  · exact Or.inl (by simp [Entry.retimed, he])

end Registry

end Roster
