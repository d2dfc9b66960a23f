import Mathlib.Data.List.Induction
import Mathlib.Data.List.Nodup
import Roster.Failure
import Roster.View

/-!
# Homes of members that answer at several addresses

A node may answer at several addresses, and addresses may be asked repeatedly. Here it is told, from
what is answered at each address, at which one a member is registered in the end.

* `repetitions`: the later ones of repeated elements of a list.
* `names`: whether a node answers at an address under an identifier.
* `home?`: the first address at which a member answered counts, unless it answered at one that was
  asked before: then the last of those does.
* `home?_concat`: the difference that one more address makes.
-/

namespace Roster

/-! ### Repeated addresses -/

section Repetitions

variable {α : Type} [DecidableEq α] {a b : α} {xs seen : List α}

lemma eraseDups_concat (xs : List α) (b : α) :
    (xs ++ [b]).eraseDups = if b ∈ xs then xs.eraseDups else xs.eraseDups ++ [b] := by
  rw [List.eraseDups_append]
  by_cases hb : b ∈ xs
  · simp [List.removeAll, hb]
  · simp [List.removeAll, hb, List.eraseDups_cons]

lemma nodup_eraseDups (xs : List α) : xs.eraseDups.Nodup := by
  induction xs using List.reverseRecOn with
  | nil => simp
  | append_singleton xs b ih =>
      rw [eraseDups_concat]
      split_ifs with hb
      · exact ih
      · refine List.nodup_append.mpr ⟨ih, by simp, fun a ha b' hb' hab => ?_⟩
        rw [hab, List.mem_singleton.mp hb', List.mem_eraseDups] at ha
        exact hb ha

/-- What is found first is not a repetition. -/
lemma find?_eraseDups (p : α → Bool) (xs : List α) : xs.eraseDups.find? p = xs.find? p := by
  induction xs using List.reverseRecOn with
  | nil => simp
  | append_singleton xs b ih =>
      rw [eraseDups_concat]
      split_ifs with hb
      · rw [ih, List.find?_append]
        cases hf : xs.find? p with
        | some a => rfl
        | none => simpa using List.find?_eq_none.mp hf b hb
      · rw [List.find?_append, List.find?_append, ih]

/-- The elements of a list that occur further up or among some others, as often as they do. -/
def repetitions (seen : List α) : List α → List α
  | [] => []
  | a :: xs => if a ∈ seen then a :: repetitions (a :: seen) xs else repetitions (a :: seen) xs

lemma repetitions_concat (seen xs : List α) (b : α) :
    repetitions seen (xs ++ [b]) =
      repetitions seen xs ++ if b ∈ seen ∨ b ∈ xs then [b] else [] := by
  induction xs generalizing seen with
  | nil => by_cases hb : b ∈ seen <;> simp [repetitions, hb]
  | cons a xs ih =>
      have hmem : (b ∈ a :: seen ∨ b ∈ xs) ↔ (b ∈ seen ∨ b ∈ a :: xs) := by
        simp only [List.mem_cons]
        tauto
      rw [List.cons_append, repetitions, repetitions, ih]
      simp only [hmem]
      split_ifs <;> simp

lemma repetitions_eq_nil (h : xs.Nodup) (hnew : ∀ a ∈ xs, a ∉ seen) :
    repetitions seen xs = [] := by
  induction xs generalizing seen with
  | nil => rfl
  | cons a xs ih =>
      obtain ⟨ha, hxs⟩ := List.nodup_cons.mp h
      obtain ⟨haseen, hrest⟩ := List.forall_mem_cons.mp hnew
      rw [repetitions, if_neg haseen]
      refine ih hxs fun b hb hmem => ?_
      rcases List.mem_cons.mp hmem with rfl | hmem
      · exact ha hb
      · exact hrest b hb hmem

lemma mem_of_mem_repetitions (h : a ∈ repetitions seen xs) : a ∈ xs := by
  induction xs generalizing seen with
  | nil => exact absurd h (by simp [repetitions])
  | cons b xs ih =>
      rw [repetitions] at h
      split_ifs at h
      · rcases List.mem_cons.mp h with rfl | h
        · exact List.mem_cons_self
        · exact List.mem_cons_of_mem _ (ih h)
      · exact List.mem_cons_of_mem _ (ih h)

end Repetitions

namespace Discovery

variable {f : Address → Except Failure TopologyView} {as : List Address} {a : Address} {i : String}

/-! ### Where a member is registered -/

/-- Whether a node answers at an address under an identifier. -/
def names (f : Address → Except Failure TopologyView) (i : String) (a : Address) : Bool :=
  match f a with
  | .ok v => v.identifier == i
  | .error _ => false

lemma names_iff : names f i a = true ↔ ∃ v, f a = .ok v ∧ v.identifier = i := by
  unfold names
  cases f a <;> simp

lemma names_of_ok {v : TopologyView} (h : f a = .ok v) : names f i a = (v.identifier == i) := by
  rw [names, h]

/-- The last repeated address at which a member answers. -/
def lastRepeated? (f : Address → Except Failure TopologyView) (as : List Address) (i : String) :
    Option Address :=
  ((repetitions [] as).filter (names f i)).getLast?

/-- Where a member is registered that was found at addresses. -/
def home? (f : Address → Except Failure TopologyView) (as : List Address) (i : String) :
    Option Address :=
  (lastRepeated? f as i).or (as.find? (names f i))

@[simp]
lemma home?_nil : home? f [] i = none := rfl

/-- One more address makes a difference only if the member answers there: a repeated address counts
from then on, and any other one if the member was not found before. -/
lemma home?_concat (f : Address → Except Failure TopologyView) (as : List Address) (a : Address)
    (i : String) :
    home? f (as ++ [a]) i =
      if names f i a then if a ∈ as then some a else (home? f as i).or (some a)
      else home? f as i := by
  have hrepeated : repetitions [] (as ++ [a]) =
      repetitions [] as ++ if a ∈ as then [a] else [] := by
    simpa using repetitions_concat [] as a
  unfold home? lastRepeated?
  rw [hrepeated, List.filter_append, List.find?_append]
  by_cases hn : names f i a = true
  · by_cases ha : a ∈ as
    · simp [hn, ha]
    · simp [hn, ha]
  · by_cases ha : a ∈ as <;> simp [hn, ha]

/-- A member is registered where it answers. -/
lemma names_of_home? (h : home? f as i = some a) : a ∈ as ∧ names f i a = true := by
  rcases Option.or_eq_some_iff.mp h with hlast | ⟨-, hfirst⟩
  · obtain ⟨hmem, hn⟩ := List.mem_filter.mp (List.mem_of_getLast? hlast)
    exact ⟨mem_of_mem_repetitions hmem, hn⟩
  · exact ⟨List.mem_of_find?_eq_some hfirst, List.find?_some hfirst⟩

lemma isSome_home?_iff : (home? f as i).isSome = true ↔ ∃ a ∈ as, names f i a = true := by
  constructor
  · intro h
    obtain ⟨a, ha⟩ := Option.isSome_iff_exists.mp h
    exact ⟨a, names_of_home? ha⟩
  · rintro ⟨a, ha, hn⟩
    rw [home?, Option.isSome_or, List.find?_isSome.mpr ⟨a, ha, hn⟩, Bool.or_true]

/-- Without repeated addresses, the first one counts at which a member answers. -/
lemma home?_eraseDups (f : Address → Except Failure TopologyView) (as : List Address)
    (i : String) : home? f as.eraseDups i = as.find? (names f i) := by
  rw [home?, lastRepeated?, repetitions_eq_nil (nodup_eraseDups as) fun _ _ => List.not_mem_nil,
    find?_eraseDups]
  rfl

end Discovery

end Roster
