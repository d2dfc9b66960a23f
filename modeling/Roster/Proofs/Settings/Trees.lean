import Mathlib.Data.List.Nodup
import Roster.Settings.Tree

/-!
# Trees that are put together

What a tree has under a name is what was put there last, and what is put under one name leaves the
others as they are. Of the members of a table that have one name, the last one counts.

* `Data.member?`: what a table of a document has under a name.
* `Tree.get?`: what a tree has under a name.
* `Tree.get?_changeAt`: what becomes of it when something in the tree is changed.
* `Tree.merge_eq_self`, `Tree.merge_table_blank`: what becomes of data that is put where there is
  none.
* `Tree.mem_ofMembers_iff`: the members of a table and their trees.
* `Tree.get?_merge_ofData`, `Tree.get?_merge_of_lacks`: what is merged into a tree has what the
  document has, and leaves the rest as it is.
-/

namespace Roster

/-- What a list of named data has under a name; of several, the last one counts. -/
def lastNamed? {α : Type} (name : String) : List (String × α) → Option α
  | [] => none
  | (k, a) :: ms => (lastNamed? name ms).or (if k = name then some a else none)

/-- What a table of a document has under a name. -/
def Document.Data.member? (name : String) : Document.Data → Option Document.Data
  | .table ms => lastNamed? name ms
  | _ => none

/-- Data that is no list. -/
def Document.Data.Unlisted (d : Document.Data) : Prop := ∀ items, d ≠ .list items

instance (d : Document.Data) : Decidable d.Unlisted :=
  match d with
  | .list items => isFalse fun h => h items rfl
  | .null | .bool _ | .integer _ | .decimal _ | .text _ | .table _ => isTrue nofun

/-- A table that has nothing under a name. -/
def Document.Data.Lacks (name : String) (d : Document.Data) : Prop :=
  ∃ ms, d = .table ms ∧ lastNamed? name ms = none

instance (name : String) (d : Document.Data) : Decidable (d.Lacks name) :=
  match d with
  | .table ms => decidable_of_iff (lastNamed? name ms = none)
    ⟨fun h => ⟨ms, rfl, h⟩, fun ⟨_, heq, h⟩ => Document.Data.table.inj heq ▸ h⟩
  | .null | .bool _ | .integer _ | .decimal _ | .text _ | .list _ => isFalse nofun

lemma lastNamed?_eq_none_iff {α : Type} {name : String} {ms : List (String × α)} :
    lastNamed? name ms = none ↔ ∀ m ∈ ms, m.1 ≠ name := by
  induction ms with
  | nil => simp [lastNamed?]
  | cons m ms ih =>
      rw [lastNamed?, Option.or_eq_none_iff, ih, List.forall_mem_cons, and_comm]
      simp

lemma mem_of_lastNamed? {α : Type} {name : String} {ms : List (String × α)} {a : α}
    (h : lastNamed? name ms = some a) : (name, a) ∈ ms := by
  induction ms with
  | nil => cases h
  | cons m ms ih =>
      rw [lastNamed?, Option.or_eq_some_iff] at h
      rcases h with hlater | ⟨-, hfirst⟩
      · exact List.mem_cons_of_mem _ (ih hlater)
      · split_ifs at hfirst with hname
        cases hfirst
        subst hname
        exact List.mem_cons_self

lemma any_name_iff {α : Type} {name : String} {ms : List (String × α)} :
    (ms.any fun m => m.1 == name) = true ↔ lastNamed? name ms ≠ none := by
  rw [ne_eq, lastNamed?_eq_none_iff, List.any_eq_true]
  push Not
  simp

namespace Settings

open Document (Data)

namespace Tree

/-- What a tree has under a name; only tables have names. -/
def get? (t : Tree) (name : String) : Option Tree :=
  (t.asTable.2.find? fun m => m.1 == name).map Prod.snd

variable {origin : Option String} {t old : Tree} {k name : String} {f : Tree → Tree}
  {ms olds : List (String × Tree)}

/-! ### Changes under a name -/

lemma find?_changeMember (k name : String) (f : Tree → Tree) (ms : List (String × Tree)) :
    ((changeMember k f ms).find? fun m => m.1 == name).map Prod.snd =
      if k = name then some (f (((ms.find? fun m => m.1 == k).map Prod.snd).getD blank))
      else (ms.find? fun m => m.1 == name).map Prod.snd := by
  induction ms with
  | nil => by_cases h : k = name <;> simp [changeMember, h]
  | cons m ms ih =>
      obtain ⟨k', t⟩ := m
      rw [changeMember]
      by_cases hk' : k' = k
      · subst hk'
        by_cases h : k' = name <;> simp [h]
      · by_cases h : k' = name
        · subst h
          simp [hk', Ne.symm hk']
        · simp [hk', h, ih]

/-- A change under one name leaves all others as they are. -/
lemma get?_changeAt (f : Tree → Tree) (k : String) (ps : Path) (t : Tree) (name : String) :
    (changeAt f (.name k :: ps) t).get? name =
      if k = name then some (changeAt f ps ((t.get? k).getD blank)) else t.get? name :=
  find?_changeMember k name (changeAt f ps) t.asTable.2

/-! ### Data that is put where there is none -/

/-- Everything but a table replaces what was there. -/
lemma merge_eq_self (ht : ∀ origin ms, t ≠ table origin ms) (old : Tree) : merge t old = t := by
  cases t with
  | scalar => rfl
  | list => rfl
  | table origin ms => exact absurd rfl (ht origin ms)

lemma changeMember_of_notMem (h : k ∉ ms.map Prod.fst) :
    changeMember k f ms = ms ++ [(k, f blank)] := by
  induction ms with
  | nil => rfl
  | cons m ms ih =>
      rw [List.map_cons, List.mem_cons, not_or] at h
      rw [changeMember, if_neg (Ne.symm h.1), ih h.2, List.cons_append]

/-- Members with other names are put behind those that are there. -/
lemma mergeMembers_of_disjoint (hnames : (olds.map Prod.fst ++ ms.map Prod.fst).Nodup) :
    mergeMembers ms olds = olds ++ ms.map fun m => (m.1, merge m.2 blank) := by
  induction ms generalizing olds with
  | nil => simp [mergeMembers]
  | cons m ms ih =>
      obtain ⟨k, t⟩ := m
      have hk : k ∉ olds.map Prod.fst := by
        rw [List.nodup_append'] at hnames
        exact fun hk => hnames.2.2 hk List.mem_cons_self
      rw [mergeMembers, changeMember_of_notMem hk, ih (by simpa using hnames)]
      simp

/-- A table that is put where there is none keeps its members. -/
lemma merge_table_blank (hms : (ms.map Prod.fst).Nodup) :
    merge (table origin ms) blank = table none (ms.map fun m => (m.1, merge m.2 blank)) := by
  rw [merge]
  exact congrArg (table none) (mergeMembers_of_disjoint hms)

lemma find?_mergeMembers (hms : (ms.map Prod.fst).Nodup) (olds : List (String × Tree))
    (name : String) : ((mergeMembers ms olds).find? fun m => m.1 == name).map Prod.snd =
      (((ms.find? fun m => m.1 == name).map Prod.snd).map (merge ·
        (((olds.find? fun m => m.1 == name).map Prod.snd).getD blank))).or
          ((olds.find? fun m => m.1 == name).map Prod.snd) := by
  induction ms generalizing olds with
  | nil => rfl
  | cons m ms ih =>
      obtain ⟨k, t⟩ := m
      rw [List.map_cons, List.nodup_cons] at hms
      obtain ⟨hk, hms⟩ := hms
      rw [mergeMembers, ih hms, find?_changeMember]
      by_cases hname : k = name
      · subst hname
        have hnone : (ms.find? fun m => m.1 == k) = none := by
          rw [List.find?_eq_none]
          exact fun m hm heq => hk (List.mem_map.mpr ⟨m, hm, by simpa using heq⟩)
        simp [hnone]
      · simp [hname]

/-- The members of a table are merged with those that are there, each for itself. -/
lemma get?_merge_table (hms : (ms.map Prod.fst).Nodup) (old : Tree) (name : String) :
    (merge (table origin ms) old).get? name =
      (((ms.find? fun m => m.1 == name).map Prod.snd).map
        (merge · ((old.get? name).getD blank))).or (old.get? name) := by
  rw [merge]
  exact find?_mergeMembers hms old.asTable.2 name

/-! ### Trees of documents -/

lemma find?_ofMembers (origin : Option String) (name : String) (ds : List (String × Data)) :
    ((ofMembers origin ds).find? fun m => m.1 == name).map Prod.snd =
      (lastNamed? name ds).map (ofData origin) := by
  induction ds with
  | nil => rfl
  | cons d ds ih =>
      obtain ⟨k, d⟩ := d
      rw [ofMembers, lastNamed?]
      split_ifs with hlater hk hk
      · -- A later member has this name.
        subst hk
        obtain ⟨d', hlast⟩ := Option.ne_none_iff_exists'.mp (any_name_iff.mp hlater)
        rw [ih, hlast, Option.some_or]
      · rw [ih, Option.or_none]
      · subst hk
        have hnone : lastNamed? k ds = none := by
          by_contra hsome
          exact hlater (any_name_iff.mpr hsome)
        simp [hnone]
      · rw [List.find?_cons_of_neg (by simpa using hk), ih, Option.or_none]

lemma map_fst_ofMembers_nodup (origin : Option String) (ds : List (String × Data)) :
    ((ofMembers origin ds).map Prod.fst).Nodup := by
  induction ds with
  | nil => simp [ofMembers]
  | cons d ds ih =>
      obtain ⟨k, d⟩ := d
      rw [ofMembers]
      split_ifs with hlater
      · exact ih
      · have hfind := find?_ofMembers origin k ds
        have hnone : lastNamed? k ds = none := by
          by_contra hsome
          exact hlater (any_name_iff.mpr hsome)
        rw [hnone, Option.map_none, Option.map_eq_none_iff, List.find?_eq_none] at hfind
        rw [List.map_cons, List.nodup_cons]
        refine ⟨fun hk => ?_, ih⟩
        obtain ⟨m, hm, rfl⟩ := List.mem_map.mp hk
        simpa using hfind m hm

/-- The members of the tree of a table are the trees of the last members of each name. -/
lemma mem_ofMembers_iff {ds : List (String × Data)} {k : String} :
    (k, t) ∈ ofMembers origin ds ↔ ∃ d, lastNamed? k ds = some d ∧ t = ofData origin d := by
  induction ds with
  | nil => simp [ofMembers, lastNamed?]
  | cons d ds ih =>
      obtain ⟨k', d⟩ := d
      rw [ofMembers, lastNamed?]
      split_ifs with hlater hk hk
      · -- A later member has this name.
        subst hk
        obtain ⟨d', hlast⟩ := Option.ne_none_iff_exists'.mp (any_name_iff.mp hlater)
        rw [ih, hlast, Option.some_or]
      · rw [ih, Option.or_none]
      · subst hk
        have hnone : lastNamed? k' ds = none := by
          by_contra hsome
          exact hlater (any_name_iff.mpr hsome)
        simp [ih, hnone]
      · simp [ih, Ne.symm hk]

/-- A table has under a name what the document has. -/
lemma get?_merge_ofData (d : Data) {old : Tree} (hold : old.get? name = none) :
    (merge (ofData origin d) old).get? name =
      (d.member? name).map fun d => merge (ofData origin d) blank := by
  cases d with
  | table ds =>
      rw [ofData, get?_merge_table (map_fst_ofMembers_nodup origin ds), hold, find?_ofMembers,
        Option.map_map, Option.or_none]
      rfl
  | _ => rfl

/-- A table leaves what it does not have as it is. -/
lemma get?_merge_of_lacks {d : Data} (hd : d.Lacks name) (old : Tree) :
    (merge (ofData origin d) old).get? name = old.get? name := by
  obtain ⟨ds, rfl, hds⟩ := hd
  rw [ofData, get?_merge_table (map_fst_ofMembers_nodup origin ds), find?_ofMembers, hds]
  rfl

end Tree

end Settings

end Roster
