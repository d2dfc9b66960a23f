import Roster.Proofs.Settings.Leaves
import Roster.Settings.Loading

/-!
# Settings from variables, a file and defaults

Every single setting is taken from the variable that is set for it, or else from the file if it has
the setting, or else it is the default, whatever becomes of the other settings. What is put into the
tree of all settings under the key of one of them leaves the others as they are.

* `Leads`, `Names`: the keys of variables and the members of a file that are looked at.
* `tree?_put_key`: what is put under the key of a setting.
* `Spares`: what is put elsewhere leaves a setting as it is.
* `tree?_putAll`, `tree?_ofFile`: what variables and a file leave in the tree.
* `Determined`, `each_setting_for_itself`: where each setting comes from.
-/

namespace Roster.Settings

open Document (Data Format)

variable {root : Tree} {l : Leaf}

/-! ### Where settings are put -/

lemma ofText_key (l : Leaf) : Path.ofText l.key = [.name l.group, .name l.name] := by
  cases l <;> decide

lemma ofText_group (l : Leaf) : Path.ofText l.group = [.name l.group] := by
  cases l <;> decide

lemma name_injective : Function.Injective Leaf.name := by
  intro l l' h
  cases l <;> cases l' <;> first | rfl | exact absurd h (by decide)

lemma key_injective : Function.Injective Leaf.key := by
  intro l l' h
  have hpath := congrArg Path.ofText h
  rw [ofText_key, ofText_key] at hpath
  exact name_injective (by simpa using (List.cons.inj hpath).2)

lemma key_ne_group (l l' : Leaf) : l.key ≠ l'.group := by
  intro h
  have hpath := congrArg (fun key => (Path.ofText key).length) h
  rw [ofText_key, ofText_group] at hpath
  exact absurd hpath (by simp)

/-- A key that leads to none of the settings, and to none of their groups. -/
def Elsewhere (key : String) : Prop := ∀ l : Leaf, (Path.ofText key).head? ≠ some (.name l.group)

instance (key : String) : Decidable (Elsewhere key) := by
  unfold Elsewhere
  infer_instance

/-- Paths begin with a name. -/
lemma exists_ofText (key : String) : ∃ k ps, Path.ofText key = .name k :: ps := by
  unfold Path.ofText Path.ofText?
  split
  · next step rest hname =>
    have hstep : ∃ k, step = .name k := by
      unfold Path.readName? at hname
      split at hname
      · cases hname
      · cases hname
        exact ⟨_, rfl⟩
    obtain ⟨k, rfl⟩ := hstep
    cases Path.readSteps? rest.length rest with
    | none => exact ⟨key, [], rfl⟩
    | some ps => exact ⟨k, ps, rfl⟩
  · exact ⟨key, [], rfl⟩

lemma get?_put_of_elsewhere {key : String} (h : Elsewhere key) (root t : Tree) (l : Leaf) :
    (root.put (.ofText key) t).get? l.group = root.get? l.group := by
  obtain ⟨k, ps, hpath⟩ := exists_ofText key
  have hk : k ≠ l.group := by
    rintro rfl
    exact h l (by rw [hpath]; rfl)
  rw [Tree.put, hpath, Tree.get?_changeAt, if_neg hk]

lemma get?_put_group (l l' : Leaf) (root t : Tree) :
    (root.put (.ofText l.group) t).get? l'.group =
      if l.group = l'.group then some (.merge t ((root.get? l.group).getD .blank))
      else root.get? l'.group := by
  rw [Tree.put, ofText_group, Tree.get?_changeAt]
  rfl

/-- What is put under the key of one setting leaves the others as they are. -/
lemma tree?_put_key (l l' : Leaf) (root t : Tree) :
    l'.tree? (root.put (.ofText l.key) t) =
      if l = l' then some (.merge t ((l.tree? root).getD .blank)) else l'.tree? root := by
  have hblank : ∀ g n, ((root.get? g).getD .blank).get? n = (root.get? g).bind (·.get? n) := by
    intro g n
    cases root.get? g <;> rfl
  unfold Leaf.tree?
  rw [Tree.put, ofText_key, Tree.get?_changeAt]
  by_cases hg : l.group = l'.group
  · rw [if_pos hg, Option.bind_some, Tree.get?_changeAt, hblank, hblank]
    by_cases hl : l = l'
    · subst hl
      rw [if_pos rfl, if_pos rfl]
      rfl
    · rw [if_neg (name_injective.ne hl), if_neg hl, hg]
  · rw [if_neg hg, if_neg fun hl => hg (congrArg Leaf.group hl)]

/-! ### Variables -/

/-- The value of the variable that is set for a key. -/
def Environment.value? (env : Environment) (key : String) : Option String :=
  lastNamed? key (env.filterMap fun v => (Environment.key? v.1).map (·, v.2))

/-- A key is that of a setting, or leads elsewhere. -/
def Leads (key : String) : Prop := (∃ l : Leaf, key = l.key) ∨ Elsewhere key

instance (key : String) : Decidable (Leads key) := by
  unfold Leads
  infer_instance

lemma lastNamed?_map {α β : Type} (f : String → α → β) (k : String) (ms : List (String × α)) :
    lastNamed? k (ms.map fun m => (m.1, f m.1 m.2)) = (lastNamed? k ms).map (f k) := by
  induction ms with
  | nil => rfl
  | cons m ms ih =>
      rw [List.map_cons, lastNamed?, lastNamed?, ih]
      by_cases h : m.1 = k
      · subst h
        cases lastNamed? m.1 ms <;> simp
      · simp [h]

lemma lastNamed?_settings (env : Environment) (key : String) :
    lastNamed? key env.settings = (env.value? key).map (Environment.tree key) := by
  rw [Environment.value?, ← lastNamed?_map Environment.tree, List.map_filterMap]
  simp only [Option.map_map]
  rfl

lemma environmentTree_ne_table (key value : String) (origin : Option String)
    (ms : List (String × Tree)) : Environment.tree key value ≠ .table origin ms := by
  unfold Environment.tree
  split
  · split_ifs <;> nofun
  · nofun

lemma elsewhere_key_ne {key : String} (h : Elsewhere key) (l : Leaf) : key ≠ l.key := by
  rintro rfl
  exact h l (by rw [ofText_key]; rfl)

/-- Variables replace what was there before, each for itself. -/
lemma tree?_putAll {settings : List (String × Tree)}
    (hkeys : ∀ x ∈ settings, Leads x.1 ∧ ∀ origin ms, x.2 ≠ .table origin ms) (root : Tree)
    (l : Leaf) : l.tree? (root.putAll settings) = (lastNamed? l.key settings).or (l.tree? root) := by
  induction settings generalizing root with
  | nil => rfl
  | cons x settings ih =>
      obtain ⟨⟨hx, htable⟩, hkeys⟩ := List.forall_mem_cons.mp hkeys
      show l.tree? ((root.put (.ofText x.1) x.2).putAll settings) = _
      rw [ih hkeys, lastNamed?, Option.or_assoc]
      congr 1
      rcases hx with ⟨l', hl'⟩ | helsewhere
      · rw [hl', tree?_put_key, Tree.merge_eq_self htable]
        by_cases hl : l' = l
        · rw [if_pos hl, if_pos (congrArg Leaf.key hl), Option.some_or]
        · rw [if_neg hl, if_neg (key_injective.ne hl), Option.none_or]
      · rw [if_neg (elsewhere_key_ne helsewhere l), Option.none_or, Leaf.tree?,
          get?_put_of_elsewhere helsewhere, Leaf.tree?]

lemma Tree.Unlisted.merge {t : Tree} (ht : t.Unlisted) (old : Tree) :
    (Tree.merge t old).Unlisted := by
  cases t with
  | list origin items => exact absurd rfl (ht origin items)
  | _ => exact nofun

/-- Groups are no lists if none is put in their place. -/
lemma grouped_putAll {settings : List (String × Tree)}
    (hsettings : ∀ x ∈ settings, (∃ l : Leaf, x.1 = l.group) ∧ x.2.Unlisted ∨ Leads x.1)
    (hroot : Grouped root) : Grouped (root.putAll settings) := by
  induction settings generalizing root with
  | nil => exact hroot
  | cons x settings ih =>
      obtain ⟨hx, hsettings⟩ := List.forall_mem_cons.mp hsettings
      show Grouped ((root.put (.ofText x.1) x.2).putAll settings)
      refine ih hsettings fun l t ht => ?_
      rcases hx with ⟨⟨l', hl'⟩, hunlisted⟩ | ⟨l', hl'⟩ | helsewhere
      · rw [hl', get?_put_group] at ht
        split_ifs at ht
        · cases ht
          exact hunlisted.merge _
        · exact hroot l t ht
      · rw [Tree.put, hl', ofText_key, Tree.get?_changeAt] at ht
        split_ifs at ht
        · cases ht
          exact nofun
        · exact hroot l t ht
      · rw [get?_put_of_elsewhere helsewhere] at ht
        exact hroot l t ht

/-! ### What is put elsewhere -/

/-- What is put somewhere leaves a setting as it is. -/
def Spares (l : Leaf) (x : String × Tree) : Prop :=
  ∀ root : Tree, l.tree? (root.put (.ofText x.1) x.2) = l.tree? root

lemma spares_of_elsewhere {key : String} (h : Elsewhere key) (l : Leaf) (t : Tree) :
    Spares l (key, t) := by
  intro root
  rw [Leaf.tree?, get?_put_of_elsewhere h, Leaf.tree?]

lemma spares_of_key {l' : Leaf} (h : l' ≠ l) (t : Tree) : Spares l (l'.key, t) := by
  intro root
  rw [tree?_put_key, if_neg h]

lemma tree?_put_group (l : Leaf) (root t : Tree) :
    l.tree? (root.put (.ofText l.group) t) =
      (Tree.merge t ((root.get? l.group).getD .blank)).get? l.name := by
  rw [Leaf.tree?, get?_put_group, if_pos rfl]
  rfl

/-- What a tree has for a setting is in its group. -/
lemma get?_getD_group (l : Leaf) (root : Tree) :
    ((root.get? l.group).getD .blank).get? l.name = l.tree? root := by
  rw [Leaf.tree?]
  cases root.get? l.group <;> rfl

/-- What is put in the place of a group leaves a setting as it is if this belongs to the other group
or is not in the table that is put there. -/
lemma spares_of_group {l' : Leaf} (origin : Option String) {d : Data}
    (h : l'.group = l.group → d.Lacks l.name) : Spares l (l'.group, .ofData origin d) := by
  intro root
  show l.tree? (root.put (.ofText l'.group) _) = _
  by_cases hgroup : l'.group = l.group
  · rw [hgroup, tree?_put_group, Tree.get?_merge_of_lacks (h hgroup), get?_getD_group]
  · rw [Leaf.tree?, get?_put_group, if_neg hgroup, Leaf.tree?]

lemma tree?_putAll_of_spares {settings : List (String × Tree)} (h : ∀ x ∈ settings, Spares l x)
    (root : Tree) : l.tree? (root.putAll settings) = l.tree? root := by
  induction settings generalizing root with
  | nil => rfl
  | cons x settings ih =>
      obtain ⟨hx, hothers⟩ := List.forall_mem_cons.mp h
      show l.tree? ((root.put (.ofText x.1) x.2).putAll settings) = _
      rw [ih hothers, hx]

/-- If all others leave a setting as it is, one of those that are put into a tree decides on it. -/
lemma tree?_putAll_of_mem {settings : List (String × Tree)} {x : String × Tree} {v : Option Tree}
    (hnodup : settings.Nodup) (hx : x ∈ settings) (hothers : ∀ y ∈ settings, y ≠ x → Spares l y)
    (hroot : l.tree? root = none)
    (h : ∀ root : Tree, l.tree? root = none → l.tree? (root.put (.ofText x.1) x.2) = v) :
    l.tree? (root.putAll settings) = v := by
  obtain ⟨front, back, rfl⟩ := List.append_of_mem hx
  have hmem := List.nodup_middle.mp hnodup
  rw [List.nodup_cons, List.mem_append, not_or] at hmem
  obtain ⟨⟨hfront, hback⟩, -⟩ := hmem
  have hsplit : root.putAll (front ++ x :: back) =
      ((root.putAll front).put (.ofText x.1) x.2).putAll back := by
    rw [Tree.putAll, List.foldl_append]
    rfl
  have hbefore : l.tree? (root.putAll front) = none := by
    rw [tree?_putAll_of_spares (fun y hy => hothers y (List.mem_append_left _ hy) ?_), hroot]
    rintro rfl
    exact hfront hy
  rw [hsplit, tree?_putAll_of_spares (fun y hy => hothers y ?_ ?_), h _ hbefore]
  · exact List.mem_append_right _ (List.mem_cons_of_mem _ hy)
  · rintro rfl
    exact hback hy

/-! ### Files -/

/-- The members of the table in the file, if there is a file. -/
def fileTable (s : Surroundings) (path : Option String) : List (String × Data) :=
  match path.bind fun p => (s.file? p).map fun content => (p, content) with
  | some (p, content) =>
    ((Format.ofExtension? (extension p)).bind fun format =>
      (format.read? (withoutMark content.toList)).bind Data.members?).getD []
  | none => []

/-- What the file has for a setting, in the table of its group or under its whole key. -/
def inFile? (s : Surroundings) (path : Option String) (l : Leaf) : Option Data :=
  ((lastNamed? l.group (fileTable s path)).bind (·.member? l.name)).or
    (lastNamed? l.key (fileTable s path))

/-- The group of a setting is not in the file, or is a table without the setting. -/
def Apart (ms : List (String × Data)) (l : Leaf) : Prop :=
  ∀ d ∈ lastNamed? l.group ms, d.Lacks l.name

instance (ms : List (String × Data)) (l : Leaf) : Decidable (Apart ms l) := by
  unfold Apart
  infer_instance

/-- A name in a file is that of a group of settings, which are given by their names, or the whole
key of a setting that is given nowhere else, or leads elsewhere. -/
def Names (ms : List (String × Data)) (m : String × Data) : Prop :=
  (∃ l : Leaf, m.1 = l.group) ∧ m.2.Unlisted ∨ (∃ l : Leaf, m.1 = l.key ∧ Apart ms l) ∨
    Elsewhere m.1

instance (ms : List (String × Data)) (m : String × Data) : Decidable (Names ms m) := by
  unfold Names
  infer_instance

lemma ofTree_of_mapError {root : Tree} {settings : Settings}
    (h : (Settings.ofTree root).mapError LoadFault.unsuitable = .ok settings) :
    Settings.ofTree root = .ok settings := by
  cases hread : Settings.ofTree root with
  | error m =>
      rw [hread] at h
      cases h
  | ok settings' =>
      rw [hread] at h
      exact congrArg _ (Except.ok.inj h)

/-- The settings of a file and of variables are put together. -/
lemma ofTree_of_load {s : Surroundings} {path : Option String} {settings : Settings}
    (h : load s path = .ok settings) :
    Settings.ofTree ((Tree.empty.putAll (Tree.ofMembers (path.map s.shortName)
      (fileTable s path))).putAll s.environment.settings) = .ok settings := by
  unfold load at h
  dsimp only at h
  unfold fileTable
  cases hpath : path.bind fun p => (s.file? p).map fun content => (p, content) with
  | none =>
      rw [hpath] at h
      exact ofTree_of_mapError h
  | some x =>
      obtain ⟨p, content⟩ := x
      obtain ⟨p', rfl, hcontent⟩ := Option.bind_eq_some_iff.mp hpath
      obtain ⟨content', -, heq⟩ := Option.map_eq_some_iff.mp hcontent
      cases heq
      rw [hpath] at h
      obtain ⟨ofFile, hfile, h⟩ := bind_eq_ok_iff.mp h
      unfold fileSettings at hfile
      split at hfile
      · cases hfile
      · next format hformat =>
        split at hfile
        · cases hfile
        · next ms hms =>
          cases hfile
          dsimp only
          rw [hformat, Option.bind_some, hms]
          exact ofTree_of_mapError h

section File

variable {origin : Option String} {ms : List (String × Data)}

/-- Of what a file has, only the group of a setting and its whole key matter to it. -/
lemma spares_of_names {k : String} {d : Data} (h : Names ms (k, d))
    (hgroup : k = l.group → d.Lacks l.name) (hkey : k ≠ l.key) (origin : Option String) :
    Spares l (k, .ofData origin d) := by
  rcases h with ⟨⟨l', rfl⟩, -⟩ | ⟨l', rfl, -⟩ | helsewhere
  · exact spares_of_group origin hgroup
  · exact spares_of_key (fun hl => hkey (congrArg Leaf.key hl)) _
  · exact spares_of_elsewhere helsewhere l _

lemma apart_of_names {d : Data} (h : Names ms (l.key, d)) : Apart ms l := by
  rcases h with ⟨⟨l', hl'⟩, -⟩ | ⟨l', hl', hapart⟩ | helsewhere
  · exact absurd hl' (key_ne_group l l')
  · rwa [key_injective hl']
  · exact absurd rfl (elsewhere_key_ne helsewhere l)

/-- A file has each setting for itself. -/
lemma tree?_ofFile (hms : ∀ m ∈ ms, Names ms m) (l : Leaf) :
    l.tree? (Tree.empty.putAll (Tree.ofMembers origin ms)) =
      (((lastNamed? l.group ms).bind (·.member? l.name)).or (lastNamed? l.key ms)).map fun d =>
        .merge (.ofData origin d) .blank := by
  have hnodup : (Tree.ofMembers origin ms).Nodup :=
    (Tree.map_fst_ofMembers_nodup origin ms).of_map
  -- Only the last member of each name is put into the tree.
  have hspares : ∀ x ∈ Tree.ofMembers origin ms, x.1 ≠ l.key →
      (∀ d, lastNamed? x.1 ms = some d → x.1 = l.group → d.Lacks l.name) → Spares l x := by
    rintro ⟨k, t⟩ hx hkey hgroup
    obtain ⟨d, hd, rfl⟩ := Tree.mem_ofMembers_iff.mp hx
    exact spares_of_names (hms _ (mem_of_lastNamed? hd)) (hgroup d hd) hkey origin
  cases hkey : lastNamed? l.key ms with
  | some d =>
      have hapart := apart_of_names (hms _ (mem_of_lastNamed? hkey))
      have hnone : (lastNamed? l.group ms).bind (·.member? l.name) = none := by
        rw [Option.bind_eq_none_iff]
        intro d' hd'
        obtain ⟨ds, rfl, hds⟩ := hapart d' hd'
        exact hds
      rw [hnone, Option.none_or]
      refine tree?_putAll_of_mem hnodup (Tree.mem_ofMembers_iff.mpr ⟨d, hkey, rfl⟩) ?_ rfl ?_
      · rintro ⟨k, t⟩ hy hne
        refine hspares _ hy ?_ fun d' hd' hgroup => hapart d' (hgroup ▸ hd')
        rintro rfl
        obtain ⟨d', hd', rfl⟩ := Tree.mem_ofMembers_iff.mp hy
        rw [hkey] at hd'
        exact hne (Option.some.inj hd' ▸ rfl)
      · intro root hroot
        rw [tree?_put_key, if_pos rfl, hroot]
        rfl
  | none =>
      have hkeys : ∀ x ∈ Tree.ofMembers origin ms, x.1 ≠ l.key := by
        rintro ⟨k, t⟩ hx rfl
        obtain ⟨d, hd, -⟩ := Tree.mem_ofMembers_iff.mp hx
        rw [hkey] at hd
        cases hd
      rw [Option.or_none]
      cases hgroup : lastNamed? l.group ms with
      | none =>
          refine tree?_putAll_of_spares (fun x hx => hspares x hx (hkeys x hx) ?_) Tree.empty
          intro d hd heq
          rw [heq, hgroup] at hd
          cases hd
      | some d =>
          refine tree?_putAll_of_mem hnodup (Tree.mem_ofMembers_iff.mpr ⟨d, hgroup, rfl⟩) ?_ rfl ?_
          · rintro ⟨k, t⟩ hy hne
            refine hspares _ hy (hkeys _ hy) fun d' hd' heq => ?_
            obtain ⟨d'', hd'', rfl⟩ := Tree.mem_ofMembers_iff.mp hy
            obtain rfl : k = l.group := heq
            rw [hgroup] at hd''
            exact absurd (Option.some.inj hd'' ▸ rfl) hne
          · intro root hroot
            rw [tree?_put_group]
            exact Tree.get?_merge_ofData d ((get?_getD_group l root).trans hroot)

lemma grouped_ofFile (origin : Option String) (hms : ∀ m ∈ ms, Names ms m) :
    Grouped (Tree.empty.putAll (Tree.ofMembers origin ms)) := by
  refine grouped_putAll ?_ (fun l t ht => by cases ht)
  rintro ⟨k, t⟩ hx
  obtain ⟨d, hd, rfl⟩ := Tree.mem_ofMembers_iff.mp hx
  rcases hms _ (mem_of_lastNamed? hd) with ⟨hgroup, hunlisted⟩ | ⟨l, hl, -⟩ | helsewhere
  · refine Or.inl ⟨hgroup, ?_⟩
    cases d with
    | list items => exact absurd rfl (hunlisted items)
    | _ => exact nofun
  · exact Or.inr (Or.inl ⟨l, hl⟩)
  · exact Or.inr (Or.inr helsewhere)

/-- Data stands for the same value when it has been put where nothing was. -/
lemma convert_of_merge {key : String} {d : Data} {v : l.Value}
    (h : l.convert key (.merge (.ofData origin d) .blank) = .ok v) :
    l.convert key (.ofData origin d) = .ok v := by
  cases d with
  | table ds =>
      rw [Tree.ofData, Tree.merge_table_blank (Tree.map_fst_ofMembers_nodup origin ds)] at h
      rw [Tree.ofData]
      cases l with
      | selection =>
          generalize Tree.ofMembers origin ds = ms at h ⊢
          rcases ms with _ | ⟨m, _ | ⟨m', ms⟩⟩ <;> exact h
      | _ => cases h
  | _ => exact h

end File

/-! ### Settings for themselves -/

lemma textsFrom_texts (key : String) (i : Nat) (origin : Option String) (ws : List (List Char)) :
    Tree.textsFrom key i (ws.map fun w => .scalar origin (.text (String.ofList w))) =
      .ok (ws.map String.ofList) := by
  induction ws generalizing i with
  | nil => rfl
  | cons w ws ih =>
      rw [List.map_cons, Tree.textsFrom, ih]
      rfl

/-- Seeds that a variable gives are the pieces of its value. -/
lemma seeds_of_variable {value : String} {seeds : List String}
    (h : Leaf.seeds.convert Leaf.seeds.key (Environment.tree Leaf.seeds.key value) = .ok seeds) :
    seeds = (Text.pieces (· == ',') value.toList).map String.ofList := by
  have hscalar : ∀ text, Environment.scalar value = .text text → text = value := by
    intro text htext
    unfold Environment.scalar at htext
    dsimp only at htext
    split_ifs at htext
    split at htext
    · cases htext
    · split at htext <;> cases htext
      rfl
  unfold Environment.tree at h
  split at h
  · next text htext =>
    rw [hscalar text htext, if_pos (by decide)] at h
    exact (Except.ok.inj (h.symm.trans (textsFrom_texts _ 0 _ _)))
  · cases h

/-- A setting is what the variable that is set for it stands for, or else what the file has for it,
or else the default. -/
def Determined (s : Surroundings) (path : Option String) (l : Leaf) (settings : Settings) : Prop :=
  match s.environment.value? l.key, inFile? s path l with
  | some value, _ => l.convert l.key (Environment.tree l.key value) = .ok (l.get settings)
  | none, some d => l.convert l.key (.ofData (path.map s.shortName) d) = .ok (l.get settings)
  | none, none => l.get settings = l.get {}

lemma determined_of_takes {s : Surroundings} {path : Option String} {settings : Settings}
    (h : l.Takes (((s.environment.value? l.key).map (Environment.tree l.key)).or
      ((inFile? s path l).map fun d => .merge (.ofData (path.map s.shortName) d) .blank)) settings) :
    Determined s path l settings := by
  unfold Determined
  cases hvalue : s.environment.value? l.key with
  | some value =>
      rw [hvalue] at h
      exact h
  | none =>
      rw [hvalue] at h
      cases hd : inFile? s path l with
      | some d =>
          rw [hd] at h
          exact convert_of_merge h
      | none =>
          rw [hd] at h
          exact h

/-- What is put together from a file and variables has each setting for itself. -/
lemma determined_of_load {s : Surroundings} {path : Option String} {settings : Settings}
    (h : load s path = .ok settings) (hfile : ∀ m ∈ fileTable s path, Names (fileTable s path) m)
    (henv : ∀ v ∈ s.environment, ∀ key ∈ Environment.key? v.1, Leads key) (l : Leaf) :
    Determined s path l settings := by
  have hkeys : ∀ x ∈ s.environment.settings,
      Leads x.1 ∧ ∀ origin ms, x.2 ≠ .table origin ms := by
    intro x hx
    obtain ⟨v, hv, hsetting⟩ := List.mem_filterMap.mp hx
    obtain ⟨key, hkey, rfl⟩ := Option.map_eq_some_iff.mp hsetting
    exact ⟨henv v hv key hkey, environmentTree_ne_table _ _⟩
  have hgrouped := grouped_putAll (fun x hx => Or.inr (hkeys x hx).1)
    (grouped_ofFile (path.map s.shortName) hfile)
  have htree := takes_of_ofTree hgrouped (ofTree_of_load h) l
  rw [tree?_putAll hkeys, lastNamed?_settings, tree?_ofFile hfile] at htree
  exact determined_of_takes htree

/-- **Settings from variables, a file and defaults.** Let settings be loaded, from a file or not,
where the names in the file are those of the two groups of settings, whose members are given by
their names, or whole keys of settings that are given nowhere else, or lead elsewhere, and the
variables are for single settings or lead elsewhere. Then each setting is determined for itself: if
a variable is set for it, it is what the value of this variable stands for; or else, if the file has
the setting, it is what the file has; or else it is the default. Seeds that a variable gives are the
pieces of its value, and none of the file. -/
theorem each_setting_for_itself {s : Surroundings} {path : Option String} {settings : Settings}
    (h : load s path = .ok settings) (hfile : ∀ m ∈ fileTable s path, Names (fileTable s path) m)
    (henv : ∀ v ∈ s.environment, ∀ key ∈ Environment.key? v.1, Leads key) :
    (∀ l, Determined s path l settings) ∧
    ∀ value, s.environment.value? Leaf.seeds.key = some value →
      settings.cluster.seeds = (Text.pieces (· == ',') value.toList).map String.ofList := by
  have hall := determined_of_load h hfile henv
  refine ⟨hall, fun value hvalue => ?_⟩
  have hseeds := hall .seeds
  rw [Determined, hvalue] at hseeds
  exact seeds_of_variable hseeds

/-- A file and variables, both of which name seeds. -/
def layered : Surroundings where
  directory := "/srv"
  files := [("strata.json", "\x7b\"cluster\": \x7b\"seeds\": [\"a\", \"b\"], \"watch\": false\x7d, " ++
    "\"logging\": \x7b\"level\": \"debug\"\x7d\x7d")]
  environment := [("STRATA_CONFIG_PATH", "strata.json"), ("STRATA_CLUSTER__SEEDS", "c,d"),
    ("STRATA_LOGGING__FORMAT", "json"), ("HOME", "/root")]

/-- What is loaded from them. -/
def layeredSettings : Settings where
  cluster := { seeds := ["c", "d"], watch := false }
  logging := { level := "debug", format := "json" }

/-- A file and some variables, each of which gives some of the settings: every setting is determined
as it should be. -/
theorem each_setting_for_itself_layered :
    load layered (some "strata.json") = .ok layeredSettings ∧
      (∀ m ∈ fileTable layered (some "strata.json"),
        Names (fileTable layered (some "strata.json")) m) ∧
      (∀ v ∈ layered.environment, ∀ key ∈ Environment.key? v.1, Leads key) ∧
      ∀ l, Determined layered (some "strata.json") l layeredSettings := by
  have hload : load layered (some "strata.json") = .ok layeredSettings := by decide +kernel
  have hfile : ∀ m ∈ fileTable layered (some "strata.json"),
      Names (fileTable layered (some "strata.json")) m := by
    decide +kernel
  have henv : ∀ v ∈ layered.environment, ∀ key ∈ Environment.key? v.1, Leads key := by
    decide +kernel
  exact ⟨hload, hfile, henv, (each_setting_for_itself hload hfile henv).1⟩

/-- In a file, a setting may stand under its whole key beside the table of its group. -/
example :
    let s : Surroundings :=
      { directory := "/srv"
        files := [("strata.json",
          "\x7b\"cluster.watch\": false, \"cluster\": \x7b\"discover\": false\x7d\x7d")]
        environment := [] }
    load s (some "strata.json") = .ok { cluster := { watch := false, discover := false } } ∧
      ∀ m ∈ fileTable s (some "strata.json"), Names (fileTable s (some "strata.json")) m := by
  decide +kernel

end Roster.Settings
