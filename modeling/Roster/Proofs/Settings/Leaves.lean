import Mathlib.Data.Fintype.OfMap
import Roster.Proofs.Lists
import Roster.Proofs.Settings.Trees
import Roster.Settings.Reading

/-!
# Single settings

The settings are ten single ones in two groups. Each is read from what a tree has under the name of
the setting, in the group that it belongs to.

* `Leaf`: the single settings, with the group and the name of each, and what its values are.
* `Leaf.Takes`: a setting is taken from data, or is the default.
* `takes_of_ofTree`: how settings are read from a tree.
-/

namespace Roster.Settings

/-! ### The single settings -/

/-- The single settings. -/
inductive Leaf
  | seeds
  | requestTimeoutMs
  | watchIntervalMs
  | discover
  | watch
  | gossipMaxAgeSecs
  | selection
  | level
  | format
  | filePath
deriving DecidableEq

namespace Leaf

/-- The settings that a setting belongs to. -/
def group : Leaf → String
  | level | format | filePath => "logging"
  | _ => "cluster"

/-- The name of a setting. -/
def name : Leaf → String
  | seeds => "seeds"
  | requestTimeoutMs => "request_timeout_ms"
  | watchIntervalMs => "watch_interval_ms"
  | discover => "discover"
  | watch => "watch"
  | gossipMaxAgeSecs => "gossip_max_age_secs"
  | selection => "selection"
  | level => "level"
  | format => "format"
  | filePath => "file_path"

instance : Fintype Leaf :=
  .ofList [seeds, requestTimeoutMs, watchIntervalMs, discover, watch, gossipMaxAgeSecs, selection,
    level, format, filePath] fun l => by cases l <;> simp

/-- The key of a setting. -/
def key (l : Leaf) : String := s!"{l.group}.{l.name}"

/-- The values of a setting. -/
def Value : Leaf → Type
  | seeds => List String
  | requestTimeoutMs | watchIntervalMs => Nat
  | discover | watch => Bool
  | gossipMaxAgeSecs => Option Nat
  | selection => Strategy
  | level | format => String
  | filePath => Option String

/-- The value that settings have for one of them. -/
def get : (l : Leaf) → Settings → l.Value
  | seeds, s => s.cluster.seeds
  | requestTimeoutMs, s => s.cluster.requestTimeoutMs
  | watchIntervalMs, s => s.cluster.watchIntervalMs
  | discover, s => s.cluster.discover
  | watch, s => s.cluster.watch
  | gossipMaxAgeSecs, s => s.cluster.gossipMaxAgeSecs
  | selection, s => s.cluster.selection
  | level, s => s.logging.level
  | format, s => s.logging.format
  | filePath, s => s.logging.filePath

/-- The value that data stands for, under a key. -/
def convert : (l : Leaf) → String → Tree → Except Mismatch l.Value
  | seeds => Tree.texts
  | requestTimeoutMs | watchIntervalMs => Tree.natural
  | discover | watch => Tree.truth
  | gossipMaxAgeSecs => Tree.optional Tree.natural
  | selection => Tree.choice "SelectionStrategy" Strategy.ofName?
  | level | format => Tree.text
  | filePath => Tree.optional Tree.text

/-- What a tree has for a setting. -/
def tree? (l : Leaf) (root : Tree) : Option Tree := (root.get? l.group).bind (·.get? l.name)

/-- A setting is taken from data, or is the default if there is none. -/
def Takes (l : Leaf) (t? : Option Tree) (s : Settings) : Prop :=
  match t? with
  | some t => l.convert l.key t = .ok (l.get s)
  | none => l.get s = l.get {}

end Leaf

/-! ### Reading a tree -/

variable {s : Settings} {root t : Tree} {l : Leaf}

/-- Data that is no list. -/
def Tree.Unlisted (t : Tree) : Prop := ∀ origin items, t ≠ .list origin items

/-- The groups of settings are no lists. -/
def Grouped (root : Tree) : Prop := ∀ (l : Leaf) t, root.get? l.group = some t → t.Unlisted

/-- A setting is looked for under its name. -/
lemma takes_of_get {kind : String} {find : Finder} {i : Nat} {v : l.Value} (ht : t.Unlisted)
    (hfind : t.finder kind l.group = .ok find)
    (h : find.get i l.name (l.get {}) l.convert = .ok v) (hv : v = l.get s) :
    l.Takes (t.get? l.name) s := by
  cases t with
  | scalar => cases hfind
  | list origin items => exact absurd rfl (ht origin items)
  | table origin ms =>
      cases hfind
      subst hv
      unfold Finder.get at h
      unfold Leaf.Takes Tree.get? Tree.asTable
      dsimp only at h ⊢
      cases hms : ms.find? fun m => m.1 == l.name with
      | none =>
          rw [hms] at h
          exact (Except.ok.inj h).symm
      | some m =>
          rw [hms] at h
          exact h

lemma takes_of_clusterOfTree (ht : t.Unlisted)
    (h : ClusterSettings.ofTree "cluster" t = .ok s.cluster) (hl : l.group = "cluster") :
    l.Takes (t.get? l.name) s := by
  obtain ⟨find, hfind, h⟩ := bind_eq_ok_iff.mp h
  obtain ⟨seeds, hseeds, h⟩ := bind_eq_ok_iff.mp h
  obtain ⟨requestTimeoutMs, hrequestTimeoutMs, h⟩ := bind_eq_ok_iff.mp h
  obtain ⟨watchIntervalMs, hwatchIntervalMs, h⟩ := bind_eq_ok_iff.mp h
  obtain ⟨discover, hdiscover, h⟩ := bind_eq_ok_iff.mp h
  obtain ⟨watch, hwatch, h⟩ := bind_eq_ok_iff.mp h
  obtain ⟨gossipMaxAgeSecs, hgossipMaxAgeSecs, h⟩ := bind_eq_ok_iff.mp h
  obtain ⟨selection, hselection, h⟩ := bind_eq_ok_iff.mp h
  have hs := Except.ok.inj h
  cases l with
  | seeds => exact takes_of_get ht hfind hseeds (congrArg ClusterSettings.seeds hs)
  | requestTimeoutMs =>
      exact takes_of_get ht hfind hrequestTimeoutMs (congrArg ClusterSettings.requestTimeoutMs hs)
  | watchIntervalMs =>
      exact takes_of_get ht hfind hwatchIntervalMs (congrArg ClusterSettings.watchIntervalMs hs)
  | discover => exact takes_of_get ht hfind hdiscover (congrArg ClusterSettings.discover hs)
  | watch => exact takes_of_get ht hfind hwatch (congrArg ClusterSettings.watch hs)
  | gossipMaxAgeSecs =>
      exact takes_of_get ht hfind hgossipMaxAgeSecs (congrArg ClusterSettings.gossipMaxAgeSecs hs)
  | selection => exact takes_of_get ht hfind hselection (congrArg ClusterSettings.selection hs)
  | level | format | filePath => exact absurd hl (by decide)

lemma takes_of_loggingOfTree (ht : t.Unlisted)
    (h : LoggingSettings.ofTree "logging" t = .ok s.logging) (hl : l.group = "logging") :
    l.Takes (t.get? l.name) s := by
  obtain ⟨find, hfind, h⟩ := bind_eq_ok_iff.mp h
  obtain ⟨level, hlevel, h⟩ := bind_eq_ok_iff.mp h
  obtain ⟨format, hformat, h⟩ := bind_eq_ok_iff.mp h
  obtain ⟨filePath, hfilePath, h⟩ := bind_eq_ok_iff.mp h
  have hs := Except.ok.inj h
  cases l with
  | level => exact takes_of_get ht hfind hlevel (congrArg LoggingSettings.level hs)
  | format => exact takes_of_get ht hfind hformat (congrArg LoggingSettings.format hs)
  | filePath => exact takes_of_get ht hfind hfilePath (congrArg LoggingSettings.filePath hs)
  | _ => exact absurd hl (by decide)

/-- Every setting is taken from what the tree has for it. -/
theorem takes_of_ofTree (hroot : Grouped root) (h : Settings.ofTree root = .ok s) (l : Leaf) :
    l.Takes (l.tree? root) s := by
  have hget : ∀ {α : Type} {i : Nat} {g : String} {d v : α} {convert},
      Finder.get (fun _ name => (root.asTable.2.find? fun m => m.1 == name).map fun m => (name, m.2))
        i g d convert = .ok v →
      (∃ t, root.get? g = some t ∧ convert g t = .ok v) ∨ root.get? g = none ∧ v = d := by
    intro α i g d v convert hv
    unfold Finder.get at hv
    unfold Tree.get?
    dsimp only at hv
    cases hms : root.asTable.2.find? fun m => m.1 == g with
    | none =>
        rw [hms] at hv
        exact Or.inr ⟨rfl, (Except.ok.inj hv).symm⟩
    | some m =>
        rw [hms] at hv
        exact Or.inl ⟨m.2, rfl, hv⟩
  obtain ⟨cluster, hcluster, h⟩ := bind_eq_ok_iff.mp h
  obtain ⟨logging, hlogging, h⟩ := bind_eq_ok_iff.mp h
  obtain rfl := Except.ok.inj h
  have hgroup : l.group = "cluster" ∨ l.group = "logging" := by cases l <;> decide
  have hunlisted := hroot l
  unfold Leaf.tree?
  rcases hgroup with hl | hl <;> rw [hl] at hunlisted ⊢
  · rcases hget hcluster with ⟨t, ht, hread⟩ | ⟨hnone, rfl⟩
    · rw [ht]
      exact takes_of_clusterOfTree (hunlisted t ht) hread hl
    · rw [hnone]
      cases l <;> first | rfl | exact absurd hl (by decide)
  · rcases hget hlogging with ⟨t, ht, hread⟩ | ⟨hnone, rfl⟩
    · rw [ht]
      exact takes_of_loggingOfTree (hunlisted t ht) hread hl
    · rw [hnone]
      cases l <;> first | rfl | exact absurd hl (by decide)

end Roster.Settings
