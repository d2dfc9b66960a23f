import Roster.Proofs.Number.Decimal
import Roster.Proofs.Settings.Layers

/-!
# Values of variables

What becomes of the value of a variable if no other setting is given. Whether it stands for a truth
value or a number is asked first, of every value and for every setting. So seeds are taken as they
are, unless there is only one and it could be a truth value or a number, and then nothing is loaded;
and a text that could be one of these is replaced by the usual text of what it stands for.

* `Text.pieces_intercalate`: texts that are put together with commas are the pieces again.
* `Guessed`: the values that are taken for truth values or numbers. `scalar_cases`: what for.
* `textOf`: the text that a value is taken as.
* `load_alone`: what is loaded if only one variable is set.
* `number_of_digits`: a setting that is a number is the one whose digits its variable holds.
* `values_taken`: what becomes of seeds and of the path of the log file.
-/

namespace Roster

namespace Text

lemma pieces_eq_splitOn (sep : Char) (cs : List Char) : pieces (· == sep) cs = cs.splitOn sep := by
  induction cs with
  | nil => rfl
  | cons c cs ih =>
      rw [pieces, ih, List.splitOn_cons_eq_if_modifyHead]
      split_ifs
      · rfl
      · cases hcs : cs.splitOn sep with
        | nil => exact absurd hcs (List.splitOn_ne_nil _ _)
        | cons w ws => rfl

/-- Texts without commas are the pieces of what they make up with commas between them. -/
lemma pieces_intercalate {ws : List String} (hne : ws ≠ []) (hws : ∀ w ∈ ws, ',' ∉ w.toList) :
    (pieces (· == ',') (",".intercalate ws).toList).map String.ofList = ws := by
  have hsplit : ((",".intercalate ws).toList).splitOn ',' = ws.map String.toList := by
    rw [String.toList_intercalate]
    exact List.splitOn_intercalate ',' (by simpa using hws) (by simpa using hne)
  rw [pieces_eq_splitOn, hsplit, List.map_map]
  simp [Function.comp_def]

/-- In lower case a comma is still there. -/
lemma comma_mem_lowerBehind {past cs : List Char} (h : ',' ∈ cs) : ',' ∈ lowerBehind past cs := by
  induction cs generalizing past with
  | nil => cases h
  | cons c cs ih =>
      rw [lowerBehind]
      rcases List.mem_cons.mp h with rfl | h
      · exact List.mem_append_left _ (by simp [lowerChar])
      · exact List.mem_append_right _ (ih h)

end Text

/-- There is no comma in the text of a number. -/
lemma Binary64.Numeral.comma_notMem {cs : List Char} (h : Numeral cs) : ',' ∉ cs := by
  have hdigits : ∀ {ds : List Char}, (∀ c ∈ ds, c.isDigit = true) → ',' ∉ ds :=
    fun hds hmem => absurd (hds _ hmem) (by decide)
  have hsign : ∀ {sign}, Sign sign → ',' ∉ sign := by
    rintro _ (_ | _ | _) <;> simp
  have htail : ∀ {tail}, Exponent tail → ',' ∉ tail := by
    rintro _ (_ | ⟨hmark, hs, hds⟩)
    · simp
    · rcases hmark with rfl | rfl <;> simp [hsign hs, hdigits hds.2]
  obtain ⟨hs, hbody⟩ := h
  rw [List.mem_append, not_or]
  refine ⟨hsign hs, ?_⟩
  cases hbody with
  | word hword =>
      intro hmem
      have hlower := List.mem_map_of_mem (f := Char.toLower) hmem
      simp only [words, List.mem_cons, List.not_mem_nil, or_false] at hword
      rcases hword with heq | heq | heq <;> rw [heq] at hlower <;> revert hlower <;> decide
  | whole hds ht => simp [hdigits hds.2, htail ht]
  | pointed hds hpart _ ht => simp [hdigits hds, hdigits hpart, htail ht]

namespace Settings

namespace Environment

variable {v : String}

/-! ### What values are taken for -/

/-- The text of a truth value. -/
def truthText (b : Bool) : String := if b then "true" else "false"

/-- The text of a number is no truth value in any case. -/
lemma lower_ne_truthText {cs : List Char} (h : Binary64.Numeral cs) (b : Bool) :
    Text.lower cs ≠ (truthText b).toList := by
  obtain ⟨c, rest, rfl, hascii, htrue, hfalse⟩ := h.exists_cons
  have hsigma : (c == 'Σ') = false := by
    rw [beq_eq_false_iff_ne]
    rintro rfl
    exact absurd hascii (by decide)
  rw [Text.lower, Text.lowerBehind, hsigma, Text.lowerChar, if_pos hascii]
  cases b <;> simp [truthText, htrue, hfalse]

/-- A value that is taken for a truth value or a number. -/
def Guessed (v : String) : Prop :=
  (∃ b, Text.lower v.toList = (truthText b).toList) ∨ Binary64.Numeral v.toList

/-- What a value stands for: a truth value, a whole number, another number, or else itself. -/
lemma scalar_cases (v : String) :
    (∃ b, Text.lower v.toList = (truthText b).toList ∧ scalar v = .bool b) ∨
    (∃ n, integer? v.toList = some n ∧ scalar v = .integer n) ∨
    (∃ x, integer? v.toList = none ∧ Binary64.ofText? v.toList = some x ∧ scalar v = .decimal x) ∨
    ¬Guessed v ∧ scalar v = .text v := by
  rw [scalar]
  split_ifs with htrue hfalse
  · exact Or.inl ⟨true, htrue, rfl⟩
  · exact Or.inl ⟨false, hfalse, rfl⟩
  · split
    · next n hn => exact Or.inr (Or.inl ⟨n, hn, rfl⟩)
    · next hnone =>
      split
      · next x hx => exact Or.inr (Or.inr (Or.inl ⟨x, hnone, hx, rfl⟩))
      · next hnone' =>
        refine Or.inr (Or.inr (Or.inr ⟨?_, rfl⟩))
        rintro (⟨b, hb⟩ | hnumeral)
        · cases b with
          | true => exact htrue hb
          | false => exact hfalse hb
        · rw [← Binary64.isSome_ofText?_iff, hnone'] at hnumeral
          cases hnumeral

lemma scalar_eq_text (h : ¬Guessed v) : scalar v = .text v := by
  rcases scalar_cases v with ⟨b, hb, -⟩ | ⟨n, hn, -⟩ | ⟨x, -, hx, -⟩ | ⟨-, hscalar⟩
  · exact absurd (Or.inl ⟨b, hb⟩) h
  · exact absurd (Or.inr (numeral_of_integer? hn)) h
  · exact absurd (Or.inr (Binary64.isSome_ofText?_iff.mp (by rw [hx]; rfl))) h
  · exact hscalar

lemma scalar_ne_text (h : Guessed v) (w : String) : scalar v ≠ .text w := by
  rcases scalar_cases v with ⟨b, -, hv⟩ | ⟨n, -, hv⟩ | ⟨x, -, -, hv⟩ | ⟨hnot, -⟩
  · rw [hv]
    nofun
  · rw [hv]
    nofun
  · rw [hv]
    nofun
  · exact absurd h hnot

/-- What could be something else, or is for a setting that is no list, is not taken apart. -/
lemma tree_eq_scalar {key : String} (h : Guessed v ∨ key ∉ lists) :
    tree key v = .scalar origin (scalar v) := by
  rw [tree]
  split
  · next w hw =>
    rcases h with hv | hkey
    · exact absurd hw (scalar_ne_text hv w)
    · rw [hw, if_neg (by simpa using hkey)]
  · rfl

/-- A value with a comma in it stands for itself. -/
lemma not_guessed_of_comma (h : ',' ∈ v.toList) : ¬Guessed v := by
  rintro (⟨b, hb⟩ | hnumeral)
  · have hmem : ',' ∈ Text.lower v.toList := Text.comma_mem_lowerBehind h
    rw [hb] at hmem
    cases b <;> revert hmem <;> decide
  · exact hnumeral.comma_notMem h

instance (v : String) : Decidable (Guessed v) :=
  @instDecidableOr _ _ inferInstance (decidable_of_iff _ Binary64.isSome_ofText?_iff)

/-! ### Texts that are taken from values -/

/-- The text that a value is taken as: the usual one of what it stands for. -/
def textOf (v : String) : String :=
  match scalar v with
  | .null => ""
  | .bool b => truthText b
  | .integer n => integerText n
  | .decimal x => x.text
  | .text w => w

/-- A value that is the usual text of what it stands for. -/
def Usual (v : String) : Prop :=
  (∃ b, v = truthText b) ∨ (∃ n, Document.fitsInteger n = true ∧ v = integerText n) ∨
    ∃ x, integer? v.toList = none ∧ Binary64.ofText? v.toList = some x ∧ v = x.text

lemma text_scalar (key v : String) :
    Tree.text key (.scalar origin (scalar v)) = .ok (textOf v) := by
  rcases scalar_cases v with ⟨b, -, hv⟩ | ⟨n, -, hv⟩ | ⟨x, -, -, hv⟩ | ⟨-, hv⟩ <;>
    rw [textOf, hv] <;> rfl

lemma scalar_truthText (b : Bool) : scalar (truthText b) = .bool b := by cases b <;> decide

/-- The text of a whole number stands for it. -/
lemma scalar_of_integer? {n : Int} (h : integer? v.toList = some n) : scalar v = .integer n := by
  rcases scalar_cases v with ⟨b, hb, -⟩ | ⟨m, hm, hv⟩ | ⟨x, hnone, -⟩ | ⟨hnot, -⟩
  · exact absurd hb (lower_ne_truthText (numeral_of_integer? h) b)
  · rw [h] at hm
    rw [hv, Option.some.inj hm]
  · rw [h] at hnone
    cases hnone
  · exact absurd (Or.inr (numeral_of_integer? h)) hnot

lemma scalar_integerText {n : Int} (hn : Document.fitsInteger n = true) :
    scalar (integerText n) = .integer n :=
  scalar_of_integer? (integer?_integerText hn)

/-- A value is taken as it is if it stands for itself or is the usual text of what it stands for. -/
lemma textOf_eq_self_iff : textOf v = v ↔ ¬Guessed v ∨ Usual v := by
  constructor
  · intro h
    by_cases hv : Guessed v
    · right
      rcases scalar_cases v with ⟨b, -, hv⟩ | ⟨n, hn, hv⟩ | ⟨x, hnone, hx, hv⟩ | ⟨hnot, -⟩
      · rw [textOf, hv] at h
        exact Or.inl ⟨b, h.symm⟩
      · rw [textOf, hv] at h
        exact Or.inr (Or.inl ⟨n, fitsInteger_of_integer? hn, h.symm⟩)
      · rw [textOf, hv] at h
        exact Or.inr (Or.inr ⟨x, hnone, hx, h.symm⟩)
      · exact absurd hv hnot
    · exact Or.inl hv
  · rintro (hnot | ⟨b, rfl⟩ | ⟨n, hn, rfl⟩ | ⟨x, hnone, hx, hv⟩)
    · rw [textOf, scalar_eq_text hnot]
    · rw [textOf, scalar_truthText]
    · rw [textOf, scalar_integerText hn]
    · have hnumeral := Binary64.isSome_ofText?_iff.mp (Option.isSome_iff_exists.mpr ⟨x, hx⟩)
      rcases scalar_cases v with ⟨b, hb, -⟩ | ⟨n, hn, -⟩ | ⟨y, -, hy, hscalar⟩ | ⟨hnot, -⟩
      · exact absurd hb (lower_ne_truthText hnumeral b)
      · rw [hn] at hnone
        cases hnone
      · rw [hx] at hy
        rw [textOf, hscalar, ← Option.some.inj hy]
        exact hv.symm
      · exact absurd (Or.inr hnumeral) hnot

end Environment

/-! ### Settings that are numbers -/

/-- The number that the value of a setting is, if it is one. -/
def Leaf.number? : (l : Leaf) → l.Value → Option Nat
  | .requestTimeoutMs, n | .watchIntervalMs, n => some n
  | .gossipMaxAgeSecs, n => n
  | _, _ => none

/-- A setting whose values are numbers. -/
def Leaf.Numeric (l : Leaf) : Prop :=
  l = requestTimeoutMs ∨ l = watchIntervalMs ∨ l = gossipMaxAgeSecs

/-- The digits of a number stand for it, in a setting that is a number. -/
lemma exists_convert_of_digits {l : Leaf} {v : String} {n : Nat} (hl : l.Numeric)
    (hv : Text.decimal? v.toList = some n) (hn : n < 2 ^ 63) :
    ∃ a, l.convert l.key (Environment.tree l.key v) = .ok a ∧ l.number? a = some n := by
  have hfits : Document.fitsInteger (n : Int) = true := by
    simp [Document.fitsInteger]
    omega
  have hscalar := Environment.scalar_of_integer? (Environment.integer?_of_decimal? hv hfits)
  have hsingle : l.key ∉ Environment.lists := by
    rcases hl with rfl | rfl | rfl <;> decide
  have hnatural : Tree.natural l.key (.scalar Environment.origin (.integer n)) = .ok n := by
    simp [Tree.natural]
  rw [Environment.tree_eq_scalar (Or.inr hsingle), hscalar]
  rcases hl with rfl | rfl | rfl
  · exact ⟨n, hnatural, rfl⟩
  · exact ⟨n, hnatural, rfl⟩
  · exact ⟨some n, congrArg (Except.map some) hnatural, rfl⟩

/-! ### One setting alone -/

/-- The settings if only one is given. -/
def Leaf.alone : (l : Leaf) → l.Value → Settings
  | .seeds, v => { cluster := { seeds := v } }
  | .requestTimeoutMs, v => { cluster := { requestTimeoutMs := v } }
  | .watchIntervalMs, v => { cluster := { watchIntervalMs := v } }
  | .discover, v => { cluster := { discover := v } }
  | .watch, v => { cluster := { watch := v } }
  | .gossipMaxAgeSecs, v => { cluster := { gossipMaxAgeSecs := v } }
  | .selection, v => { cluster := { selection := v } }
  | .level, v => { logging := { level := v } }
  | .format, v => { logging := { format := v } }
  | .filePath, v => { logging := { filePath := v } }

lemma ofTree_alone (l : Leaf) (t : Tree) :
    Settings.ofTree (.table none [(l.group, .table none [(l.name, t)])]) =
      (l.convert l.key t).map l.alone := by
  cases l <;>
    simp [Settings.ofTree, ClusterSettings.ofTree, LoggingSettings.ofTree, Tree.asTable,
      Tree.finder, Finder.get, Leaf.group, Leaf.name, Leaf.key, Leaf.convert, Leaf.alone, bind,
      pure, Except.bind, Except.pure, Except.map]
  case seeds => cases Tree.texts _ t <;> rfl
  case discover | watch => cases Tree.truth _ t <;> rfl
  case requestTimeoutMs | watchIntervalMs => cases Tree.natural _ t <;> rfl
  case gossipMaxAgeSecs => cases Tree.optional _ _ t <;> rfl
  case selection =>
    unfold Leaf.Value
    cases Tree.choice _ _ _ t <;> rfl
  case level | format => cases Tree.text _ t <;> rfl
  case filePath => cases Tree.optional _ _ t <;> rfl

/-- Only one variable is for a setting. -/
def Environment.SetsOnly (env : Environment) (l : Leaf) (value : String) : Prop :=
  env.filterMap (fun v => (Environment.key? v.1).map (·, v.2)) = [(l.key, value)]

instance (env : Environment) (l : Leaf) (value : String) : Decidable (env.SetsOnly l value) := by
  rw [Environment.SetsOnly]
  infer_instance

/-- Settings of which only one is given are loaded if it can be converted. -/
lemma load_alone {s : Surroundings} {l : Leaf} {value : String}
    (h : s.environment.SetsOnly l value) :
    load s none = ((l.convert l.key (Environment.tree l.key value)).map l.alone).mapError
      .unsuitable := by
  have hsettings : s.environment.settings = [(l.key, Environment.tree l.key value)] := by
    have hmap := congrArg (List.map fun x => (x.1, Environment.tree x.1 x.2)) h
    rw [List.map_filterMap] at hmap
    simp only [Option.map_map] at hmap
    exact hmap
  have hput : Tree.empty.put (.ofText l.key) (Environment.tree l.key value) =
      .table none [(l.group, .table none [(l.name, Environment.tree l.key value)])] := by
    rw [Tree.put, ofText_key]
    show Tree.table none [(l.group, .table none [(l.name, Tree.merge _ .blank)])] = _
    rw [Tree.merge_eq_self (environmentTree_ne_table _ _)]
  rw [← ofTree_alone, ← hput]
  show (Settings.ofTree ((Tree.empty.putAll []).putAll s.environment.settings)).mapError _ = _
  rw [hsettings]
  rfl

/-- **Numbers of variables.** Let the value of the variable for a setting that is a number be the
digits of a number below `2 ^ 63`, with or without zeros in front. If settings are loaded, from a
file and other variables as it may be, the setting is this number; and settings are loaded if there
is no other variable and no file, with this number and all else as by default. -/
theorem number_of_digits {s : Surroundings} {l : Leaf} {v : String} {n : Nat} (hl : l.Numeric)
    (hv : Text.decimal? v.toList = some n) (hn : n < 2 ^ 63) :
    (∀ path settings, load s path = .ok settings →
      (∀ m ∈ fileTable s path, Names (fileTable s path) m) →
      (∀ v ∈ s.environment, ∀ key ∈ Environment.key? v.1, Leads key) →
      s.environment.value? l.key = some v → l.number? (l.get settings) = some n) ∧
    (s.environment.SetsOnly l v → ∃ a, load s none = .ok (l.alone a) ∧ l.number? a = some n) := by
  obtain ⟨a, ha, hnumber⟩ := exists_convert_of_digits hl hv hn
  refine ⟨fun path settings h hfile henv hvalue => ?_, fun hset => ⟨a, ?_, hnumber⟩⟩
  · have hdetermined := determined_of_load h hfile henv l
    rw [Determined, hvalue] at hdetermined
    rw [← Except.ok.inj (ha.symm.trans hdetermined)]
    exact hnumber
  · rw [load_alone hset, ha]
    rfl

/-- Zeros in front of a number do not matter, and from `2 ^ 63` on a number is rounded. -/
example :
    let env (v : String) : Surroundings :=
      { directory := "/srv", files := [], environment := [("STRATA_CLUSTER__WATCH_INTERVAL_MS", v)] }
    load (env "0250") none = .ok { cluster := { watchIntervalMs := 250 } } ∧
      load (env "9223372036854775809") none =
        .ok { cluster := { watchIntervalMs := 9223372036854775808 } } := by
  decide +kernel

section Alone

variable {s : Surroundings} {v : String} {ws : List String}

/-- A value that stands for itself is a list of seeds. -/
lemma load_seeds (h : s.environment.SetsOnly .seeds v) (hv : ¬Environment.Guessed v) :
    load s none = .ok
      { cluster := { seeds := (Text.pieces (· == ',') v.toList).map String.ofList } } := by
  have htree : Environment.tree Leaf.seeds.key v = .list Environment.origin
      ((Text.pieces (· == ',') v.toList).map fun w =>
        .scalar Environment.origin (.text (String.ofList w))) := by
    rw [Environment.tree, Environment.scalar_eq_text hv]
    exact if_pos (by decide)
  rw [load_alone h, htree]
  show ((Tree.textsFrom _ 0 _).map _).mapError _ = _
  rw [textsFrom_texts]
  rfl

/-- A value that stands for something else is none. -/
lemma load_seeds_of_guessed (h : s.environment.SetsOnly .seeds v) (hv : Environment.Guessed v) :
    load s none = .error (.unsuitable
      ⟨.wrongKind (Tree.scalar none (Environment.scalar v)).found "a sequence", Leaf.seeds.key,
        none⟩) := by
  rw [load_alone h, Environment.tree_eq_scalar (Or.inl hv)]
  cases Environment.scalar v <;> rfl

/-- Every value is a path, but not always the one that it is itself. -/
lemma load_filePath (h : s.environment.SetsOnly .filePath v) :
    load s none = .ok { logging := { filePath := some (Environment.textOf v) } } := by
  have hpath : Tree.optional Tree.text Leaf.filePath.key
      (.scalar Environment.origin (Environment.scalar v)) =
        .ok (some (Environment.textOf v)) := by
    have htext := Environment.text_scalar Leaf.filePath.key v
    rcases Environment.scalar_cases v with ⟨b, -, hv⟩ | ⟨n, -, hv⟩ | ⟨x, -, -, hv⟩ | ⟨-, hv⟩ <;>
      rw [hv] at htext ⊢ <;> exact congrArg (Except.map some) htext
  rw [load_alone h, Environment.tree_eq_scalar (Or.inr (by decide))]
  show ((Tree.optional Tree.text Leaf.filePath.key _).map _).mapError _ = _
  rw [hpath]
  rfl

/-- **Values of variables.** Let only the seeds be given by a variable, as texts without commas
that are put together with commas. Then these texts are loaded as the seeds, unless there is only
one and it could be a truth value or a number, and then nothing is loaded, because the value is no
list. Let only the path of the log file be given by a variable. Then settings are loaded and there
is a path, which is the value if this could be no truth value and no number, or if it is the usual
text of what it could be, and which is another text otherwise. -/
theorem values_taken (s : Surroundings) :
    (∀ ws : List String, ws ≠ [] → (∀ w ∈ ws, ',' ∉ w.toList) →
      s.environment.SetsOnly .seeds (",".intercalate ws) →
      (load s none = .ok { cluster := { seeds := ws } } ↔
        ¬∃ w, ws = [w] ∧ Environment.Guessed w) ∧
      ∀ w, ws = [w] → Environment.Guessed w →
        load s none = .error (.unsuitable
          ⟨.wrongKind (Tree.scalar none (Environment.scalar w)).found "a sequence",
            Leaf.seeds.key, none⟩)) ∧
    ∀ v, s.environment.SetsOnly .filePath v →
      load s none = .ok { logging := { filePath := some (Environment.textOf v) } } ∧
      (Environment.textOf v = v ↔ ¬Environment.Guessed v ∨ Environment.Usual v) := by
  refine ⟨fun ws hne hws hseeds => ?_, fun v hpath =>
    ⟨load_filePath hpath, Environment.textOf_eq_self_iff⟩⟩
  have hfails : ∀ w, ws = [w] → Environment.Guessed w →
      load s none = .error (.unsuitable
        ⟨.wrongKind (Tree.scalar none (Environment.scalar w)).found "a sequence",
          Leaf.seeds.key, none⟩) := by
    rintro w rfl hw
    rw [String.intercalate_singleton] at hseeds
    exact load_seeds_of_guessed hseeds hw
  refine ⟨⟨?_, fun hnot => ?_⟩, hfails⟩
  · rintro hload ⟨w, hone, hw⟩
    rw [hfails w hone hw] at hload
    cases hload
  · have hvalue : ¬Environment.Guessed (",".intercalate ws) := by
      match ws, hne with
      | [w], _ =>
        rw [String.intercalate_singleton]
        exact fun hw => hnot ⟨w, rfl, hw⟩
      | w :: w' :: ws, _ =>
        refine Environment.not_guessed_of_comma ?_
        rw [String.toList_intercalate]
        simp [List.intercalate]
    rw [load_seeds hseeds hvalue, Text.pieces_intercalate hne hws]

/-- Seeds, one of which could be a number if it were the only one. -/
def severalSeeds : Surroundings where
  directory := "/srv"
  files := []
  environment := [("STRATA_CLUSTER__SEEDS", "10.0.0.1:8112,7"), ("HOME", "/root")]

/-- A name of a log file that could be a number. -/
def numberedLog : Surroundings where
  directory := "/srv"
  files := []
  environment := [("strata_logging__file_path", "007")]

/-- Two seeds are taken as they are, also if one of them is a number; a path that is a number is not
taken as it is if it has zeros in front. -/
theorem values_taken_several :
    load severalSeeds none = .ok { cluster := { seeds := ["10.0.0.1:8112", "7"] } } ∧
      load numberedLog none = .ok { logging := { filePath := some "7" } } ∧
      ¬(¬Environment.Guessed "007" ∨ Environment.Usual "007") := by
  have hseeds := (values_taken severalSeeds).1 ["10.0.0.1:8112", "7"] (by decide) (by decide)
    (by decide +kernel)
  have hpath := (values_taken numberedLog).2 "007" (by decide +kernel)
  have htext : Environment.textOf "007" = "7" := by decide +kernel
  rw [htext] at hpath
  exact ⟨hseeds.1.mpr (by simp), hpath.1, fun h => absurd (hpath.2.mpr h) (by decide)⟩

/-- One seed that is a number. -/
def onlySeed : Surroundings where
  directory := "/srv"
  files := []
  environment := [("STRATA_CLUSTER__SEEDS", "8112")]

/-- The one seed that a variable lists, and the one path that another one gives, are not taken as
they are. -/
theorem not_taken_onlySeed :
    onlySeed.environment.SetsOnly .seeds (",".intercalate ["8112"]) ∧
      load onlySeed none ≠ .ok { cluster := { seeds := ["8112"] } } ∧
      numberedLog.environment.SetsOnly .filePath "007" ∧
      load numberedLog none ≠ .ok { logging := { filePath := some "007" } } := by
  decide +kernel

end Alone

end Settings

end Roster
