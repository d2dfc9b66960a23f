import Mathlib.Data.Bool.AllAny
import Mathlib.Tactic.ByContra
import Mathlib.Tactic.SplitIfs
import Roster.Domain.Name
import Roster.Proofs.Text.Utf8
import Roster.Text.Percent

/-!
# Names without separators

The characters that separate the parts of an address from each other never get into a name. None of
the steps on the way to the ASCII form of a name loses one of them: they stand for themselves as
percent triplets do not, they are bytes of their own, no rule maps them, they make up no common
character with a mark, and a label in code keeps them in front. So they are still there in the end,
where they are forbidden.

* `separators`: these characters.
* `Composition.Lone`: a character that stays as it is in every normal form; `Lone.mem_normal`.
* `Name.ofBytes?_of_separator`: a text with a separator is no name.
-/

namespace Roster

/-- The characters that separate the parts of an address. -/
def Domain.separators : List Char := ['#', '/', ':', '?', '@', '[', '\\', ']']

namespace Text

variable {c : Char} {cs : List Char}

/-! ### Bytes -/

/-- A character that is neither a percent sign nor a digit of a triplet is still there as bytes. -/
lemma Percent.mem_decode (hpercent : c ≠ '%') (hdigit : Percent.digit? c = none) (h : c ∈ cs) :
    ∀ b ∈ String.utf8EncodeChar c, b ∈ Percent.decode cs := by
  intro b hb
  fun_induction Percent.decode cs with
  | case1 => cases h
  | case2 x y cs m n hx hy ih =>
      -- A triplet has no room for the character.
      rcases List.mem_cons.mp h with rfl | h
      · exact absurd rfl hpercent
      rcases List.mem_cons.mp h with rfl | h
      · exact absurd (hdigit.symm.trans hy) (by simp)
      rcases List.mem_cons.mp h with rfl | h
      · exact absurd (hdigit.symm.trans hx) (by simp)
      exact List.mem_cons_of_mem _ (ih h)
  | case3 x y cs _ ih =>
      rcases List.mem_cons.mp h with rfl | h
      · exact absurd rfl hpercent
      · exact List.mem_cons_of_mem _ (ih h)
  | case4 d cs _ ih =>
      rcases List.mem_cons.mp h with rfl | h
      · exact List.mem_append_left _ hb
      · exact List.mem_append_right _ (ih h)

/-! ### Runs and pieces -/

namespace Runs

variable {α : Type} {value : List Char → α} {start : Nat} {e : Nat × α} {ws : List (List Char)}

/-- The value on a run is that of a word. -/
lemma exists_of_mem_ofWords (h : e ∈ ofWords value start ws) :
    ∃ w ∈ ws, e.2 = value (cutLength w).2 := by
  induction ws generalizing start with
  | nil => cases h
  | cons w ws ih =>
      rcases List.mem_cons.mp h with rfl | h
      · exact ⟨w, List.mem_cons_self, rfl⟩
      · obtain ⟨v, hv, heq⟩ := ih h
        exact ⟨v, List.mem_cons_of_mem _ hv, heq⟩

/-- No run ends before the first one. -/
lemma le_of_mem_ofWords {w : List Char} (hhead : ws.head? = some w)
    (h : e ∈ ofWords value start ws) : start + (cutLength w).1 ≤ e.1 := by
  induction ws generalizing start w with
  | nil => cases h
  | cons v ws ih =>
      cases hhead
      rcases List.mem_cons.mp h with rfl | h
      · exact Nat.le_refl _
      · cases ws with
        | nil => cases h
        | cons u us => exact Nat.le_trans (Nat.le_add_right _ _) (ih rfl h)

end Runs


/-- What separates nothing is in one of the pieces. -/
lemma exists_mem_pieces {p : Char → Bool} (hc : p c = false) (h : c ∈ cs) :
    ∃ w ∈ pieces p cs, c ∈ w := by
  induction cs with
  | nil => cases h
  | cons d cs ih =>
      rw [pieces]
      split_ifs with hd
      · rcases List.mem_cons.mp h with rfl | h
        · rw [hc] at hd
          cases hd
        · obtain ⟨w, hw, hmem⟩ := ih h
          exact ⟨w, List.mem_cons_of_mem _ hw, hmem⟩
      · cases hps : pieces p cs with
        | nil => exact absurd hps (pieces_ne_nil p cs)
        | cons v vs =>
            rw [hps] at ih
            rcases List.mem_cons.mp h with rfl | h
            · exact ⟨c :: v, List.mem_cons_self, List.mem_cons_self⟩
            · obtain ⟨w, hw, hmem⟩ := ih h
              rcases List.mem_cons.mp hw with rfl | hw
              · exact ⟨d :: w, List.mem_cons_self, List.mem_cons_of_mem _ hmem⟩
              · exact ⟨w, List.mem_cons_of_mem _ hw, hmem⟩

lemma mem_joined {sep : Char} {w : List Char} {ws : List (List Char)} (hw : w ∈ ws) (hc : c ∈ w) :
    c ∈ joined sep ws := by
  fun_induction joined sep ws with
  | case1 => cases hw
  | case2 v =>
      rw [List.mem_singleton.mp hw] at hc
      exact hc
  | case3 v u us ih =>
      rcases List.mem_cons.mp hw with rfl | hw
      · exact List.mem_append_left _ hc
      · exact List.mem_append_right _ (List.mem_cons_of_mem _ (ih hw))

end Text

namespace Domain

variable {c : Char} {cs ds : List Char}

lemma toNat_of_mem_separators : ∀ c ∈ separators, c.toNat < 0x80 :=
  List.all_iff_forall_prop.mp (by decide)

/-! ### Mapping -/

/-- A character of ASCII that is no capital letter is kept by the rules. -/
lemma Mapping.mem_of_mapText? (hascii : c.toNat < 0x80) (hlower : c.toLower = c) (h : c ∈ cs)
    (hmap : Mapping.mapText? cs = some ds) : c ∈ ds := by
  obtain ⟨parts, hparts, rfl⟩ := Option.map_eq_some_iff.mp hmap
  obtain ⟨part, hpart, hc⟩ := exists_of_forall₂ (mapM_eq_some_iff.mp hparts) h
  rw [Mapping.mapChar?, if_pos hascii, hlower] at hc
  cases hc
  exact List.mem_flatten.mpr ⟨[c], hpart, List.mem_cons_self⟩

/-! ### Normal forms -/

namespace Composition

/-- A character that stays as it is in every normal form: it has no parts, is no mark, and makes up
no common character with another one. -/
structure Lone (c : Char) : Prop where
  whole : ∀ depth, decomposeChar depth c = [c]
  letter : combiningClass c = 0
  notFirst : ∀ d, pair? c d = none
  notSecond : ∀ d, pair? d c = none

lemma mem_place {d : Char} (h : c = d ∨ c ∈ cs) : c ∈ place d cs := by
  induction cs with
  | nil => simpa [place] using h
  | cons e cs ih =>
      rw [place]
      split_ifs
      · rcases h with h | h
        · exact List.mem_cons_of_mem _ (ih (Or.inl h))
        · rcases List.mem_cons.mp h with rfl | h
          · exact List.mem_cons_self
          · exact List.mem_cons_of_mem _ (ih (Or.inr h))
      · exact List.mem_cons.mpr h

lemma mem_foldr_place (h : c ∈ cs) : c ∈ cs.foldr place [] := by
  induction cs with
  | nil => cases h
  | cons d cs ih =>
      rw [List.foldr_cons]
      exact mem_place ((List.mem_cons.mp h).imp_right ih)

lemma Lone.mem_decompose (hc : Lone c) (h : c ∈ cs) : c ∈ decompose cs :=
  mem_foldr_place (List.mem_flatMap.mpr ⟨c, h, by rw [hc.whole]; exact List.mem_cons_self⟩)

/-- What the next character does: the letter in front takes it in, or it is a letter of its own, or
it is held. -/
lemma composeFrom_cons {start : Option Char} {held : List Char} {d : Char} {P : List Char → Prop}
    (hjoin : ∀ a joined, start = some a → pair? a d = some joined →
      P (composeFrom (some joined) held cs))
    (hletter : P (start.toList ++ held.reverse ++ composeFrom (some d) [] cs))
    (hmark : combiningClass d ≠ 0 → P (composeFrom start (d :: held) cs)) :
    P (composeFrom start held (d :: cs)) := by
  unfold composeFrom
  dsimp only
  split
  · next joined hjoined =>
    obtain ⟨-, hjoined⟩ := Option.ite_none_right_eq_some.mp hjoined
    obtain ⟨a, ha, hpair⟩ := Option.bind_eq_some_iff.mp hjoined
    exact hjoin a joined ha hpair
  · split_ifs with hzero
    · exact hletter
    · exact hmark hzero

/-- A lone character is still there when what is behind it is composed. -/
lemma Lone.mem_composeFrom (hc : Lone c) {start : Option Char} {held : List Char}
    (h : start = some c ∨ c ∈ cs) : c ∈ composeFrom start held cs := by
  induction cs generalizing start held with
  | nil =>
      rcases h with rfl | h
      · exact List.mem_append_left _ (by simp)
      · cases h
  | cons d cs ih =>
      refine composeFrom_cons (fun a joined hstart hpair => ih (Or.inr ?_)) ?_ fun hmark =>
        ih (h.imp_right fun h => ?_)
      · -- Neither of the two that become one is the lone character.
        rcases h with h | h
        · rw [Option.some.inj (hstart.symm.trans h), hc.notFirst] at hpair
          cases hpair
        · rcases List.mem_cons.mp h with rfl | h
          · rw [hc.notSecond] at hpair
            cases hpair
          · exact h
      · rcases h with rfl | h
        · exact List.mem_append_left _ (List.mem_append_left _ (by simp))
        · exact List.mem_append_right _ (ih ((List.mem_cons.mp h).imp_left fun heq => by rw [heq]))
      · rcases List.mem_cons.mp h with rfl | h
        · exact absurd hc.letter hmark
        · exact h

/-- A lone character is still there in the normal form. -/
lemma Lone.mem_normal (hc : Lone c) (h : c ∈ cs) : c ∈ normal cs :=
  hc.mem_composeFrom (Or.inr (hc.mem_decompose h))

/-- Whether no composite character of a line has a separator as one of its parts. -/
def sparesSeparators (line : List Char) : Bool :=
  (Text.Runs.words line).all fun w =>
    !separators.contains (partsOf (Text.Runs.cutLength w).2).1 &&
      !separators.contains (partsOf (Text.Runs.cutLength w).2).2

lemma sparesSeparators_toList (h : sparesSeparators cs = true) :
    sparesSeparators (String.ofList cs).toList = true := by rwa [String.toList_ofList]

lemma sparesSeparators_of_mem : ∀ line ∈ compositeLines, sparesSeparators line.toList = true := by
  unfold compositeLines
  repeat (refine List.forall_mem_cons.mpr ⟨sparesSeparators_toList (by decide +kernel), ?_⟩)
  exact fun _ h => absurd h List.not_mem_nil

/-- No composite character has a separator as one of its parts. -/
lemma parts_notMem_separators {e : Nat × Char × Char} (he : e ∈ composites) :
    e.2.1 ∉ separators ∧ e.2.2 ∉ separators := by
  obtain ⟨w, hw, heq⟩ := Text.Runs.exists_of_mem_ofWords he
  obtain ⟨line, hline, hw⟩ := List.mem_flatMap.mp hw
  have hspares := List.all_eq_true.mp (sparesSeparators_of_mem line hline) w hw
  rw [heq]
  simpa using hspares

lemma head?_words_toList {w : List Char} (h : (Text.Runs.words cs).head? = some w) :
    (Text.Runs.words (String.ofList cs).toList).head? = some w := by rwa [String.toList_ofList]

/-- No composite character is ASCII. -/
lemma le_of_mem_composites {e : Nat × Char × Char} (he : e ∈ composites) : 0x80 ≤ e.1 := by
  let first : List Char := ['c', '0', '=', '4', '1', '.', '3', '0', '0']
  have hhead : (compositeLines.flatMap fun l => Text.Runs.words l.toList).head? = some first := by
    unfold compositeLines
    rw [List.flatMap_cons, List.head?_append,
      head?_words_toList (w := first) (by decide +kernel)]
    rfl
  have hfirst : (Text.Runs.cutLength first).1 = 0xC0 := by decide
  have hle := Text.Runs.le_of_mem_ofWords hhead he
  omega

lemma combiningClass_of_mem_separators : ∀ c ∈ separators, combiningClass c = 0 :=
  List.all_iff_forall_prop.mp (by decide +kernel)

/-- What the table does not hold is not put together, unless by the rule for syllables. -/
lemma pair?_eq_none {a b : Char} (hascii : a.toNat < 0x80 ∨ b.toNat < 0x80)
    (hnone : ∀ e ∈ composites, e.2.1 = a → e.2.2 ≠ b) : pair? a b = none := by
  unfold pair?
  dsimp only
  rw [if_neg (by omega), if_neg (by omega), List.find?_eq_none.mpr]
  · rfl
  · intro e he heq
    rw [Bool.and_eq_true, beq_iff_eq, beq_iff_eq] at heq
    exact hnone e he heq.1 heq.2

/-- Separators stay as they are. -/
lemma lone_of_mem_separators (hc : c ∈ separators) : Lone c := by
  have hascii := toNat_of_mem_separators c hc
  refine ⟨fun depth => ?_, combiningClass_of_mem_separators c hc, fun d => ?_, fun d => ?_⟩
  · cases depth with
    | zero => rfl
    | succ depth =>
        have hnone : composites.find? (·.1 == c.toNat) = none := by
          rw [List.find?_eq_none]
          intro e he heq
          have hle := le_of_mem_composites he
          rw [beq_iff_eq.mp heq] at hle
          omega
        unfold decomposeChar
        rw [if_neg (by omega), hnone]
  · refine pair?_eq_none (Or.inl hascii) fun e he hfirst => ?_
    exact absurd (hfirst ▸ hc) (parts_notMem_separators he).1
  · refine pair?_eq_none (Or.inr hascii) fun e he _ hsecond => ?_
    exact absurd (hsecond ▸ hc) (parts_notMem_separators he).2

end Composition

/-! ### Labels in code -/

namespace Punycode

variable {p : Progress} {m n basic : Nat}

lemma mem_out_pass {d : Char} (h : c ∈ p.out) : c ∈ (p.pass basic n d).out := by
  unfold Progress.pass
  split_ifs
  · exact h
  · exact List.mem_append_left _ h
  · exact h

lemma mem_out_foldl_pass (h : c ∈ p.out) : c ∈ (cs.foldl (Progress.pass basic n) p).out := by
  induction cs generalizing p with
  | nil => exact h
  | cons d cs ih => exact ih (mem_out_pass h)

/-- What is written stays. -/
lemma mem_out_placeAll {ms : List Nat} (h : c ∈ p.out) : c ∈ (placeAll cs basic n ms p).out := by
  induction ms generalizing n p with
  | nil => exact h
  | cons m ms ih => exact ih (mem_out_foldl_pass h)

/-- A label in code has its ASCII characters in front. -/
lemma mem_encode (hascii : c.toNat < 0x80) (h : c ∈ cs) : c ∈ encode cs := by
  have hbasic : c ∈ cs.filter fun d => d.toNat < 0x80 := List.mem_filter.mpr ⟨h, by simpa⟩
  refine mem_out_placeAll ?_
  dsimp only
  rw [if_neg (by simpa using ⟨c, h, hascii⟩)]
  exact List.mem_append_left _ hbasic

end Punycode

/-! ### Names -/

namespace Name

/-- A label that is written in code, or not, keeps its ASCII characters. -/
lemma mem_of_label? {x : List Char × List Char} (hascii : c.toNat < 0x80) (h : c ∈ cs)
    (hx : label? cs = some x) : c ∈ x.1 := by
  unfold label? at hx
  split_ifs at hx
  · obtain ⟨_, -, rfl⟩ := Option.map_eq_some_iff.mp hx
    exact h
  · rw [← Option.some.inj hx]
    exact h
  · rw [← Option.some.inj hx]
    exact List.mem_append_right _ (Punycode.mem_encode hascii h)

lemma of_mem_separators : ∀ c ∈ separators, c.toLower = c ∧ (c == '.') = false ∧ c ≠ '%' ∧
    Text.Percent.digit? c = none ∧ forbidden c = true ∧
    String.utf8EncodeChar c = [UInt8.ofNat c.toNat] ∧
    Char.ofNat (UInt8.ofNat c.toNat).toNat = c :=
  List.all_iff_forall_prop.mp (by decide +kernel)

/-- A text with a separator has no ASCII form. -/
lemma ascii?_of_separator (hc : c ∈ separators) (h : c ∈ cs) : ascii? cs = none := by
  obtain ⟨hlower, hdot, -, -, hforbidden, -, -⟩ := of_mem_separators c hc
  have hascii := toNat_of_mem_separators c hc
  by_contra hne
  obtain ⟨name, hname⟩ := Option.ne_none_iff_exists'.mp hne
  unfold ascii? at hname
  simp only [Option.bind_eq_bind, Option.bind_eq_some_iff] at hname
  obtain ⟨mapped, hmapped, labels, hlabels, hname⟩ := hname
  have hmapped : c ∈ mapped := Mapping.mem_of_mapText? hascii hlower h hmapped
  have hnormal : c ∈ normal mapped := by
    unfold normal
    split_ifs
    · exact hmapped
    · exact (Composition.lone_of_mem_separators hc).mem_normal hmapped
  obtain ⟨piece, hpiece, hmem⟩ := Text.exists_mem_pieces (p := (· == '.')) hdot hnormal
  obtain ⟨label, hlabel, hlabel?⟩ := exists_of_forall₂ (mapM_eq_some_iff.mp hlabels) hpiece
  have htext : c ∈ Text.joined '.' (labels.map Prod.fst) :=
    Text.mem_joined (List.mem_map_of_mem hlabel) (mem_of_label? hascii hmem hlabel?)
  split_ifs at hname with _ _ hany
  exact hany (List.any_eq_true.mpr ⟨c, htext, hforbidden⟩)

/-- **A text with a separator is no name**, however it is written, mapped and coded. -/
theorem ofBytes?_of_separator (hc : c ∈ separators) (h : c ∈ cs) :
    ofBytes? (Text.Percent.decode cs) = none := by
  obtain ⟨-, -, hpercent, hdigit, -, hbytes, hread⟩ := of_mem_separators c hc
  have hascii := toNat_of_mem_separators c hc
  have hb : UInt8.ofNat c.toNat ∈ Text.Percent.decode cs :=
    Text.Percent.mem_decode hpercent hdigit h _ (by rw [hbytes]; exact List.mem_singleton_self _)
  unfold ofBytes?
  cases hdecode : Text.Utf8.decode (Text.Percent.decode cs) with
  | none => rfl
  | some ds =>
      have hmem := Text.Utf8.mem_of_decode hb (by simpa using by omega) hdecode
      rw [hread] at hmem
      exact ascii?_of_separator hc hmem

end Name

end Domain

end Roster
