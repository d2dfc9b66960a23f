import Mathlib
import Roster.Proofs.Address.Segments

/-!
# Names in ASCII

The ASCII form of a name is ASCII, whatever the name is, with no character that no name may have.
And if the name is ASCII itself, nothing is left to be done: its ASCII form is the name in lower
case, and this is its own ASCII form.

* `Name.isAscii_of_ascii?`, `Name.not_forbidden_of_ascii?`: what the ASCII form of a name is like.
* `Name.ascii?_lower`: case makes no difference for a name in ASCII.
* `Name.eq_lower_of_ascii?`, `Name.ascii?_idem`: the ASCII form of such a name, and its own.
* `Name.ofBytes?_decode`: a text in ASCII without percent signs spells itself.
-/

namespace Roster

namespace Text

variable {c : Char} {cs : List Char}

/-- A text without percent signs has no triplets. -/
lemma Percent.decode_of_notMem (h : '%' ∉ cs) :
    Percent.decode cs = cs.flatMap String.utf8EncodeChar := by
  induction cs with
  | nil => rfl
  | cons c cs ih =>
      rw [List.mem_cons, not_or] at h
      rw [Percent.decode, ih h.2, List.flatMap_cons]
      rintro x y rest rfl
      exact absurd rfl h.1

/-- What words make up is nothing but the words and the separators. -/
lemma mem_of_mem_joined {sep : Char} {ws : List (List Char)} (h : c ∈ joined sep ws) :
    c = sep ∨ ∃ w ∈ ws, c ∈ w := by
  fun_induction joined sep ws with
  | case1 => cases h
  | case2 w => exact Or.inr ⟨w, List.mem_singleton_self w, h⟩
  | case3 w v ws ih =>
      rcases List.mem_append.mp h with h | h
      · exact Or.inr ⟨w, List.mem_cons_self, h⟩
      rcases List.mem_cons.mp h with h | h
      · exact Or.inl h
      · refine (ih h).imp_right fun hmem => ?_
        obtain ⟨u, hu, hc⟩ := hmem
        exact ⟨u, List.mem_cons_of_mem _ hu, hc⟩

end Text

namespace Domain

variable {cs n : List Char}

/-! ### Labels in code -/

namespace Punycode

lemma toNat_digit {k : Nat} (hk : k < 36) : (digit k).toNat < 0x80 := by
  revert k
  decide

lemma toNat_of_mem_numeral {bias k q : Nat} : ∀ c ∈ numeral bias k q, c.toNat < 0x80 := by
  induction q using Nat.strong_induction_on generalizing k with
  | _ q ih =>
      have hbounds := threshold_bounds k bias
      rw [numeral]
      split_ifs with hq
      · intro c hc
        rw [List.mem_singleton.mp hc]
        exact toNat_digit (by omega)
      · have hless : (q - threshold k bias) / (36 - threshold k bias) < q := by
          have hle := Nat.div_le_self (q - threshold k bias) (36 - threshold k bias)
          omega
        have hrest := Nat.mod_lt (q - threshold k bias) (y := 36 - threshold k bias) (by omega)
        exact List.forall_mem_cons.mpr ⟨toNat_digit (by omega), ih _ hless⟩

/-- What has been written is ASCII. -/
def Progress.Plain (p : Progress) : Prop := ∀ c ∈ p.out, c.toNat < 0x80

lemma Progress.Plain.pass {p : Progress} (h : p.Plain) (basic m : Nat) (c : Char) :
    (p.pass basic m c).Plain := by
  rw [Progress.pass]
  split_ifs
  · exact h
  · exact fun d hd => (List.mem_append.mp hd).elim (h d) (toNat_of_mem_numeral d)
  · exact h

lemma Progress.Plain.placeAll {p : Progress} (h : p.Plain) (basic m : Nat) (ms : List Nat) :
    (Punycode.placeAll cs basic m ms p).Plain := by
  induction ms generalizing m p with
  | nil => exact h
  | cons k ms ih =>
      have hpasses : ∀ {ds : List Char} {q : Progress}, q.Plain →
          (ds.foldl (Progress.pass basic k) q).Plain := by
        intro ds
        induction ds with
        | nil => exact fun hq => hq
        | cons d ds ih => exact fun hq => ih (hq.pass basic k d)
      rw [Punycode.placeAll]
      refine ih ?_ _
      exact hpasses (q := ⟨p.out, p.delta + (k - m) * (p.placed + 1), p.bias, p.placed⟩) h

/-- A label in code is ASCII. -/
lemma toNat_of_mem_encode : ∀ c ∈ encode cs, c.toNat < 0x80 := by
  refine Progress.Plain.placeAll ?_ _ _ _
  intro c hc
  dsimp only at hc
  split_ifs at hc
  · cases hc
  · rcases List.mem_append.mp hc with hc | hc
    · simpa using (List.mem_filter.mp hc).2
    · rw [List.mem_singleton.mp hc]
      decide

end Punycode

namespace Name

lemma isAscii_iff : isAscii cs = true ↔ ∀ c ∈ cs, c.toNat < 0x80 := by
  simp [isAscii]

lemma isAscii_of_label? {w : List Char} {x : List Char × List Char} (h : label? w = some x) :
    isAscii x.1 = true := by
  rw [label?] at h
  split_ifs at h with _ hcode hascii
  · obtain ⟨_, -, rfl⟩ := Option.map_eq_some_iff.mp h
    exact hcode.1
  · rw [← Option.some.inj h]
    exact hascii
  · rw [← Option.some.inj h, isAscii_iff]
    intro c hc
    rcases List.mem_append.mp hc with hc | hc
    · exact isAscii_iff.mp (show isAscii mark = true from rfl) c hc
    · exact Punycode.toNat_of_mem_encode c hc

/-- How the ASCII form of a name is made. -/
lemma exists_of_ascii? (h : ascii? cs = some n) : ∃ mapped labels,
    Mapping.mapText? cs = some mapped ∧
    List.Forall₂ (fun w x => label? w = some x) (Text.pieces (· == '.') (normal mapped)) labels ∧
    n = Text.joined '.' (labels.map Prod.fst) ∧ n.any forbidden = false := by
  rw [ascii?] at h
  simp only [Option.bind_eq_bind, Option.bind_eq_some_iff] at h
  obtain ⟨mapped, hmapped, labels, hlabels, h⟩ := h
  split_ifs at h with _ _ hany
  refine ⟨mapped, labels, hmapped, mapM_eq_some_iff.mp hlabels, (Option.some.inj h).symm, ?_⟩
  rw [← Option.some.inj h]
  exact Bool.eq_false_iff.mpr hany

lemma isAscii_of_ascii? (h : ascii? cs = some n) : isAscii n = true := by
  obtain ⟨mapped, labels, -, hlabels, rfl, -⟩ := exists_of_ascii? h
  rw [isAscii_iff]
  intro c hc
  rcases Text.mem_of_mem_joined hc with rfl | ⟨w, hw, hc⟩
  · decide
  · obtain ⟨x, hx, rfl⟩ := List.mem_map.mp hw
    obtain ⟨w, -, hlabel⟩ := exists_of_forall₂ hlabels.flip hx
    exact isAscii_iff.mp (isAscii_of_label? hlabel) c hc

lemma not_forbidden_of_ascii? (h : ascii? cs = some n) : ∀ c ∈ n, forbidden c = false := by
  obtain ⟨-, -, -, -, -, hany⟩ := exists_of_ascii? h
  simpa using hany

/-! ### Names that are ASCII already -/

lemma mapText?_of_isAscii (hcs : isAscii cs = true) :
    Mapping.mapText? cs = some (cs.map Char.toLower) := by
  have hmap : cs.mapM Mapping.mapChar? = some (cs.map fun c => [c.toLower]) := by
    rw [mapM_eq_some_iff, List.forall₂_map_right_iff]
    exact List.forall₂_same.mpr fun c hc => if_pos (isAscii_iff.mp hcs c hc)
  rw [Mapping.mapText?, hmap, Option.map_some, ← List.flatMap_def]
  exact congrArg some (List.flatMap_pure_eq_map Char.toLower cs)

lemma toNat_toLower {c : Char} (hc : c.toNat < 0x80) : c.toLower.toNat < 0x80 := by
  rcases Address.toLower_cases c with heq | ⟨-, hhigh, hshift⟩
  · rwa [heq]
  · omega

lemma isAscii_lower (hcs : isAscii cs = true) : isAscii (cs.map Char.toLower) = true := by
  rw [isAscii_iff] at hcs ⊢
  intro c hc
  obtain ⟨d, hd, rfl⟩ := List.mem_map.mp hc
  exact toNat_toLower (hcs d hd)

/-- Case makes no difference for a name in ASCII. -/
lemma ascii?_lower (hcs : isAscii cs = true) : ascii? (cs.map Char.toLower) = ascii? cs := by
  rw [ascii?, ascii?, mapText?_of_isAscii hcs, mapText?_of_isAscii (isAscii_lower hcs),
    Address.lower_lower]

lemma fst_eq_of_label? {w : List Char} {x : List Char × List Char} (hw : isAscii w = true)
    (h : label? w = some x) : x.1 = w := by
  rw [label?, if_pos hw] at h
  split_ifs at h
  · obtain ⟨_, -, rfl⟩ := Option.map_eq_some_iff.mp h
    rfl
  · rw [← Option.some.inj h]

lemma isAscii_of_mem_pieces (hcs : isAscii cs = true) :
    ∀ w ∈ Text.pieces (· == '.') cs, isAscii w = true := by
  intro w hw
  rw [isAscii_iff] at hcs ⊢
  refine fun c hc => hcs c ?_
  rw [← Text.joined_pieces '.' cs]
  exact Text.mem_joined hw hc

lemma map_fst_of_label? {ws : List (List Char)} {labels : List (List Char × List Char)}
    (h : List.Forall₂ (fun w x => label? w = some x) ws labels)
    (hws : ∀ w ∈ ws, isAscii w = true) : labels.map Prod.fst = ws := by
  induction h with
  | nil => rfl
  | cons hlabel _ ih =>
      obtain ⟨hw, hws⟩ := List.forall_mem_cons.mp hws
      rw [List.map_cons, ih hws, fst_eq_of_label? hw hlabel]

/-- The ASCII form of a name in ASCII is the name in lower case. -/
lemma eq_lower_of_ascii? (hcs : isAscii cs = true) (h : ascii? cs = some n) :
    n = cs.map Char.toLower := by
  obtain ⟨mapped, labels, hmapped, hlabels, rfl, -⟩ := exists_of_ascii? h
  rw [mapText?_of_isAscii hcs] at hmapped
  obtain rfl := Option.some.inj hmapped
  have hascii := isAscii_lower hcs
  rw [normal, if_pos hascii] at hlabels
  rw [map_fst_of_label? hlabels (isAscii_of_mem_pieces hascii), Text.joined_pieces]

/-- The ASCII form of a name in ASCII is its own. -/
theorem ascii?_idem (hcs : isAscii cs = true) (h : ascii? cs = some n) : ascii? n = some n := by
  rw [eq_lower_of_ascii? hcs h, ascii?_lower hcs, h, ← eq_lower_of_ascii? hcs h]

/-- A name in ASCII without labels in code is its own ASCII form if it has no capitals and nothing
that no name may have. -/
lemma ascii?_of_uncoded (hcs : isAscii cs = true) (hlower : cs.map Char.toLower = cs)
    (huncoded : ∀ w ∈ Text.pieces (· == '.') cs, mark.isPrefixOf w = false)
    (hforbidden : ∀ c ∈ cs, forbidden c = false) : ascii? cs = some cs := by
  have hascii : ∀ w ∈ Text.pieces (· == '.') cs, isAscii w = true := isAscii_of_mem_pieces hcs
  have hlabels : (Text.pieces (· == '.') cs).mapM label? =
      some ((Text.pieces (· == '.') cs).map fun w => (w, w)) := by
    rw [mapM_eq_some_iff, List.forall₂_map_right_iff]
    refine List.forall₂_same.mpr fun w hw => ?_
    rw [label?, if_neg (Bool.eq_false_iff.mp (huncoded w hw)), if_pos (hascii w hw)]
  have hread : ∀ ws : List (List Char), (ws.map fun w => (w, w)).map Prod.snd = ws ∧
      (ws.map fun w => (w, w)).map Prod.fst = ws := by
    intro ws
    simp [Function.comp_def]
  have hfine : (Text.pieces (· == '.') cs).all wellFormed = true ∧
      (Text.pieces (· == '.') cs).all isAscii = true := by
    refine ⟨List.all_eq_true.mpr fun w hw => ?_, List.all_eq_true.mpr hascii⟩
    rw [wellFormed, hascii w hw, Bool.true_or]
  have hany : cs.any forbidden = false := by simpa using hforbidden
  rw [ascii?, mapText?_of_isAscii hcs, hlower]
  simp only [Option.bind_eq_bind, Option.bind_some, normal, if_pos hcs, hlabels, hread, hfine,
    Text.joined_pieces, hany]
  rfl

/-- A text in ASCII without percent signs spells itself. -/
lemma ofBytes?_decode (hcs : isAscii cs = true) (hpercent : '%' ∉ cs) :
    ofBytes? (Text.Percent.decode cs) = ascii? cs := by
  rw [ofBytes?, Text.Percent.decode_of_notMem hpercent,
    Text.Utf8.decode_of_ascii (isAscii_iff.mp hcs)]
  rfl

end Name

end Domain

end Roster
