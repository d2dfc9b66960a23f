import Mathlib
import Roster.Number.Decimal
import Roster.Proofs.Address.Segments
import Roster.Settings.Conversion
import Roster.Settings.Environment

/-!
# Texts of numbers

Which texts are read as numbers: digits with a point in front, inside or behind, with a sign and an
exponent if need be, or a word for one of the numbers that have no digits. A whole number is read
from a text of its own kind, which is the text of a number too, and from the text that it is written
as.

* `Sign`, `Exponent`, `Magnitude`: the parts of such a text; `Numeral`: the texts.
* `isSome_ofText?_iff`: these are the texts that are read.
* `Environment.integer?_of_decimal?`, `Environment.integer?_integerText`: a whole number is read from
  its digits, and from its text.
-/

namespace Roster

/-! ### Digits -/

namespace Text

variable {cs : List Char}

/-- A text of at least one digit. -/
def IsDigits (cs : List Char) : Prop := cs ≠ [] ∧ ∀ c ∈ cs, c.isDigit = true

lemma isDigit_of_valueFrom? {acc : Nat} (h : (valueFrom? 10 acc cs).isSome = true) :
    ∀ c ∈ cs, c.isDigit = true := by
  induction cs generalizing acc with
  | nil => exact fun _ hc => absurd hc List.not_mem_nil
  | cons d ds ih =>
      rw [valueFrom?] at h
      cases hd : Percent.digit? d with
      | none =>
          rw [hd] at h
          cases h
      | some x =>
          rw [hd] at h
          dsimp only at h
          split_ifs at h with hlt
          · have hdigit : d.isDigit = true := by
              unfold Percent.digit? at hd
              dsimp only at hd
              split_ifs at hd with hten
              · simpa [Char.isDigit, UInt32.le_iff_toNat_le] using hten
              all_goals
                have hx := Option.some.inj hd
                omega
            exact List.forall_mem_cons.mpr ⟨hdigit, ih h⟩
          · cases h

/-- Numbers in decimal are read from digits. -/
lemma isSome_decimal?_iff : (decimal? cs).isSome = true ↔ IsDigits cs := by
  cases cs with
  | nil => simp [decimal?, IsDigits]
  | cons c cs =>
      rw [decimal?, value?, IsDigits]
      refine ⟨fun h => ⟨List.cons_ne_nil _ _, isDigit_of_valueFrom? h⟩, fun h => ?_⟩
      rw [valueFrom?_of_isDigit h.2, Option.isSome_some]

lemma decimal?_decimal (n : Nat) : decimal? (decimal n) = some n := by
  have hne := decimal_ne_nil n
  have hvalue := value?_decimal n
  cases hcs : decimal n with
  | nil => exact absurd hcs hne
  | cons c cs => rwa [decimal?, ← hcs]

end Text

namespace Binary64

open Text (IsDigits)

/-! ### The parts of a text -/

/-- A sign, or nothing. -/
inductive Sign : List Char → Prop
  | absent : Sign []
  | plus : Sign ['+']
  | minus : Sign ['-']

/-- An exponent, or nothing. -/
inductive Exponent : List Char → Prop
  | absent : Exponent []
  | written {mark : Char} {sign ds : List Char} (hmark : mark = 'e' ∨ mark = 'E')
    (hsign : Sign sign) (hds : IsDigits ds) : Exponent (mark :: (sign ++ ds))

/-- The words for the numbers without digits. -/
def words : List (List Char) := ["inf".toList, "infinity".toList, "nan".toList]

/-- The text of a number without its sign. -/
inductive Magnitude : List Char → Prop
  | word {cs : List Char} (hword : cs.map Char.toLower ∈ words) : Magnitude cs
  | whole {ds tail : List Char} (hds : IsDigits ds) (htail : Exponent tail) : Magnitude (ds ++ tail)
  | pointed {ds part tail : List Char} (hds : ∀ c ∈ ds, c.isDigit = true)
    (hpart : ∀ c ∈ part, c.isDigit = true) (hne : ds ≠ [] ∨ part ≠ []) (htail : Exponent tail) :
    Magnitude (ds ++ '.' :: (part ++ tail))

/-- The text of a number. -/
inductive Numeral : List Char → Prop
  | mk {sign body : List Char} (hsign : Sign sign) (hbody : Magnitude body) : Numeral (sign ++ body)

variable {cs ds part rest sign tail : List Char}

/-! ### Signs -/

lemma exists_cutSign (cs : List Char) :
    ∃ sign, Sign sign ∧ cs = sign ++ (cutSign cs).2 := by
  unfold cutSign
  split
  · exact ⟨_, .minus, rfl⟩
  · exact ⟨_, .plus, rfl⟩
  · exact ⟨_, .absent, rfl⟩

lemma cutSign_append (hsign : Sign sign) (hplus : cs.head? ≠ some '+')
    (hminus : cs.head? ≠ some '-') : (cutSign (sign ++ cs)).2 = cs := by
  cases hsign with
  | absent =>
      rw [List.nil_append, cutSign]
      · rintro ds rfl
        exact hminus rfl
      · rintro ds rfl
        exact hplus rfl
  | plus => rfl
  | minus => rfl

lemma head?_ne_of_isDigits {c : Char} (hds : IsDigits ds) (hc : c.isDigit = false) :
    ds.head? ≠ some c := by
  intro hhead
  rw [hds.2 c (List.mem_of_head? hhead)] at hc
  cases hc

/-- No sign stands in front of a number without its sign. -/
lemma Magnitude.head?_ne {c : Char} (h : Magnitude cs) (hc : c = '+' ∨ c = '-') :
    cs.head? ≠ some c := by
  have hdigit : c.isDigit = false := by rcases hc with rfl | rfl <;> rfl
  cases h with
  | word hword =>
      intro hhead
      obtain ⟨rest, rfl⟩ := List.head?_eq_some_iff.mp hhead
      rcases hc with rfl | rfl <;> simp [words] at hword
  | whole hds _ =>
      rw [List.head?_append_of_ne_nil _ hds.1]
      exact head?_ne_of_isDigits hds hdigit
  | @pointed ds part tail hds =>
      cases ds with
      | nil =>
          intro hhead
          rcases hc with rfl | rfl <;> simp at hhead
      | cons d ds =>
          have hhead : (d :: ds).head? ≠ some c :=
            head?_ne_of_isDigits ⟨List.cons_ne_nil _ _, hds⟩ hdigit
          exact hhead

/-! ### Exponents -/

lemma isSome_exponent?_cons {c : Char} : (exponent? (c :: cs)).isSome = true ↔
    (c = 'e' ∨ c = 'E') ∧ IsDigits (cutSign cs).2 := by
  rw [exponent?, ← Text.isSome_decimal?_iff]
  simp only [Bool.or_eq_true, beq_iff_eq]
  split_ifs with hmark
  · cases Text.decimal? (cutSign cs).2 <;> simp [hmark]
  · cases Text.decimal? (cutSign cs).2 <;> simp [hmark]
  · simp [hmark]

lemma isSome_exponent?_iff : (exponent? cs).isSome = true ↔ Exponent cs := by
  cases cs with
  | nil => exact ⟨fun _ => .absent, fun _ => rfl⟩
  | cons c cs =>
      rw [isSome_exponent?_cons]
      constructor
      · rintro ⟨hmark, hds⟩
        obtain ⟨sign, hsign, hcs⟩ := exists_cutSign cs
        rw [hcs]
        exact .written hmark hsign hds
      · rintro (_ | ⟨hmark, hsign, hds⟩)
        refine ⟨hmark, ?_⟩
        rwa [cutSign_append hsign (head?_ne_of_isDigits hds rfl) (head?_ne_of_isDigits hds rfl)]

/-- No digit and no point stands in front of an exponent. -/
lemma Exponent.head?_cases (h : Exponent cs) :
    cs.head? = none ∨ cs.head? = some 'e' ∨ cs.head? = some 'E' := by
  cases h with
  | absent => exact Or.inl rfl
  | written hmark => exact Or.inr (by simpa using hmark)

/-! ### Digits in front of a point and behind it -/

lemma takeWhile_isDigit_append (hds : ∀ c ∈ ds, c.isDigit = true)
    (hrest : ∀ c, rest.head? = some c → c.isDigit = false) :
    (ds ++ rest).takeWhile Char.isDigit = ds ∧ (ds ++ rest).dropWhile Char.isDigit = rest := by
  rw [List.takeWhile_append_of_pos hds, List.dropWhile_append_of_pos hds]
  cases rest with
  | nil => simp
  | cons c rest => simp [hrest c rfl]

lemma Exponent.isDigit_of_head? {c : Char} (h : Exponent cs) (hc : cs.head? = some c) :
    c.isDigit = false := by
  rcases h.head?_cases with hnone | hmark | hmark
  · rw [hnone] at hc
    cases hc
  all_goals
    rw [hmark] at hc
    cases hc
    rfl

lemma cutDigits_whole (hds : ∀ c ∈ ds, c.isDigit = true) (htail : Exponent tail) :
    cutDigits (ds ++ tail) = (ds, [], tail) := by
  obtain ⟨htake, hdrop⟩ := takeWhile_isDigit_append hds fun _ => htail.isDigit_of_head?
  rw [cutDigits]
  rw [List.span_eq_takeWhile_dropWhile, htake, hdrop]
  rcases htail.head?_cases with hhead | hhead | hhead
  · rw [List.head?_eq_none_iff.mp hhead]
  all_goals
    obtain ⟨cs, rfl⟩ := List.head?_eq_some_iff.mp hhead
    rfl

lemma cutDigits_pointed (hds : ∀ c ∈ ds, c.isDigit = true) (hpart : ∀ c ∈ part, c.isDigit = true)
    (htail : Exponent tail) : cutDigits (ds ++ '.' :: (part ++ tail)) = (ds, part, tail) := by
  have hpoint : ∀ c, ('.' :: (part ++ tail)).head? = some c → c.isDigit = false := by simp
  obtain ⟨htake, hdrop⟩ := takeWhile_isDigit_append hds hpoint
  obtain ⟨htake', hdrop'⟩ := takeWhile_isDigit_append hpart fun _ => htail.isDigit_of_head?
  rw [cutDigits]
  rw [List.span_eq_takeWhile_dropWhile, htake, hdrop]
  simp only [List.span_eq_takeWhile_dropWhile, htake', hdrop']

/-- A text is put together again from its digits and what follows them. -/
lemma cutDigits_cases (cs : List Char) : ∃ ds part rest, cutDigits cs = (ds, part, rest) ∧
    (∀ c ∈ ds, c.isDigit = true) ∧ (∀ c ∈ part, c.isDigit = true) ∧
    (part = [] ∧ cs = ds ++ rest ∨ cs = ds ++ '.' :: (part ++ rest)) := by
  have hcs := List.takeWhile_append_dropWhile (p := Char.isDigit) (l := cs)
  have hds : ∀ c ∈ cs.takeWhile Char.isDigit, c.isDigit = true := fun _ => List.mem_takeWhile_imp
  rw [cutDigits]
  rw [List.span_eq_takeWhile_dropWhile]
  generalize cs.takeWhile Char.isDigit = ds at hcs hds
  generalize cs.dropWhile Char.isDigit = rest at hcs
  dsimp only
  split
  · next rest =>
    rw [List.span_eq_takeWhile_dropWhile]
    refine ⟨_, _, _, rfl, hds, fun _ => List.mem_takeWhile_imp, Or.inr ?_⟩
    rw [List.takeWhile_append_dropWhile, hcs]
  · exact ⟨_, _, _, rfl, hds, fun _ hc => absurd hc List.not_mem_nil, Or.inl ⟨rfl, hcs.symm⟩⟩

/-! ### Whole texts -/

lemma isSome_ofWord?_iff {negative : Bool} :
    (ofWord? negative cs).isSome = true ↔ cs.map Char.toLower ∈ words := by
  unfold ofWord?
  dsimp only
  split_ifs with hinfinite hnan
  · rcases hinfinite with h | h <;> simp [words, h]
  · simp [words, hnan]
  · rw [not_or] at hinfinite
    simpa [words] using ⟨hinfinite.1, hinfinite.2, hnan⟩

/-- A word begins with one of two letters. -/
lemma exists_cons_of_word (hword : cs.map Char.toLower ∈ words) :
    ∃ c rest, cs = c :: rest ∧ (c.toLower = 'i' ∨ c.toLower = 'n') := by
  cases cs with
  | nil => simp [words] at hword
  | cons c rest =>
      refine ⟨c, rest, rfl, ?_⟩
      simp only [words, String.reduceToList, List.map_cons, List.mem_cons, List.cons.injEq,
        List.not_mem_nil, or_false] at hword
      rcases hword with h | h | h <;> simp [h.1]

/-- There are no digits in front of a word. -/
lemma cutDigits_word (hword : cs.map Char.toLower ∈ words) : (cutDigits cs).1 = [] ∧
    (cutDigits cs).2.1 = [] := by
  obtain ⟨c, rest, rfl, hlower⟩ := exists_cons_of_word hword
  have hdigit : c.isDigit = false := by
    rcases Address.toLower_cases c with heq | ⟨hlow, -⟩
    · rw [heq] at hlower
      rcases hlower with rfl | rfl <;> rfl
    · by_contra htrue
      have hbounds := Text.toNat_of_isDigit (Bool.of_not_eq_false htrue)
      omega
  have hpoint : c ≠ '.' := by
    rintro rfl
    revert hlower
    decide
  rw [cutDigits]
  rw [List.span_eq_takeWhile_dropWhile, List.takeWhile_cons, List.dropWhile_cons, hdigit]
  simp only [Bool.false_eq_true, if_false]
  split
  · next heq => exact absurd (List.cons.inj heq).1 hpoint
  · exact ⟨rfl, rfl⟩

/-- The texts of numbers are read, and no others. -/
theorem isSome_ofText?_iff : (ofText? cs).isSome = true ↔ Numeral cs := by
  have hread : (ofText? cs).isSome = if (cutDigits (cutSign cs).2).1 = [] ∧
      (cutDigits (cutSign cs).2).2.1 = [] then (ofWord? (cutSign cs).1 (cutSign cs).2).isSome
      else (exponent? (cutDigits (cutSign cs).2).2.2).isSome := by
    rw [ofText?]
    dsimp only
    simp only [Bool.and_eq_true, List.isEmpty_iff]
    split_ifs
    · rfl
    · rw [Option.isSome_map]
  rw [hread]
  constructor
  · intro h
    obtain ⟨sign, hsign, hcs⟩ := exists_cutSign cs
    rw [hcs]
    refine .mk hsign ?_
    split_ifs at h with hdigits
    · exact .word (isSome_ofWord?_iff.mp h)
    obtain ⟨ds, part, rest, hcut, hds, hpart, hbody⟩ := cutDigits_cases (cutSign cs).2
    rw [hcut] at h hdigits
    have htail := isSome_exponent?_iff.mp h
    rcases hbody with ⟨rfl, hbody⟩ | hbody <;> rw [hbody]
    · exact .whole ⟨fun hnil => hdigits ⟨hnil, rfl⟩, hds⟩ htail
    · exact .pointed hds hpart (not_and_or.mp hdigits) htail
  · rintro ⟨hsign, hbody⟩
    rw [cutSign_append hsign (hbody.head?_ne (Or.inl rfl)) (hbody.head?_ne (Or.inr rfl))]
    cases hbody with
    | word hword =>
        rw [if_pos (cutDigits_word hword)]
        exact isSome_ofWord?_iff.mpr hword
    | whole hds htail =>
        rw [cutDigits_whole hds.2 htail, if_neg fun h => hds.1 h.1]
        exact isSome_exponent?_iff.mpr htail
    | pointed hds hpart hne htail =>
        rw [cutDigits_pointed hds hpart htail, if_neg (not_and_or.mpr hne)]
        exact isSome_exponent?_iff.mpr htail

/-- What the text of a number begins with is no letter that a word for a truth value begins with. -/
lemma Numeral.exists_cons (h : Numeral cs) :
    ∃ c rest, cs = c :: rest ∧ c.toNat < 0x80 ∧ c.toLower ≠ 't' ∧ c.toLower ≠ 'f' := by
  have hdigit : ∀ {d : Char}, d.isDigit = true →
      d.toNat < 0x80 ∧ d.toLower ≠ 't' ∧ d.toLower ≠ 'f' := by
    intro d hd
    have hbounds := Text.toNat_of_isDigit hd
    rcases Address.toLower_cases d with heq | ⟨hlow, -⟩
    · rw [heq]
      refine ⟨by omega, ?_, ?_⟩ <;> rintro rfl <;> cases hd
    · omega
  obtain ⟨hsign, hbody⟩ := h
  cases hsign with
  | plus => exact ⟨'+', _, rfl, by decide⟩
  | minus => exact ⟨'-', _, rfl, by decide⟩
  | absent =>
      cases hbody with
      | word hword =>
          obtain ⟨c, rest, rfl, hlower⟩ := exists_cons_of_word hword
          refine ⟨c, rest, rfl, ?_, ?_⟩
          · rcases Address.toLower_cases c with heq | ⟨-, hhigh, -⟩
            · rw [heq] at hlower
              rcases hlower with rfl | rfl <;> decide
            · omega
          · rcases hlower with heq | heq <;> rw [heq] <;> decide
      | whole hds =>
          obtain ⟨d, ds, rfl⟩ := List.exists_cons_of_ne_nil hds.1
          exact ⟨d, _, rfl, hdigit (hds.2 d List.mem_cons_self)⟩
      | @pointed ds part tail hds =>
          cases ds with
          | nil => exact ⟨'.', _, rfl, by decide⟩
          | cons d ds => exact ⟨d, _, rfl, hdigit (hds d List.mem_cons_self)⟩

end Binary64

/-! ### Whole numbers -/

namespace Settings

open Binary64 (Numeral)

/-- The text of a whole number is that of a number. -/
lemma Environment.numeral_of_integer? {cs : List Char} {n : Int}
    (h : Environment.integer? cs = some n) : Numeral cs := by
  obtain ⟨sign, hsign, hcs⟩ := Binary64.exists_cutSign cs
  obtain ⟨m, hm, -⟩ := Option.bind_eq_some_iff.mp h
  have hds := Text.isSome_decimal?_iff.mp (Option.isSome_iff_exists.mpr ⟨m, hm⟩)
  rw [hcs, ← List.append_nil (Binary64.cutSign cs).2]
  exact .mk hsign (.whole hds .absent)

lemma Environment.fitsInteger_of_integer? {cs : List Char} {n : Int}
    (h : Environment.integer? cs = some n) : Document.fitsInteger n = true := by
  obtain ⟨m, -, hfits⟩ := Option.bind_eq_some_iff.mp h
  rw [Option.ite_none_right_eq_some] at hfits
  obtain ⟨hfits, heq⟩ := hfits
  rwa [Option.some.inj heq] at hfits

lemma Environment.integer?_of_cutSign {cs ds : List Char} {negative : Bool} {m : Nat} {n : Int}
    (hcut : Binary64.cutSign cs = (negative, ds)) (hm : Text.decimal? ds = some m)
    (hvalue : (if negative then -(m : Int) else m) = n) (hn : Document.fitsInteger n = true) :
    Environment.integer? cs = some n := by
  rw [Environment.integer?]
  rw [hcut]
  dsimp only
  rw [hm, Option.bind_some, hvalue, if_pos hn]

/-- There is no sign in front of digits. -/
lemma Environment.cutSign_of_isDigits {cs : List Char} (h : Text.IsDigits cs) :
    Binary64.cutSign cs = (false, cs) := by
  unfold Binary64.cutSign
  split
  · exact absurd rfl (Binary64.head?_ne_of_isDigits h (c := '-') rfl)
  · exact absurd rfl (Binary64.head?_ne_of_isDigits h (c := '+') rfl)
  · rfl

/-- A whole number is read from its digits, also with zeros in front. -/
lemma Environment.integer?_of_decimal? {cs : List Char} {m : Nat}
    (hm : Text.decimal? cs = some m) (hn : Document.fitsInteger m = true) :
    Environment.integer? cs = some (m : Int) :=
  integer?_of_cutSign
    (cutSign_of_isDigits (Text.isSome_decimal?_iff.mp (Option.isSome_iff_exists.mpr ⟨m, hm⟩)))
    hm (if_neg (by decide)) hn

/-- A whole number is read from its text. -/
lemma Environment.integer?_integerText {n : Int} (hn : Document.fitsInteger n = true) :
    Environment.integer? (integerText n).toList = some n := by
  have hread := Text.decimal?_decimal n.natAbs
  rw [integerText, String.toList_ofList, Text.integer]
  split_ifs with hneg
  · refine integer?_of_cutSign rfl hread ?_ hn
    rw [if_pos rfl]
    omega
  · have habs : (n.natAbs : Int) = n := by omega
    have hdigits := integer?_of_decimal? hread (by rwa [habs])
    rwa [habs] at hdigits

end Settings

end Roster
