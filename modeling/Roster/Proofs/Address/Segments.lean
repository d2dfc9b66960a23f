import Mathlib
import Roster.Proofs.Address.Service
import Roster.Proofs.Lists

/-!
# Segments added to addresses

An address with a host has a path of segments, and further segments can be added to it. A text that
is added as a segment becomes one segment, in which percent triplets stand for all characters that
would end a path or a segment, unless nothing of it is visible or it is one of the texts that stand
for directories. Two texts become the same segment only if they look the same.

* `Percent.encode_injective`: a text can be told from its percent triplets.
* `readChars_cases`: an address has a path of segments or no authority.
* `segments_of_slashes`: what is behind two slashes has a path of segments.
* `segmentOf_eq_iff`: what is visible of a text can be told from its segment.
* `addSegment_cases`: what becomes of a path when a text is added to it.
* `stem`: the segments of a path to which others are added; `add?_text` adds names, and any text
  behind them.
-/

namespace Roster

/-! ### Percent triplets -/

namespace Text.Percent

variable {inSet : Char → Bool} {c : Char} {cs ds : List Char}

lemma digit?_upperDigit {n : Nat} (hn : n < 16) : digit? (upperDigit n) = some n := by
  revert n
  decide

lemma decode_triplet (b : UInt8) (cs : List Char) : decode (triplet b ++ cs) = b :: decode cs := by
  have hb : b.toNat < 256 := b.toNat_lt
  have hhigh := digit?_upperDigit (show b.toNat / 16 < 16 by omega)
  have hlow := digit?_upperDigit (show b.toNat % 16 < 16 by omega)
  have hsum : b.toNat / 16 * 16 + b.toNat % 16 = b.toNat := by omega
  simp [triplet, decode, hhigh, hlow, hsum]

lemma decode_triplets (bs : List UInt8) (cs : List Char) :
    decode (bs.flatMap triplet ++ cs) = bs ++ decode cs := by
  induction bs with
  | nil => rfl
  | cons b bs ih => rw [List.flatMap_cons, List.append_assoc, decode_triplet, ih, List.cons_append]

/-- Triplets are read back as the bytes of the text, if a percent sign is one itself. -/
lemma decode_encode (hpercent : inSet '%' = true) (cs : List Char) :
    decode (encode inSet cs) = cs.flatMap String.utf8EncodeChar := by
  induction cs with
  | nil => rfl
  | cons c cs ih =>
      have hcons : encode inSet (c :: cs) = encodeChar inSet c ++ encode inSet cs := rfl
      rw [hcons, List.flatMap_cons, ← ih]
      unfold encodeChar
      split_ifs with hc
      · exact decode_triplets _ _
      · have hne : c ≠ '%' := by
          rintro rfl
          exact hc hpercent
        rw [List.singleton_append, decode]
        rintro x y rest rfl
        exact absurd rfl hne

lemma flatMap_utf8EncodeChar_injective :
    Function.Injective fun cs : List Char => cs.flatMap String.utf8EncodeChar := by
  intro cs ds h
  have hbytes : cs.utf8Encode = ds.utf8Encode := congrArg List.toByteArray h
  have hdecode := congrArg ByteArray.utf8Decode? hbytes
  simpa using hdecode

/-- A text can be told from its triplets. -/
lemma encode_injective (hpercent : inSet '%' = true) : Function.Injective (encode inSet) := by
  intro cs ds h
  refine flatMap_utf8EncodeChar_injective ?_
  simp only [← decode_encode hpercent, h]

lemma encode_eq_nil_iff : encode inSet cs = [] ↔ cs = [] := by
  cases cs with
  | nil => simp [encode]
  | cons c cs =>
      have hne : encodeChar inSet c ≠ [] := by
        unfold encodeChar
        split_ifs
        · cases h : String.utf8EncodeChar c with
          | nil => exact absurd h String.utf8EncodeChar_ne_nil
          | cons b bs => simp [triplet]
        · simp
      simp [encode, hne]

/-- What is written as triplets is not there any more. -/
lemma notMem_encode (hset : inSet c = true) (hpercent : c ≠ '%') (hdigit : digit? c = none) :
    c ∉ encode inSet cs := by
  have hupper : ∀ n < 16, c ≠ upperDigit n := by
    rintro n hn rfl
    rw [digit?_upperDigit hn] at hdigit
    cases hdigit
  intro hc
  obtain ⟨d, -, hd⟩ := List.mem_flatMap.mp hc
  unfold encodeChar at hd
  split_ifs at hd with hin
  · obtain ⟨b, -, hb⟩ := List.mem_flatMap.mp hd
    have hlt : b.toNat < 256 := b.toNat_lt
    simp only [triplet, List.mem_cons, List.not_mem_nil, or_false] at hb
    rcases hb with rfl | hb | hb
    · exact hpercent rfl
    · exact hupper _ (by omega) hb
    · exact hupper _ (by omega) hb
  · rw [List.mem_singleton.mp hd] at hset
    exact hin hset

end Text.Percent

namespace Address

variable {kind : Kind} {path : List (List Char)} {cs ds : List Char}

/-! ### Paths of segments -/

/-- Behind two slashes there is an authority and a path of segments. -/
lemma readService_segments {scheme : String} {a : Address} (h : readService scheme kind cs = .ok a) :
    a.scheme = scheme ∧ ∃ ps, a.path = .segments ps := by
  obtain ⟨x, -, h⟩ := bind_eq_ok_iff.mp h
  cases h
  exact ⟨rfl, _, rfl⟩

lemma readFile_segments {a : Address} (h : readFile cs = .ok a) :
    a.scheme = "file" ∧ ∃ ps, a.path = .segments ps := by
  unfold readFile at h
  dsimp only at h
  split at h
  · split_ifs at h
    · cases h
      exact ⟨rfl, _, rfl⟩
    · obtain ⟨host, -, h⟩ := bind_eq_ok_iff.mp h
      cases h
      exact ⟨rfl, _, rfl⟩
    · cases h
      exact ⟨rfl, _, rfl⟩
  · cases h
    exact ⟨rfl, _, rfl⟩

lemma readRootless_authority (scheme : String) (cs : List Char) :
    (readRootless scheme cs).scheme = scheme ∧ (readRootless scheme cs).authority = none := by
  unfold readRootless
  dsimp only
  split <;> exact ⟨rfl, rfl⟩

/-- A text that can stand in front of a colon as a scheme. -/
def IsScheme (cs : List Char) : Prop :=
  (∃ c, cs.head? = some c ∧ c.isAlpha = true) ∧ ∀ c ∈ cs, isSchemeChar c = true

/-- Lower case leaves a character as it is, or it is a capital. -/
lemma toLower_cases (c : Char) : c.toLower = c ∨
    0x41 ≤ c.toNat ∧ c.toNat ≤ 0x5A ∧ c.toLower.toNat = c.toNat + 0x20 := by
  unfold Char.toLower
  split_ifs with h
  · right
    have hA : ('A'.val).toNat = 0x41 := rfl
    have hZ : ('Z'.val).toNat = 0x5A := rfl
    have hshift : ('a'.val - 'A'.val).toNat = 0x20 := rfl
    simp only [ge_iff_le, UInt32.le_iff_toNat_le, Char.toNat, UInt32.toNat_add] at h ⊢
    omega
  · exact Or.inl rfl

lemma toLower_toLower (c : Char) : c.toLower.toLower = c.toLower := by
  rcases toLower_cases c.toLower with heq | ⟨hlow, hhigh, -⟩
  · exact heq
  · rcases toLower_cases c with heq | ⟨hlow', -, hshift⟩
    · rw [heq]
      exact heq
    · omega

lemma lower_lower (cs : List Char) :
    (cs.map Char.toLower).map Char.toLower = cs.map Char.toLower := by
  rw [List.map_map]
  exact List.map_congr_left fun c _ => toLower_toLower c

lemma isSchemeChar_toLower {c : Char} (hc : isSchemeChar c = true) :
    isSchemeChar c.toLower = true := by
  by_cases hupper : c.isUpper = true
  · have halpha : c.isAlpha = true := by rw [Char.isAlpha, hupper, Bool.true_or]
    simp [isSchemeChar, Char.isAlphanum, halpha]
  · rwa [Char.toLower_eq_of_not_isUpper hupper]

lemma isScheme_of_readScheme? {scheme : String} {rest : List Char}
    (h : readScheme? cs = some (scheme, rest)) : IsScheme scheme.toList := by
  unfold readScheme? at h
  split at h
  · cases h
  · next c cs =>
    split_ifs at h with hc
    split at h
    · cases h
      rw [String.toList_ofList]
      refine ⟨⟨c.toLower, ?_, by rwa [Char.isAlpha_toLower_eq_isAlpha]⟩, fun d hd => ?_⟩
      · have hscheme : isSchemeChar c = true := by simp [isSchemeChar, Char.isAlphanum, hc]
        rw [List.takeWhile_cons, if_pos hscheme]
        rfl
      · obtain ⟨e, he, rfl⟩ := List.mem_map.mp hd
        exact isSchemeChar_toLower (List.mem_takeWhile_imp he)
    · cases h

/-- **How an address is made up.** It has a path of segments, or there is no authority in it. -/
lemma readChars_cases {a : Address} (h : readChars cs = .ok a) :
    IsScheme a.scheme.toList ∧ ((∃ ps, a.path = .segments ps) ∨ a.authority = none) := by
  unfold readChars at h
  dsimp only at h
  split at h
  · cases h
  · next scheme rest hscheme =>
    have hvalid := isScheme_of_readScheme? hscheme
    split at h
    · next hkind =>
      have hfile : scheme = "file" := by
        by_contra hne
        simp only [Kind.ofScheme, if_neg hne] at hkind
        split_ifs at hkind
      obtain ⟨heq, hpath⟩ := readFile_segments h
      exact ⟨heq ▸ hfile ▸ hvalid, Or.inl hpath⟩
    · obtain ⟨rfl, hpath⟩ := readService_segments h
      exact ⟨hvalid, Or.inl hpath⟩
    · split at h
      · obtain ⟨rfl, hpath⟩ := readService_segments h
        exact ⟨hvalid, Or.inl hpath⟩
      · cases h
        obtain ⟨heq, hnone⟩ := readRootless_authority scheme rest
        exact ⟨heq.symm ▸ hvalid, Or.inr hnone⟩

/-- An address with a host has a path of segments. -/
lemma exists_segments {text : String} {a : Address} (h : read text = .ok a) (hhost : a.host? ≠ none) :
    ∃ ps, a.path = .segments ps := by
  rcases (readChars_cases h).2 with hpath | hnone
  · exact hpath
  · exact absurd (by rw [host?, hnone]; rfl) hhost

/-- White space is trimmed off behind a text that has none at its ends. -/
lemma trimBy_append {p : Char → Bool} {c d : Char} (front back : List Char)
    (hc : front.head? = some c) (hd : front.getLast? = some d) (pc : p c = false)
    (pd : p d = false) : ∃ back', Text.trimBy p (front ++ back) = front ++ back' := by
  have hfront : (front ++ back).dropWhile p = front ++ back := by
    obtain ⟨rest, rfl⟩ := List.head?_eq_some_iff.mp hc
    simp [pc]
  have hends : front.reverse.dropWhile p = front.reverse := by
    obtain ⟨rest, rfl⟩ := List.getLast?_eq_some_iff.mp hd
    simp [pd]
  rw [Text.trimBy, hfront, List.reverse_append, List.dropWhile_append]
  split_ifs
  · exact ⟨[], by rw [hends, List.reverse_reverse, List.append_nil]⟩
  · exact ⟨_, by rw [List.reverse_append, List.reverse_reverse]⟩

lemma visible_scheme {scheme : List Char} (hscheme : IsScheme scheme) : visible scheme = scheme := by
  refine List.filter_eq_self.mpr fun c hc => ?_
  have hne : ∀ d : Char, isSchemeChar d = false → c ≠ d := by
    rintro d hd rfl
    rw [hscheme.2 c hc] at hd
    cases hd
  simp [isIgnored, hne '\t' rfl, hne '\n' rfl, hne '\r' rfl]

/-- A text with a scheme and two slashes in front is read behind these. -/
lemma readScheme?_slashes {scheme : List Char} (hscheme : IsScheme scheme) (rest : List Char) :
    readScheme? (scheme ++ ':' :: rest) =
      some (String.ofList (scheme.map Char.toLower), rest) := by
  obtain ⟨⟨c, hhead, halpha⟩, hall⟩ := hscheme
  obtain ⟨cs, rfl⟩ := List.head?_eq_some_iff.mp hhead
  have htake : (c :: cs ++ ':' :: rest).takeWhile isSchemeChar = c :: cs := by
    rw [List.takeWhile_append_of_pos hall, List.takeWhile_cons, if_neg (by decide), List.append_nil]
  have hdrop : (c :: cs ++ ':' :: rest).dropWhile isSchemeChar = ':' :: rest := by
    rw [List.dropWhile_append_of_pos hall, List.dropWhile_cons, if_neg (by decide)]
  unfold readScheme?
  rw [List.cons_append] at htake hdrop ⊢
  dsimp only
  rw [if_pos halpha, htake, hdrop]
  rfl

/-- Behind a scheme with two slashes there is a path of segments. -/
lemma segments_of_slashes {scheme rest : List Char} {a : Address} (hscheme : IsScheme scheme)
    (h : readChars (scheme ++ ':' :: '/' :: '/' :: rest) = .ok a) :
    ∃ ps, a.path = .segments ps := by
  obtain ⟨c, hhead, halpha⟩ := hscheme.1
  have hc : Text.isControlOrSpace c = false := by
    simp only [Char.isAlpha, Char.isUpper, Char.isLower, ge_iff_le, UInt32.le_iff_toNat_le,
      Bool.or_eq_true, Bool.and_eq_true, decide_eq_true_eq] at halpha
    simp only [Text.isControlOrSpace, decide_eq_false_iff_not, Char.toNat]
    have hA : ('A'.val).toNat = 0x41 := rfl
    have ha : ('a'.val).toNat = 0x61 := rfl
    omega
  obtain ⟨rest', htrim⟩ := trimBy_append (d := '/') (scheme ++ [':', '/', '/']) rest
    (by rw [List.head?_append, hhead]; rfl) (by rw [List.getLast?_append]; rfl) hc (by decide)
  have hfilter : (Text.trimBy Text.isControlOrSpace (scheme ++ ':' :: '/' :: '/' :: rest)).filter
      (fun c => !isIgnored c) = scheme ++ ':' :: '/' :: '/' :: visible rest' := by
    have happend : scheme ++ ':' :: '/' :: '/' :: rest = scheme ++ [':', '/', '/'] ++ rest := by simp
    rw [happend, htrim, List.append_assoc, List.filter_append]
    exact congrArg₂ _ (visible_scheme hscheme) rfl
  unfold readChars at h
  rw [hfilter] at h
  dsimp only at h
  rw [readScheme?_slashes hscheme] at h
  dsimp only at h
  split at h
  · exact (readFile_segments h).2
  · exact (readService_segments h).2
  · exact (readService_segments h).2

/-! ### One more segment -/

lemma digit?_toLower (c : Char) : Text.Percent.digit? c.toLower = Text.Percent.digit? c := by
  rcases toLower_cases c with heq | ⟨hlow, hhigh, hshift⟩
  · rw [heq]
  · simp only [Text.Percent.digit?, hshift]
    split_ifs <;> simp_all <;> omega

/-- A character that is no letter is the lower case of itself only. -/
lemma eq_of_toLower_eq {c d : Char} (hd : d.toNat < 0x61) (h : c.toLower = d) : c = d := by
  rcases toLower_cases c with heq | ⟨hlow, hhigh, hshift⟩
  · rw [← h, heq]
  · rw [h] at hshift
    omega

/-- A dot counts as one also in the form of a triplet. -/
lemma decode_dot {c : Char} (hc : c.toLower = '.') (cs : List Char) :
    Text.Percent.decode (c :: cs) = 0x2e :: Text.Percent.decode cs := by
  obtain rfl := eq_of_toLower_eq (by decide) hc
  rw [Text.Percent.decode]
  · rfl
  · intro x y rest heq
    cases heq

lemma decode_dotTriplet {c d e : Char} (hc : c.toLower = '%') (hd : d.toLower = '2')
    (he : e.toLower = 'e') (cs : List Char) :
    Text.Percent.decode (c :: d :: e :: cs) = 0x2e :: Text.Percent.decode cs := by
  obtain rfl := eq_of_toLower_eq (by decide) hc
  have htwo : Text.Percent.digit? d = some 2 := by rw [← digit?_toLower, hd]; rfl
  have hfourteen : Text.Percent.digit? e = some 14 := by rw [← digit?_toLower, he]; rfl
  rw [Text.Percent.decode, htwo, hfourteen]
  rfl

lemma exists_of_contains {names : List String} (h : names.contains (String.ofList cs) = true) :
    ∃ name ∈ names, cs = name.toList :=
  ⟨_, by simpa using h, String.toList_ofList.symm⟩

/-- The texts that stand for a directory are dots, or triplets of dots. -/
lemma decode_of_isSingleDot (h : isSingleDot cs = true) : Text.Percent.decode cs = [0x2e] := by
  obtain ⟨name, hname, hcs⟩ := exists_of_contains h
  simp only [List.mem_cons, List.not_mem_nil, or_false] at hname
  rcases hname with rfl | rfl <;> simp only [String.reduceToList, List.map_eq_cons_iff,
    List.map_eq_nil_iff] at hcs
  · obtain ⟨c, _, rfl, hc, rfl⟩ := hcs
    exact decode_dot hc []
  · obtain ⟨c, _, rfl, hc, d, _, rfl, hd, e, _, rfl, he, rfl⟩ := hcs
    exact decode_dotTriplet hc hd he []

lemma decode_of_isDoubleDot (h : isDoubleDot cs = true) :
    Text.Percent.decode cs = [0x2e, 0x2e] := by
  obtain ⟨name, hname, hcs⟩ := exists_of_contains h
  simp only [List.mem_cons, List.not_mem_nil, or_false] at hname
  rcases hname with rfl | rfl | rfl | rfl <;> simp only [String.reduceToList,
    List.map_eq_cons_iff, List.map_eq_nil_iff] at hcs
  · obtain ⟨c, _, rfl, hc, d, _, rfl, hd, rfl⟩ := hcs
    rw [decode_dot hc, decode_dot hd]
    rfl
  · obtain ⟨b, _, rfl, hb, c, _, rfl, hc, d, _, rfl, hd, e, _, rfl, he, rfl⟩ := hcs
    rw [decode_dot hb, decode_dotTriplet hc hd he]
    rfl
  · obtain ⟨c, _, rfl, hc, d, _, rfl, hd, e, _, rfl, he, b, _, rfl, hb, rfl⟩ := hcs
    rw [decode_dotTriplet hc hd he, decode_dot hb]
    rfl
  · obtain ⟨c, _, rfl, hc, d, _, rfl, hd, e, _, rfl, he, c', _, rfl, hc', d', _, rfl, hd', e', _,
      rfl, he', rfl⟩ := hcs
    rw [decode_dotTriplet hc hd he, decode_dotTriplet hc' hd' he']
    rfl

/-- The characters that a segment has as triplets. -/
def inSegment (kind : Kind) : Char → Bool :=
  if kind = .plain then Text.Percent.segment else Text.Percent.specialSegment

lemma segmentOf_eq (kind : Kind) (cs : List Char) :
    segmentOf kind cs = Text.Percent.encode (inSegment kind) (visible cs) := rfl

lemma inSegment_percent (kind : Kind) : inSegment kind '%' = true := by cases kind <;> decide

/-- Segments look the same only if what they were made of does. -/
lemma segmentOf_eq_iff : segmentOf kind cs = segmentOf kind ds ↔ visible cs = visible ds := by
  rw [segmentOf_eq, segmentOf_eq, (Text.Percent.encode_injective (inSegment_percent kind)).eq_iff]

lemma segmentOf_eq_nil_iff : segmentOf kind cs = [] ↔ visible cs = [] :=
  Text.Percent.encode_eq_nil_iff

/-- A segment has no character that ends it. -/
lemma notMem_segmentOf {c : Char} (hc : c ∈ ['/', '?', '#']) : c ∉ segmentOf kind cs := by
  have hends : ∀ c ∈ ['/', '?', '#'], inSegment kind c = true ∧ c ≠ '%' ∧
      Text.Percent.digit? c = none := by
    cases kind <;> exact List.all_iff_forall_prop.mp (by decide)
  obtain ⟨hset, hpercent, hdigit⟩ := hends c hc
  exact Text.Percent.notMem_encode hset hpercent hdigit

/-- Dots are written as they are. -/
lemma encode_dots (kind : Kind) (n : Nat) :
    Text.Percent.encode (inSegment kind) (List.replicate n '.') = List.replicate n '.' := by
  refine Text.Percent.encode_of_none fun c hc => ?_
  rw [List.eq_of_mem_replicate hc]
  cases kind <;> decide

lemma visible_eq_of_decode {n : Nat}
    (h : Text.Percent.decode (segmentOf kind cs) = List.replicate n 0x2e) :
    visible cs = List.replicate n '.' := by
  refine Text.Percent.flatMap_utf8EncodeChar_injective ?_
  have hdots : String.utf8EncodeChar '.' = [0x2e] := by decide
  rw [segmentOf_eq, Text.Percent.decode_encode (inSegment_percent kind)] at h
  simpa [List.flatMap_replicate, hdots] using h

/-- A segment stands for the directory itself only if it looks like that. -/
lemma isSingleDot_segmentOf_iff : isSingleDot (segmentOf kind cs) = true ↔ visible cs = ['.'] := by
  refine ⟨fun h => visible_eq_of_decode (n := 1) (decode_of_isSingleDot h), fun h => ?_⟩
  rw [segmentOf_eq, h]
  exact congrArg (fun cs => isSingleDot cs) (encode_dots kind 1)

lemma isDoubleDot_segmentOf_iff :
    isDoubleDot (segmentOf kind cs) = true ↔ visible cs = ['.', '.'] := by
  refine ⟨fun h => visible_eq_of_decode (n := 2) (decode_of_isDoubleDot h), fun h => ?_⟩
  rw [segmentOf_eq, h]
  exact congrArg (fun cs => isDoubleDot cs) (encode_dots kind 2)

/-- What a text is for a path to which it is added. -/
lemma addSegment_cases (kind : Kind) (hpath : 1 < path.length) (cs : List Char) :
    (cs = ['.'] ∨ cs = ['.', '.']) ∧ addSegment kind path cs = path ∨
    (¬(cs = ['.'] ∨ cs = ['.', '.']) ∧
      (visible cs = ['.', '.'] ∧ addSegment kind path cs = path.dropLast ++ [[]] ∨
      visible cs = ['.'] ∧ addSegment kind path cs = path ++ [[]] ∨
      visible cs ≠ ['.', '.'] ∧ visible cs ≠ ['.'] ∧
        addSegment kind path cs = path ++ [segmentOf kind cs])) := by
  have hroot : path ≠ [[]] := by
    rintro rfl
    simp at hpath
  have hempty : path ≠ [] := by
    rintro rfl
    simp at hpath
  have hshorten : shorten kind path = path.dropLast := by
    unfold shorten
    split
    · simp at hpath
    · rfl
  unfold addSegment
  split_ifs with hdots
  · exact Or.inl ⟨hdots, rfl⟩
  · refine Or.inr ⟨hdots, ?_⟩
    rw [walk]
    split_ifs with hdouble hsingle
    · exact Or.inl ⟨isDoubleDot_segmentOf_iff.mp hdouble, by rw [hshorten]⟩
    · exact Or.inr (Or.inl ⟨isSingleDot_segmentOf_iff.mp hsingle, rfl⟩)
    · refine Or.inr (Or.inr ⟨fun heq => hdouble (isDoubleDot_segmentOf_iff.mpr heq),
        fun heq => hsingle (isSingleDot_segmentOf_iff.mpr heq), ?_⟩)
      rw [push, if_neg (by simp [hempty])]

/-! ### Segments with names -/

/-- A text that is a segment as it stands. -/
structure IsName (kind : Kind) (cs : List Char) : Prop where
  nonempty : cs ≠ []
  segment : segmentOf kind cs = cs
  notSingle : isSingleDot cs = false
  notDouble : isDoubleDot cs = false
  notDrive : isDrive cs = false

lemma addSegment_name (hcs : IsName kind cs) (path : List (List Char)) :
    addSegment kind path cs = (if path = [[]] then [] else path) ++ [cs] := by
  have hdots : ¬(cs = ['.'] ∨ cs = ['.', '.']) := by
    rintro (rfl | rfl)
    · exact absurd hcs.notSingle (by decide)
    · exact absurd hcs.notDouble (by decide)
  unfold addSegment
  rw [if_neg hdots, hcs.segment, walk, hcs.notDouble, hcs.notSingle, push]
  simp [hcs.notDrive]

/-- The segments of a path to which others are added: an empty one at its end is left out, and a path
of two empty ones counts as an empty path. -/
def stem (ps : List String) : List String :=
  if ps = ["", ""] then [] else if ps.getLast? = some "" then ps.dropLast else ps

lemma stem_eq (ps : List String) : (stem ps).map String.toList =
    if popEmpty (ps.map String.toList) = [[]] then [] else popEmpty (ps.map String.toList) := by
  have hroot : ∀ qs : List String, qs.map String.toList = [[]] ↔ qs = [""] := fun qs =>
    (List.map_injective_iff.mpr fun _ _ => String.toList_injective).eq_iff (b := [""])
  by_cases hlast : ps.getLast? = some ""
  · obtain ⟨front, rfl⟩ := List.getLast?_eq_some_iff.mp hlast
    cases front with
    | nil => rfl
    | cons p front =>
        have hpop : popEmpty ((p :: front ++ [""]).map String.toList) =
            (p :: front).map String.toList := by
          rw [List.map_append, popEmpty, if_pos ⟨by simp, List.getLast?_concat⟩,
            List.map_singleton, List.dropLast_concat]
        have htwo : p :: front ++ [""] = ["", ""] ↔ p :: front = [""] := by simp
        rw [hpop]
        simp only [stem, htwo, hroot, if_pos hlast, List.dropLast_concat]
        split_ifs <;> rfl
  · have hpop : popEmpty (ps.map String.toList) = ps.map String.toList := by
      refine if_neg fun h => hlast ?_
      obtain ⟨last, hlast, hempty⟩ := Option.map_eq_some_iff.mp ((List.getLast?_map).symm.trans h.2)
      rw [hlast, String.toList_eq_nil_iff.mp hempty]
    have htwo : ps ≠ ["", ""] := by
      rintro rfl
      exact hlast rfl
    have hone : ps ≠ [""] := by
      rintro rfl
      exact hlast rfl
    rw [hpop, stem, if_neg htwo, if_neg hlast, if_neg (mt (hroot ps).mp hone)]

lemma foldl_addSegment {names : List String} (hnames : ∀ name ∈ names, IsName kind name.toList)
    (hpath : path ≠ [[]]) : names.foldl (fun p t => addSegment kind p t.toList) path =
      path ++ names.map String.toList := by
  induction names generalizing path with
  | nil => simp
  | cons name names ih =>
      obtain ⟨hname, hnames⟩ := List.forall_mem_cons.mp hnames
      have hnext : path ++ [name.toList] ≠ [[]] := by
        intro heq
        exact hname.nonempty (by simpa using congrArg List.getLast? heq)
      rw [List.foldl_cons, addSegment_name hname, if_neg hpath, ih hnames hnext]
      simp

/-- Names are put behind the path. -/
lemma foldl_names {names : List String} (hne : names ≠ [])
    (hnames : ∀ name ∈ names, IsName kind name.toList) (ps : List String) :
    names.foldl (fun p t => addSegment kind p t.toList) (popEmpty (ps.map String.toList)) =
      (stem ps ++ names).map String.toList := by
  obtain ⟨name, names, rfl⟩ := List.exists_cons_of_ne_nil hne
  obtain ⟨hname, hrest⟩ := List.forall_mem_cons.mp hnames
  have hnext : (stem ps).map String.toList ++ [name.toList] ≠ [[]] := by
    intro heq
    exact hname.nonempty (by simpa using congrArg List.getLast? heq)
  rw [List.foldl_cons, addSegment_name hname, ← stem_eq, foldl_addSegment hrest hnext]
  simp

variable {a : Address} {ps names : List String}

/-- Nothing but the path changes when segments are added. -/
lemma exists_add? (hpath : a.path = .segments ps) (texts : List String) :
    ∃ ps', a.add? texts = some { a with path := .segments ps' } := by
  unfold add?
  rw [hpath]
  exact ⟨_, rfl⟩

/-- Names and any text behind them that are added to an address. -/
lemma add?_text (hpath : a.path = .segments ps) (hne : names ≠ [])
    (hnames : ∀ name ∈ names, IsName (Kind.ofScheme a.scheme) name.toList) (text : String) :
    a.add? (names ++ [text]) = some { a with path := .segments ((addSegment (Kind.ofScheme a.scheme)
      ((stem ps ++ names).map String.toList) text.toList).map String.ofList) } := by
  unfold add?
  rw [hpath]
  dsimp only
  rw [List.foldl_append, foldl_names hne hnames]
  rfl

end Address

end Roster
