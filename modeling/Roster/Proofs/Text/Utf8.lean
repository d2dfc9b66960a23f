import Mathlib.Tactic.SplitIfs
import Roster.Proofs.Lists
import Roster.Text.Utf8

/-!
# Characters and stray bytes

What is found in bytes: a byte that is ASCII is a character of its own, wherever it stands, and all
bytes of other characters are not ASCII.

* `of_first?`: what the bytes of a character are like.
* `some_mem_scanFrom`, `exists_of_some_mem_scanFrom`: the characters in some bytes that are ASCII
  are the bytes that are ASCII.
* `decode_eq_some_iff`: bytes encode a text if each of them belongs to a character.
* `decode_of_ascii`: a text in ASCII is read from its bytes.
* `decodeWith_of_decode`: no mark stands in bytes that encode a text.
-/

namespace Roster.Text.Utf8

variable {a b : UInt8} {bs : List UInt8} {c : Char} {cs : List Char} {least more n : Nat}

/-! ### One character -/

/-- A byte behind the first one of a character is not ASCII. -/
lemma le_of_tail? (h : tail? b = some n) : 0x80 ≤ b.toNat := by
  unfold tail? at h
  split_ifs at h with hb
  exact hb.1

lemma of_scalar? (h : scalar? least n = some c) : c.toNat = n ∧ least ≤ n := by
  rw [scalar?, Option.dite_none_right_eq_some] at h
  obtain ⟨hn, h⟩ := h
  rw [Option.ite_none_right_eq_some] at h
  obtain ⟨hle, h⟩ := h
  obtain rfl := Option.some.inj h
  exact ⟨rfl, hle⟩

/-- A byte that is ASCII is a character. -/
lemma first?_of_ascii (ha : a.toNat < 0x80) : first? a bs = some (Char.ofNat a.toNat, 0) := by
  have hvalid : a.toNat.isValidChar := Or.inl (by omega)
  have hchar : scalar? 0 a.toNat = some (Char.ofNat a.toNat) := by
    rw [scalar?, dif_pos hvalid, if_pos (Nat.zero_le _), Char.ofNat, dif_pos hvalid]
  simp only [first?, if_pos ha, hchar, Option.map_some]

/-- The one byte of a character in ASCII is its number, and no byte of another one is ASCII. -/
lemma of_first? (h : first? a bs = some (c, more)) :
    a.toNat < 0x80 ∧ c.toNat = a.toNat ∧ more = 0 ∨
      0x80 ≤ a.toNat ∧ 0x80 ≤ c.toNat ∧ ∀ x ∈ bs.take more, 0x80 ≤ x.toNat := by
  unfold first? at h
  dsimp only at h
  split_ifs at h with hone htwo hthree hfour
  · obtain ⟨d, hd, heq⟩ := Option.map_eq_some_iff.mp h
    cases heq
    exact Or.inl ⟨hone, (of_scalar? hd).1, rfl⟩
  · split at h
    · simp only [Option.bind_eq_bind, Option.bind_eq_some_iff] at h
      obtain ⟨_, hb, d, hd, heq⟩ := h
      cases heq
      obtain ⟨hn, hle⟩ := of_scalar? hd
      refine Or.inr ⟨by omega, by omega, ?_⟩
      simpa using le_of_tail? hb
    · cases h
  · split at h
    · simp only [Option.bind_eq_bind, Option.bind_eq_some_iff] at h
      obtain ⟨_, hb, _, hb', d, hd, heq⟩ := h
      cases heq
      obtain ⟨hn, hle⟩ := of_scalar? hd
      refine Or.inr ⟨by omega, by omega, ?_⟩
      simpa using ⟨le_of_tail? hb, le_of_tail? hb'⟩
    · cases h
  · split at h
    · simp only [Option.bind_eq_bind, Option.bind_eq_some_iff] at h
      obtain ⟨_, hb, _, hb', _, hb'', d, hd, heq⟩ := h
      cases heq
      obtain ⟨hn, hle⟩ := of_scalar? hd
      refine Or.inr ⟨by omega, by omega, ?_⟩
      simpa using ⟨le_of_tail? hb, le_of_tail? hb', le_of_tail? hb''⟩
    · cases h

/-! ### All characters -/

/-- A byte that is ASCII is a character of its own. -/
lemma some_mem_scanFrom (hascii : b.toNat < 0x80) (hb : b ∈ bs)
    (hmore : ∀ x ∈ bs.take more, 0x80 ≤ x.toNat) :
    some (Char.ofNat b.toNat) ∈ scanFrom more bs := by
  fun_induction scanFrom more bs with
  | case1 => cases hb
  | case2 more a bs ih =>
      rw [List.take_succ_cons, List.forall_mem_cons] at hmore
      rcases List.mem_cons.mp hb with rfl | hb
      · omega
      · exact ih hb hmore.2
  | case3 a bs c more hfirst ih =>
      rcases List.mem_cons.mp hb with rfl | hb
      · rw [first?_of_ascii hascii] at hfirst
        cases hfirst
        exact List.mem_cons_self
      · refine List.mem_cons_of_mem _ (ih hb ?_)
        rcases of_first? hfirst with ⟨-, -, rfl⟩ | ⟨-, -, hmore⟩
        · simp
        · exact hmore
  | case4 a bs hfirst ih =>
      rcases List.mem_cons.mp hb with rfl | hb
      · rw [first?_of_ascii hascii] at hfirst
        cases hfirst
      · exact List.mem_cons_of_mem _ (ih hb (by simp))

/-- A character that is ASCII is a byte of its own. -/
lemma exists_of_some_mem_scanFrom (hascii : c.toNat < 0x80) (h : some c ∈ scanFrom more bs) :
    ∃ b ∈ bs, b.toNat = c.toNat := by
  fun_induction scanFrom more bs with
  | case1 => cases h
  | case2 more a bs ih =>
      obtain ⟨b, hb, heq⟩ := ih h
      exact ⟨b, List.mem_cons_of_mem _ hb, heq⟩
  | case3 a bs d more hfirst ih =>
      rcases List.mem_cons.mp h with heq | h
      · obtain rfl := Option.some.inj heq
        rcases of_first? hfirst with ⟨-, hc, -⟩ | ⟨-, hc, -⟩
        · exact ⟨a, List.mem_cons_self, hc.symm⟩
        · omega
      · obtain ⟨b, hb, heq⟩ := ih h
        exact ⟨b, List.mem_cons_of_mem _ hb, heq⟩
  | case4 a bs hfirst ih =>
      rcases List.mem_cons.mp h with heq | h
      · cases heq
      · obtain ⟨b, hb, heq⟩ := ih h
        exact ⟨b, List.mem_cons_of_mem _ hb, heq⟩

lemma decode_eq_some_iff : decode bs = some cs ↔ scan bs = cs.map some := by
  rw [decode, mapM_eq_some_iff, ← List.forall₂_eq_eq_eq, List.forall₂_map_right_iff]
  rfl

/-- A byte that is ASCII is read as a character of its own. -/
lemma mem_of_decode (hb : b ∈ bs) (hascii : b.toNat < 0x80) (h : decode bs = some cs) :
    Char.ofNat b.toNat ∈ cs := by
  have hmem : some (Char.ofNat b.toNat) ∈ scan bs := some_mem_scanFrom hascii hb (by simp)
  rw [decode_eq_some_iff.mp h] at hmem
  simpa using hmem

/-- A character of ASCII is one byte. -/
lemma encodeChar_of_ascii (hc : c.toNat < 0x80) :
    String.utf8EncodeChar c = [UInt8.ofNat c.toNat] := by
  have hval : c.val.toNat ≤ 0x7F := Nat.le_of_lt_succ hc
  unfold String.utf8EncodeChar
  dsimp only
  rw [if_pos hval]
  rfl

/-- A text in ASCII is read from its bytes. -/
lemma decode_of_ascii (hcs : ∀ c ∈ cs, c.toNat < 0x80) :
    decode (cs.flatMap String.utf8EncodeChar) = some cs := by
  rw [decode_eq_some_iff]
  induction cs with
  | nil => rfl
  | cons c cs ih =>
      obtain ⟨hc, hcs⟩ := List.forall_mem_cons.mp hcs
      have hbyte : (UInt8.ofNat c.toNat).toNat = c.toNat := by
        rw [UInt8.toNat_ofNat', Nat.mod_eq_of_lt (by omega)]
      rw [List.flatMap_cons, encodeChar_of_ascii hc, List.singleton_append, scan, scanFrom,
        first?_of_ascii (by omega), hbyte, Char.ofNat_toNat]
      exact congrArg (some c :: ·) (ih hcs)

/-- **No mark stands in a text.** If bytes encode a text, this is what is read with any mark. -/
theorem decodeWith_of_decode (mark : List Char) (h : decode bs = some cs) :
    decodeWith mark bs = cs := by
  rw [decodeWith, decode_eq_some_iff.mp h, List.flatMap_map]
  simp

end Roster.Text.Utf8
