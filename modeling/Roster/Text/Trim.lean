/-!
# Trimming text

A text is a list of characters, and trimming takes the characters of a class off
both of its ends.

* `isBlank` is the class of the Unicode property `White_Space`.
* `trimBy_of_ends` says that a text whose two ends lie outside the class is left alone,
  and `trimBy_surround` that padding made of the class is taken off again.
-/

namespace Roster.Text

/-- The characters with the Unicode property `White_Space`. -/
def isBlank (c : Char) : Bool :=
  let n := c.toNat
  (0x9 ≤ n && n ≤ 0xD) || n == 0x20 || n == 0x85 || n == 0xA0 || n == 0x1680 ||
    (0x2000 ≤ n && n ≤ 0x200A) || n == 0x2028 || n == 0x2029 || n == 0x202F ||
    n == 0x205F || n == 0x3000

/-- The control characters up to `U+001F`, and the space. -/
def isControlOrSpace (c : Char) : Bool := c.toNat ≤ 0x20

/-- The text without the characters of the class `p` at its two ends. -/
def trimBy (p : Char → Bool) (cs : List Char) : List Char :=
  ((cs.dropWhile p).reverse.dropWhile p).reverse

/-- The text without white space at its two ends. -/
def trim (cs : List Char) : List Char := trimBy isBlank cs

/-! ### What trimming leaves -/

theorem trimBy_nil (p : Char → Bool) : trimBy p [] = [] := rfl

theorem trimBy_of_ends {p : Char → Bool} {c d : Char} {cs ds : List Char}
    (hs : cs = ds) (hc : ds.head? = some c) (hd : ds.getLast? = some d)
    (pc : p c = false) (pd : p d = false) : trimBy p cs = ds := by
  subst hs
  have h1 : cs.dropWhile p = cs := by
    cases cs with
    | nil => rfl
    | cons x xs => simp_all
  have h2 : cs.reverse.dropWhile p = cs.reverse := by
    cases h : cs.reverse with
    | nil => rfl
    | cons x xs =>
      have : cs.getLast? = some x := by
        rw [← List.head?_reverse, h]; rfl
      simp_all
  rw [trimBy, h1, h2, List.reverse_reverse]

theorem dropWhile_append_of_all {p : Char → Bool} {pre cs : List Char}
    (h : ∀ c ∈ pre, p c = true) : (pre ++ cs).dropWhile p = cs.dropWhile p := by
  induction pre with
  | nil => rfl
  | cons x xs ih =>
    rw [List.cons_append, List.dropWhile_cons, if_pos (h x (by simp))]
    exact ih fun c hc => h c (by simp [hc])

theorem dropWhile_eq_nil {p : Char → Bool} {cs : List Char} :
    cs.dropWhile p = [] ↔ ∀ c ∈ cs, p c = true := by
  induction cs with
  | nil => simp
  | cons x xs ih =>
    rw [List.dropWhile_cons]
    cases h : p x <;> simp [h, ih]

/-- Padding made of the class is taken off again. -/
theorem trimBy_surround {p : Char → Bool} {pre post cs : List Char}
    (hpre : ∀ c ∈ pre, p c = true) (hpost : ∀ c ∈ post, p c = true) :
    trimBy p (pre ++ cs ++ post) = trimBy p cs := by
  have key : ∀ ds : List Char, ((ds ++ post).reverse.dropWhile p).reverse
      = (ds.reverse.dropWhile p).reverse := by
    intro ds
    rw [List.reverse_append, dropWhile_append_of_all (by simpa using hpost)]
  rw [trimBy, List.append_assoc, dropWhile_append_of_all hpre, trimBy]
  by_cases h : ∀ c ∈ cs, p c = true
  · have h1 : (cs ++ post).dropWhile p = [] := by
      rw [dropWhile_eq_nil]
      intro c hc
      rcases List.mem_append.1 hc with hc | hc
      · exact h c hc
      · exact hpost c hc
    have h2 : cs.dropWhile p = [] := by
      exact dropWhile_eq_nil.2 h
    rw [h1, h2]
  · have h1 : (cs ++ post).dropWhile p = cs.dropWhile p ++ post := by
      rw [List.dropWhile_append]
      have : (cs.dropWhile p).isEmpty = false := by
        cases hd : cs.dropWhile p with
        | nil => exact absurd (dropWhile_eq_nil.1 hd) h
        | cons => rfl
      simp [this]
    rw [h1, key]

end Roster.Text
