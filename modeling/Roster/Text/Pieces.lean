/-!
# Cutting text at separators

* `pieces` cuts a text at every character of a class, so a text with `n` separators has
  `n + 1` pieces, the empty text one.
* `joined` writes pieces with one separator between two of them, and `joined_pieces` says
  that this undoes a cut at that separator.
* `cutAt` splits a text in front of the first character of a class.
-/

namespace Roster.Text

/-- The pieces between the separators of the class `p`; there is always at least one. -/
def pieces (p : Char → Bool) : List Char → List (List Char)
  | [] => [[]]
  | c :: cs =>
    if p c then [] :: pieces p cs
    else match pieces p cs with
      | [] => [[c]]
      | w :: ws => (c :: w) :: ws

/-- The pieces with `sep` between them. -/
def joined (sep : Char) : List (List Char) → List Char
  | [] => []
  | [w] => w
  | w :: v :: ws => w ++ sep :: joined sep (v :: ws)

/-- The text in front of the first character of the class `p`, and the rest from there on. -/
def cutAt (p : Char → Bool) (cs : List Char) : List Char × List Char :=
  (cs.takeWhile fun c => !p c, cs.dropWhile fun c => !p c)

theorem pieces_ne_nil (p : Char → Bool) (cs : List Char) : pieces p cs ≠ [] := by
  cases cs with
  | nil => simp [pieces]
  | cons c cs =>
    rw [pieces]
    split
    · simp
    · split <;> simp

/-- A cut at one character is undone by writing that character between the pieces. -/
theorem joined_pieces (sep : Char) (cs : List Char) :
    joined sep (pieces (fun c => c == sep) cs) = cs := by
  induction cs with
  | nil => rfl
  | cons c cs ih =>
    have hne := pieces_ne_nil (fun c => c == sep) cs
    rw [pieces]
    cases hp : pieces (fun c => c == sep) cs with
    | nil => exact absurd hp hne
    | cons w ws =>
      rw [hp] at ih
      split
      · rename_i h
        have : c = sep := by simpa using h
        rw [joined, ih, this, List.nil_append]
      · cases ws with
        | nil => simpa [joined] using ih
        | cons v vs => simpa [joined] using ih

/-- A text without separators is one piece. -/
theorem pieces_of_none {p : Char → Bool} {cs : List Char} (h : ∀ c ∈ cs, p c = false) :
    pieces p cs = [cs] := by
  induction cs with
  | nil => rfl
  | cons c cs ih => rw [pieces, h c (by simp), ih fun d hd => h d (by simp [hd])]; rfl

end Roster.Text
