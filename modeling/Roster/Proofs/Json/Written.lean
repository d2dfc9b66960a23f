import Mathlib.Tactic.IntervalCases
import Roster.Json.Reader

/-!
# Data that is written is read back

Data without numbers, with lists and tables inside each other that are not too many, is read back
from its text, whether it is written in one line or in many. A text in quotes is read back whatever
its characters are.

* `readText_quoted`: a text is read back from between its quotes.
* `Layout`, `Value.written`: the white space between the parts of a text, and data written with it.
  `compact_eq_written` and `prettyAt_eq_written` say that the two ways of writing data are of this
  kind.
* `Value.Fits`: data without numbers that is not too deep.
* `Value.ofText_written`: such data is read back.
-/

namespace Roster.Json

variable {strict : Bool} {acc cs ws rest : List Char}

/-! ### Texts in quotes -/

/-- Four digits stand for a control character. -/
lemma readTextFrom_controlDigits (strict : Bool) (acc rest : List Char) {n : Nat} (hn : n < 0x20) :
    readTextFrom strict acc .escaped ('u' :: (controlDigits (Char.ofNat n) ++ rest)) =
      readTextFrom strict (Char.ofNat n :: acc) .plain rest := by
  interval_cases n <;> rfl

lemma eq_of_toNat_beq {c : Char} {n : Nat} (h : (c.toNat == n) = true) : c = Char.ofNat n := by
  rw [← beq_iff_eq.mp h, Char.ofNat_toNat]

/-- A character is read back, whether it is written as it is or behind a backslash. -/
lemma readTextFrom_quotedChar (c : Char) :
    readTextFrom strict acc .plain (quotedChar c ++ rest) =
      readTextFrom strict (c :: acc) .plain rest := by
  unfold quotedChar
  split_ifs with hquote hslash hn hr ht hb hf hcontrol
  · rw [beq_iff_eq.mp hquote]
    rfl
  · rw [beq_iff_eq.mp hslash]
    rfl
  · rw [beq_iff_eq.mp hn]
    rfl
  · rw [beq_iff_eq.mp hr]
    rfl
  · rw [beq_iff_eq.mp ht]
    rfl
  · rw [eq_of_toNat_beq hb]
    rfl
  · rw [eq_of_toNat_beq hf]
    rfl
  · have hread := readTextFrom_controlDigits strict acc rest hcontrol
    rw [Char.ofNat_toNat] at hread
    rw [← hread]
    rfl
  · rw [List.singleton_append, readTextFrom, if_neg hquote, if_neg hslash, if_neg hcontrol]

lemma readTextFrom_quoted (cs : List Char) :
    readTextFrom strict acc .plain (cs.flatMap quotedChar ++ '"' :: rest) =
      .ok (acc.reverse ++ cs, rest) := by
  induction cs generalizing acc with
  | nil => simp [readTextFrom]
  | cons c cs ih =>
      rw [List.flatMap_cons, List.append_assoc, readTextFrom_quotedChar, ih]
      simp

/-- **A text in quotes is read back.** -/
theorem readText_quoted (cs rest : List Char) :
    readText strict (cs.flatMap quotedChar ++ '"' :: rest) = .ok (cs, rest) :=
  readTextFrom_quoted cs

/-! ### White space -/

/-- White space between the parts of a text. -/
def IsBlank (ws : List Char) : Prop := ∀ c ∈ ws, isSpace c = true

lemma isBlank_nil : IsBlank [] := nofun

lemma skipSpace_blank (hws : IsBlank ws) (cs : List Char) : skipSpace (ws ++ cs) = skipSpace cs :=
  List.dropWhile_append_of_pos hws

lemma skipSpace_cons {c : Char} (hc : isSpace c = false) (cs : List Char) :
    skipSpace (c :: cs) = c :: cs := by
  rw [skipSpace, List.dropWhile_cons, if_neg (by simp [hc])]

/-- The white space between the parts of a text. -/
structure Layout where
  /-- What stands in front of an item or a member at a depth, and of the bracket behind the last
  one. -/
  gap : Nat → List Char
  /-- What stands behind a colon. -/
  colon : List Char
  blank_gap : ∀ depth, IsBlank (gap depth)
  blank_colon : IsBlank colon

namespace Value

mutual

/-- Data with white space between its parts, at a depth. -/
def written (l : Layout) (depth : Nat) : Value → List Char
  | list [] => ['[', ']']
  | list (v :: vs) =>
    '[' :: (l.gap (depth + 1) ++ written l (depth + 1) v ++ writtenItems l depth vs)
  | table [] => ['\x7b', '\x7d']
  | table ((k, v) :: ms) =>
    '\x7b' :: (l.gap (depth + 1) ++ quoted k ++ ':' :: (l.colon ++ written l (depth + 1) v ++
      writtenMembers l depth ms))
  | null => "null".toList
  | bool b => (if b then "true" else "false").toList
  | number n => n.chars
  | text cs => quoted cs

/-- The items behind the first one, up to the closing bracket. -/
def writtenItems (l : Layout) (depth : Nat) : List Value → List Char
  | [] => l.gap depth ++ [']']
  | v :: vs => ',' :: (l.gap (depth + 1) ++ written l (depth + 1) v ++ writtenItems l depth vs)

/-- The members behind the first one, up to the closing brace. -/
def writtenMembers (l : Layout) (depth : Nat) : List (List Char × Value) → List Char
  | [] => l.gap depth ++ ['\x7d']
  | (k, v) :: ms =>
    ',' :: (l.gap (depth + 1) ++ quoted k ++ ':' :: (l.colon ++ written l (depth + 1) v ++
      writtenMembers l depth ms))

end

end Value

/-- No white space. -/
def Layout.tight : Layout := ⟨fun _ => [], [], fun _ => nofun, nofun⟩

/-- A line for each item and member. -/
def Layout.lines : Layout where
  gap := Value.newline
  colon := [' ']
  blank_gap depth c hc := by
    rcases List.mem_cons.mp hc with rfl | hc
    · rfl
    · rw [List.eq_of_mem_replicate hc]
      rfl
  blank_colon c hc := by
    rw [List.mem_singleton.mp hc]
    rfl

namespace Value

mutual

lemma compact_eq_written (depth : Nat) : (v : Value) → v.compact = v.written .tight depth
  | list [] => rfl
  | list (v :: vs) => by
      rw [compact, written, compact_eq_written (depth + 1) v, compactItems_eq_written depth vs]
      rfl
  | table [] => rfl
  | table ((k, v) :: ms) => by
      rw [compact, written, compact_eq_written (depth + 1) v, compactMembers_eq_written depth ms]
      simp [Layout.tight]
  | null => rfl
  | bool b => rfl
  | number n => rfl
  | text cs => rfl

lemma compactItems_eq_written (depth : Nat) :
    (vs : List Value) → compactItems vs = writtenItems .tight depth vs
  | [] => rfl
  | v :: vs => by
      rw [compactItems, writtenItems, compact_eq_written (depth + 1) v,
        compactItems_eq_written depth vs]
      rfl

lemma compactMembers_eq_written (depth : Nat) :
    (ms : List (List Char × Value)) → compactMembers ms = writtenMembers .tight depth ms
  | [] => rfl
  | (k, v) :: ms => by
      rw [compactMembers, writtenMembers, compact_eq_written (depth + 1) v,
        compactMembers_eq_written depth ms]
      simp [Layout.tight]

end

mutual

lemma prettyAt_eq_written (depth : Nat) : (v : Value) → v.prettyAt depth = v.written .lines depth
  | list [] => rfl
  | list (v :: vs) => by
      rw [prettyAt, written, prettyAt_eq_written (depth + 1) v, prettyItems_eq_written depth vs]
      rfl
  | table [] => rfl
  | table ((k, v) :: ms) => by
      rw [prettyAt, written, prettyAt_eq_written (depth + 1) v, prettyMembers_eq_written depth ms]
      simp [Layout.lines]
  | null => rfl
  | bool b => rfl
  | number n => rfl
  | text cs => rfl

lemma prettyItems_eq_written (depth : Nat) :
    (vs : List Value) → prettyItems depth vs = writtenItems .lines depth vs
  | [] => rfl
  | v :: vs => by
      rw [prettyItems, writtenItems, prettyAt_eq_written (depth + 1) v,
        prettyItems_eq_written depth vs]
      rfl

lemma prettyMembers_eq_written (depth : Nat) :
    (ms : List (List Char × Value)) → prettyMembers depth ms = writtenMembers .lines depth ms
  | [] => rfl
  | (k, v) :: ms => by
      rw [prettyMembers, writtenMembers, prettyAt_eq_written (depth + 1) v,
        prettyMembers_eq_written depth ms]
      simp [Layout.lines]

end

/-! ### Reading what was written -/

/-- Data without numbers, with at most so many lists and tables inside each other. -/
inductive Fits : Nat → Value → Prop
  | null {depth : Nat} : Fits depth .null
  | bool {depth : Nat} {b : Bool} : Fits depth (.bool b)
  | text {depth : Nat} {cs : List Char} : Fits depth (.text cs)
  | list {depth : Nat} {vs : List Value} (h : ∀ v ∈ vs, Fits depth v) :
      Fits (depth + 1) (.list vs)
  | table {depth : Nat} {ms : List (List Char × Value)} (h : ∀ m ∈ ms, Fits depth m.2) :
      Fits (depth + 1) (.table ms)

/-- Data is read back from its text, whatever follows. Two steps for each character are enough. -/
structure ReadBack (l : Layout) (limit depth : Nat) (v : Value) : Prop where
  head : ∃ c cs, v.written l depth = c :: cs ∧ isSpace c = false ∧ c ≠ ']'
  read : ∀ fuel rest, 2 * (v.written l depth).length ≤ fuel + 1 →
    readValue true (fuel + 1) limit (v.written l depth ++ rest) = .ok (v, rest)

end Value

open Value

variable {l : Layout} {limit depth fuel : Nat}

/-! ### White space in front -/

lemma readValue_blank (hws : IsBlank ws) (fuel limit : Nat) (cs : List Char) :
    readValue true fuel limit (ws ++ cs) = readValue true fuel limit cs := by
  cases fuel with
  | zero => rfl
  | succ fuel => simp only [readValue, skipSpace_blank hws]

lemma readItems_blank (hws : IsBlank ws) (fuel limit : Nat) (cs : List Char) :
    readItems true fuel limit (ws ++ cs) = readItems true fuel limit cs := by
  cases fuel with
  | zero => rfl
  | succ fuel => simp only [readItems, readValue_blank hws]

lemma readMembers_blank (hws : IsBlank ws) (fuel limit : Nat) (cs : List Char) :
    readMembers true fuel limit (ws ++ cs) = readMembers true fuel limit cs := by
  cases fuel with
  | zero => rfl
  | succ fuel => simp only [readMembers, readName, skipSpace_blank hws]

lemma quoted_append (cs rest : List Char) :
    quoted cs ++ rest = '"' :: (cs.flatMap quotedChar ++ '"' :: rest) := by
  simp [quoted]

/-! ### Lists -/

lemma skipSpace_writtenItems_nil (rest : List Char) :
    skipSpace (writtenItems l depth [] ++ rest) = ']' :: rest := by
  rw [writtenItems, List.append_assoc, skipSpace_blank (l.blank_gap _)]
  rfl

lemma skipSpace_writtenItems_cons (v : Value) (vs : List Value) (rest : List Char) :
    skipSpace (writtenItems l depth (v :: vs) ++ rest) = ',' :: (l.gap (depth + 1) ++
      (v.written l (depth + 1) ++ (writtenItems l depth vs ++ rest))) := by
  rw [writtenItems, List.cons_append, skipSpace_cons rfl, List.append_assoc, List.append_assoc]

lemma readItems_written {v : Value} {vs : List Value} (rest : List Char)
    (hv : ReadBack l limit (depth + 1) v) (hvs : ∀ v ∈ vs, ReadBack l limit (depth + 1) v)
    (hfuel : 2 * (v.written l (depth + 1) ++ writtenItems l depth vs).length ≤ fuel) :
    readItems true fuel limit (v.written l (depth + 1) ++ (writtenItems l depth vs ++ rest)) =
      .ok (v :: vs, rest) := by
  induction vs generalizing v fuel with
  | nil =>
      simp only [writtenItems, List.length_append, List.length_singleton] at hfuel
      obtain ⟨fuel, rfl⟩ : ∃ n, fuel = n + 2 := ⟨fuel - 2, by omega⟩
      rw [readItems, hv.read fuel _ (by omega)]
      simp only [bind, Except.bind, skipSpace_writtenItems_nil]
      rfl
  | cons w vs ih =>
      obtain ⟨hw, hvs⟩ := List.forall_mem_cons.mp hvs
      simp only [writtenItems, List.length_append, List.length_cons] at hfuel
      obtain ⟨fuel, rfl⟩ : ∃ n, fuel = n + 2 := ⟨fuel - 2, by omega⟩
      rw [readItems, hv.read fuel _ (by omega)]
      simp only [bind, Except.bind, skipSpace_writtenItems_cons]
      rw [readItems_blank (l.blank_gap _), ih hw hvs (by simp only [List.length_append]; omega)]
      rfl

lemma readValue_bracket (fuel limit : Nat) (cs : List Char) :
    readValue true (fuel + 1) (limit + 1) ('[' :: cs) = match skipSpace cs with
      | ']' :: rest => .ok (.list [], rest)
      | rest => (readItems true fuel limit rest).map fun (vs, rest) => (.list vs, rest) := rfl

lemma readBack_list {vs : List Value} (hvs : ∀ v ∈ vs, ReadBack l limit (depth + 1) v) :
    ReadBack l (limit + 1) depth (.list vs) := by
  cases vs with
  | nil => exact ⟨⟨_, _, rfl, rfl, by decide⟩, fun fuel rest _ => rfl⟩
  | cons v vs =>
      refine ⟨⟨_, _, rfl, rfl, by decide⟩, fun fuel rest hfuel => ?_⟩
      simp only [written, List.length_cons, List.length_append] at hfuel
      obtain ⟨hv, hvs⟩ := List.forall_mem_cons.mp hvs
      have hitems := readItems_written rest hv hvs (show 2 * _ ≤ fuel by
        simp only [List.length_append]
        omega)
      obtain ⟨c, cs, hc, hspace, hne⟩ := hv.head
      have htext : written l depth (.list (v :: vs)) ++ rest = '[' :: (l.gap (depth + 1) ++
          (v.written l (depth + 1) ++ (writtenItems l depth vs ++ rest))) := by
        simp [written]
      rw [hc, List.cons_append] at hitems
      rw [htext, readValue_bracket, skipSpace_blank (l.blank_gap _), hc, List.cons_append,
        skipSpace_cons hspace]
      split
      · next heq => exact absurd (List.cons.inj heq).1 hne
      · rw [hitems]
        rfl

/-! ### Tables -/

lemma skipSpace_writtenMembers_nil (rest : List Char) :
    skipSpace (writtenMembers l depth [] ++ rest) = '\x7d' :: rest := by
  rw [writtenMembers, List.append_assoc, skipSpace_blank (l.blank_gap _)]
  rfl

lemma skipSpace_writtenMembers_cons (k : List Char) (v : Value) (ms : List (List Char × Value))
    (rest : List Char) :
    skipSpace (writtenMembers l depth ((k, v) :: ms) ++ rest) = ',' :: (l.gap (depth + 1) ++
      (quoted k ++ ':' :: (l.colon ++ (v.written l (depth + 1) ++
        (writtenMembers l depth ms ++ rest))))) := by
  rw [writtenMembers, List.cons_append, skipSpace_cons rfl]
  simp only [List.append_assoc, List.cons_append]

lemma readName_quoted (k cs : List Char) : readName true (quoted k ++ ':' :: cs) = .ok (k, cs) := by
  rw [readName, quoted_append, skipSpace_cons rfl]
  simp only [readText_quoted, bind, Except.bind]
  rfl

lemma readMembers_written {k : List Char} {v : Value} {ms : List (List Char × Value)}
    (rest : List Char) (hv : ReadBack l limit (depth + 1) v)
    (hms : ∀ m ∈ ms, ReadBack l limit (depth + 1) m.2)
    (hfuel : 2 * (v.written l (depth + 1) ++ writtenMembers l depth ms).length ≤ fuel) :
    readMembers true fuel limit (quoted k ++ ':' :: (l.colon ++ (v.written l (depth + 1) ++
      (writtenMembers l depth ms ++ rest)))) = .ok ((k, v) :: ms, rest) := by
  induction ms generalizing k v fuel with
  | nil =>
      simp only [writtenMembers, List.length_append, List.length_singleton] at hfuel
      obtain ⟨fuel, rfl⟩ : ∃ n, fuel = n + 2 := ⟨fuel - 2, by omega⟩
      rw [readMembers, readName_quoted]
      simp only [bind, Except.bind, readValue_blank l.blank_colon]
      rw [hv.read fuel _ (by omega)]
      simp only [skipSpace_writtenMembers_nil]
      rfl
  | cons m ms ih =>
      obtain ⟨k', w⟩ := m
      obtain ⟨hw, hms⟩ := List.forall_mem_cons.mp hms
      simp only [writtenMembers, List.length_append, List.length_cons] at hfuel
      obtain ⟨fuel, rfl⟩ : ∃ n, fuel = n + 2 := ⟨fuel - 2, by omega⟩
      rw [readMembers, readName_quoted]
      simp only [bind, Except.bind, readValue_blank l.blank_colon]
      rw [hv.read fuel _ (by omega)]
      simp only [skipSpace_writtenMembers_cons]
      rw [readMembers_blank (l.blank_gap _), ih hw hms (by simp only [List.length_append]; omega)]
      rfl

lemma readValue_brace (fuel limit : Nat) (cs : List Char) :
    readValue true (fuel + 1) (limit + 1) ('\x7b' :: cs) = match skipSpace cs with
      | '\x7d' :: rest => .ok (.table [], rest)
      | rest => (readMembers true fuel limit rest).map fun (ms, rest) => (.table ms, rest) := rfl

lemma readBack_table {ms : List (List Char × Value)}
    (hms : ∀ m ∈ ms, ReadBack l limit (depth + 1) m.2) :
    ReadBack l (limit + 1) depth (.table ms) := by
  cases ms with
  | nil => exact ⟨⟨_, _, rfl, rfl, by decide⟩, fun fuel rest _ => rfl⟩
  | cons m ms =>
      obtain ⟨k, v⟩ := m
      refine ⟨⟨_, _, rfl, rfl, by decide⟩, fun fuel rest hfuel => ?_⟩
      simp only [written, List.length_cons, List.length_append] at hfuel
      obtain ⟨hv, hms⟩ := List.forall_mem_cons.mp hms
      have hmembers := readMembers_written (k := k) rest hv hms (show 2 * _ ≤ fuel by
        simp only [List.length_append]
        omega)
      have htext : written l depth (.table ((k, v) :: ms)) ++ rest = '\x7b' ::
          (l.gap (depth + 1) ++ (quoted k ++ ':' :: (l.colon ++ (v.written l (depth + 1) ++
            (writtenMembers l depth ms ++ rest))))) := by
        simp [written]
      rw [quoted_append] at hmembers
      rw [htext, readValue_brace, skipSpace_blank (l.blank_gap _), quoted_append,
        skipSpace_cons rfl]
      exact congrArg (Except.map _) hmembers

/-! ### All data -/

/-- Data that fits is read back. -/
lemma Value.Fits.readBack {v : Value} (h : Fits limit v) (depth : Nat) :
    ReadBack l limit depth v := by
  induction h generalizing depth with
  | null => exact ⟨⟨_, _, rfl, rfl, by decide⟩, fun fuel rest _ => rfl⟩
  | @bool _ b => cases b <;> exact ⟨⟨_, _, rfl, rfl, by decide⟩, fun fuel rest _ => rfl⟩
  | @text limit cs =>
      refine ⟨⟨_, _, rfl, rfl, by decide⟩, fun fuel rest _ => ?_⟩
      rw [written, quoted_append]
      show (readText true (cs.flatMap quotedChar ++ '"' :: rest)).map _ = _
      rw [readText_quoted]
      rfl
  | list _ ih => exact readBack_list fun v hv => ih v hv (depth + 1)
  | table _ ih => exact readBack_table fun m hm => ih m hm (depth + 1)

/-- **Data that is written is read back**, if there are no numbers in it and not too many lists and
tables inside each other. -/
theorem Value.ofText_written {v : Value} (h : Fits depthLimit v) (l : Layout) :
    Value.ofText (v.written l 0) = .ok v := by
  have hread := (h.readBack (l := l) 0).read (2 * (v.written l 0).length + 1) [] (by omega)
  rw [List.append_nil] at hread
  rw [Value.ofText, hread]
  rfl

end Roster.Json
