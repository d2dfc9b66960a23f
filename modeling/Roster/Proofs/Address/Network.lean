import Mathlib
import Roster.Address.Ipv4
import Roster.Address.Ipv6
import Roster.Proofs.Address.Service

/-!
# Network addresses as they are written

A network address of four bytes or of eight groups is read back from its text. Four bytes are
written as numbers without leading zeros, so that none of them is taken for one in octal. Of eight
groups a run of zeros may be left out, and what is left tells how long it was.

* `Text.value?_toDigits`: a number is read from its digits in any base up to sixteen.
* `Text.pieces_joined`: words are the pieces of the text that they make up with separators.
* `Ipv4.read?_text`: four bytes are read back.
* `Ipv6.exists_longestZeros`: where the zeros are that are left out.
* `Ipv6.cutDouble_colons`: the text is cut where they are left out; `Ipv6.read?_text`: eight groups
  are read back.
-/

namespace Roster

namespace Text

/-! ### Numbers in any base -/

lemma valueFrom?_append (base acc : Nat) (cs ds : List Char) :
    valueFrom? base acc (cs ++ ds) = (valueFrom? base acc cs).bind (valueFrom? base · ds) := by
  induction cs generalizing acc with
  | nil => rfl
  | cons c cs ih =>
      rw [List.cons_append, valueFrom?, valueFrom?]
      cases Percent.digit? c with
      | none => rfl
      | some d =>
          dsimp only
          split_ifs
          · exact ih _
          · rfl

lemma digit?_digitChar {d : Nat} (hd : d < 16) : Percent.digit? d.digitChar = some d := by
  revert d
  decide

/-- A number is read from its digits. -/
lemma value?_toDigits {base : Nat} (hone : 1 < base) (hbase : base ≤ 16) (n : Nat) :
    value? base (Nat.toDigits base n) = some n := by
  have hdigit : ∀ {acc d : Nat}, d < base →
      valueFrom? base acc [d.digitChar] = some (acc * base + d) := by
    intro acc d hd
    rw [valueFrom?, digit?_digitChar (by omega)]
    exact if_pos hd
  induction n using Nat.strong_induction_on with
  | _ n ih =>
      rw [Nat.toDigits_eq_if hone, value?]
      split_ifs with hn
      · rw [hdigit hn, Nat.zero_mul, Nat.zero_add]
      · have hlt : n / base < n := Nat.div_lt_self (by omega) hone
        rw [valueFrom?_append]
        show (value? base _).bind _ = _
        rw [ih _ hlt, Option.bind_some, hdigit (Nat.mod_lt n (by omega)), Nat.div_add_mod']

/-- No zero leads the digits of a number. -/
lemma head?_decimal_ne {n : Nat} (hn : 0 < n) : (decimal n).head? ≠ some '0' := by
  induction n using Nat.strong_induction_on with
  | _ n ih =>
      rw [decimal, Nat.toDigits_eq_if (by decide)]
      split_ifs with hlt
      · simp only [List.head?_cons, ne_eq, Option.some.injEq, Nat.digitChar_eq_zero]
        omega
      · rw [List.head?_append_of_ne_nil _ Nat.toDigits_ne_nil]
        exact ih _ (by omega) (by omega)

/-! ### Words between separators -/

variable {p : Char → Bool} {sep : Char} {w : List Char} {ws : List (List Char)}

/-- A word is the first piece of a text that begins with it and a separator. -/
lemma pieces_append (hw : ∀ c ∈ w, p c = false) (hsep : p sep = true) (rest : List Char) :
    pieces p (w ++ sep :: rest) = w :: pieces p rest := by
  induction w with
  | nil => rw [List.nil_append, pieces, if_pos hsep]
  | cons c w ih =>
      obtain ⟨hc, hw⟩ := List.forall_mem_cons.mp hw
      rw [List.cons_append, pieces, ih hw, hc]
      rfl

/-- Words are the pieces of the text that they make up with separators. -/
lemma pieces_joined (hsep : p sep = true) (hne : ws ≠ []) (hws : ∀ w ∈ ws, ∀ c ∈ w, p c = false) :
    pieces p (joined sep ws) = ws := by
  induction ws with
  | nil => exact absurd rfl hne
  | cons w ws ih =>
      obtain ⟨hw, hws⟩ := List.forall_mem_cons.mp hws
      cases ws with
      | nil => exact pieces_of_none hw
      | cons v ws => rw [joined, pieces_append hw hsep, ih (List.cons_ne_nil v ws) hws]

end Text

namespace Address

/-! ### Four bytes -/

namespace Ipv4

/-- The four numbers of an address. -/
def bytes (a : UInt32) : List Nat :=
  [a.toNat / 16777216, a.toNat / 65536 % 256, a.toNat / 256 % 256, a.toNat % 256]

/-- A number is not taken for one in another base. -/
lemma number?_decimal (n : Nat) : number? (Text.decimal n) = some n := by
  have hvalue := Text.value?_decimal n
  rcases Nat.eq_zero_or_pos n with rfl | hn
  · exact hvalue
  · have hhead := Text.head?_decimal_ne hn
    have hne := Text.decimal_ne_nil n
    unfold number?
    split
    · next heq => exact absurd heq hne
    · next heq => exact absurd (by rw [heq]; rfl) hhead
    · next heq => exact absurd (by rw [heq]; rfl) hhead
    · next heq => exact absurd (by rw [heq]; rfl) hhead
    · exact hvalue

lemma parts_text (a : UInt32) : parts (text a) = (bytes a).map Text.decimal := by
  have hpieces : Text.pieces (· == '.') (text a) = (bytes a).map Text.decimal := by
    refine Text.pieces_joined rfl (by simp) fun w hw c hc => ?_
    obtain ⟨n, -, rfl⟩ := List.mem_map.mp hw
    rw [beq_eq_false_iff_ne]
    rintro rfl
    exact notMem_decimal rfl hc
  rw [parts, hpieces]
  refine if_neg fun h => Text.decimal_ne_nil (a.toNat % 256) ?_
  exact Option.some.inj h.2

/-- Four bytes end in a number. -/
lemma endsInNumber_text (a : UInt32) : endsInNumber (text a) = true := by
  have hlast : (parts (text a)).getLast? = some (Text.decimal (a.toNat % 256)) := by
    rw [parts_text]
    rfl
  rw [endsInNumber, hlast]
  dsimp only
  rw [number?_decimal, Option.isSome_some, Bool.or_true]

/-- **Four bytes are read back** from their text. -/
theorem read?_text (a : UInt32) : read? (text a) = some a := by
  have ha : a.toNat < 4294967296 := a.toNat_lt
  obtain ⟨hfirst, hsecond, hthird, hfourth⟩ : a.toNat / 16777216 < 256 ∧
      a.toNat / 65536 % 256 < 256 ∧ a.toNat / 256 % 256 < 256 ∧ a.toNat % 256 < 256 := by omega
  have hnumbers : (parts (text a)).mapM number? = some (bytes a) := by
    rw [parts_text, mapM_eq_some_iff, List.forall₂_map_left_iff]
    exact List.forall₂_same.mpr fun n _ => number?_decimal n
  have hleading : leading? (bytes a).dropLast = some (a.toNat / 256) := by
    simp only [bytes, List.dropLast, leading?, if_pos hfirst, if_pos hsecond, if_pos hthird,
      Option.map_some, List.length_cons, List.length_nil, Nat.pow_eq, Option.some.injEq]
    omega
  have hvalue : UInt32.ofNat (a.toNat / 256 * Nat.pow 256 1 + a.toNat % 256) = a := by
    rw [Nat.pow_eq, Nat.pow_one, Nat.div_add_mod', UInt32.ofNat_toNat]
  rw [read?, hnumbers]
  simp only [Option.bind_eq_bind, Option.bind_some, hleading]
  show (if 3 < 3 then none else if a.toNat % 256 < Nat.pow 256 1 then _ else none) = _
  rw [if_neg (by decide), if_pos (by simpa using hfourth)]
  exact congrArg some hvalue

end Ipv4

/-! ### Eight groups -/

namespace Ipv6

variable {gs : List UInt16} {ws : List (List Char)}

/-- The zeros that are left out stand between what is written. -/
lemma exists_longestZeros (i : Nat) (gs : List UInt16) : (longestZeros i gs).2 = 0 ∨
    ∃ front back, gs = front ++ List.replicate (longestZeros i gs).2 0 ++ back ∧
      (longestZeros i gs).1 = i + front.length := by
  induction gs generalizing i with
  | nil => exact Or.inl rfl
  | cons g gs ih =>
      rw [longestZeros]
      dsimp only
      split_ifs
      · have hzeros : (g :: gs).takeWhile (· == 0) = List.replicate (zeros (g :: gs)) 0 :=
          List.eq_replicate_iff.mpr ⟨rfl, fun x hx => by simpa using List.mem_takeWhile_imp hx⟩
        refine Or.inr ⟨[], (g :: gs).dropWhile (· == 0), ?_, rfl⟩
        rw [← hzeros, List.nil_append, List.takeWhile_append_dropWhile]
      · rcases ih (i + 1) with hnone | ⟨front, back, hgs, hi⟩
        · exact Or.inl hnone
        · refine Or.inr ⟨g :: front, back, ?_, ?_⟩
          · rw [List.cons_append, List.cons_append, ← hgs]
          · rw [hi, List.length_cons]
            omega

/-- The groups as they are written. -/
def written (gs : List UInt16) : List (List Char) := gs.map fun g => Text.hex g.toNat

lemma group?_hex (g : UInt16) : group? (Text.hex g.toNat) = some g.toNat := by
  have hlength : (Text.hex g.toNat).length ≤ 4 :=
    (Nat.length_toDigits_le_iff (by decide) (by decide)).mpr g.toNat_lt
  have hne : Text.hex g.toNat ≠ [] := Nat.toDigits_ne_nil
  rw [group?, if_neg (by simpa [hne] using hlength)]
  exact Text.value?_toDigits (by decide) (by decide) _

/-- A written group has no character but digits. -/
lemma notMem_written {c : Char} (hc : Text.Percent.digit? c = none) : ∀ w ∈ written gs, c ∉ w := by
  intro w hw
  obtain ⟨g, -, rfl⟩ := List.mem_map.mp hw
  exact notMem_of_group? hc (group?_hex g)

lemma ne_nil_of_mem_written : ∀ w ∈ written gs, w ≠ [] := by
  intro w hw
  obtain ⟨g, -, rfl⟩ := List.mem_map.mp hw
  exact Nat.toDigits_ne_nil

lemma groups?_written (tail : Bool) (gs : List UInt16) :
    groups? tail (written gs) = some (gs.map UInt16.toNat) := by
  induction gs with
  | nil => rfl
  | cons g gs ih =>
      cases gs with
      | nil =>
          have hdot : '.' ∉ Text.hex g.toNat := notMem_of_group? (by decide) (group?_hex g)
          show groups? tail [Text.hex g.toNat] = _
          rw [groups?, if_neg (by simp [hdot]), group?_hex]
          rfl
      | cons g' gs =>
          show groups? tail (Text.hex g.toNat :: Text.hex g'.toNat :: _) = _
          rw [groups?, group?_hex]
          · show (groups? tail (written (g' :: gs))).bind _ = _
            rw [ih]
            rfl
          · nofun

lemma joined_eq_nil_iff {sep : Char} (hws : ∀ w ∈ ws, w ≠ []) :
    Text.joined sep ws = [] ↔ ws = [] := by
  cases ws with
  | nil => exact ⟨fun _ => rfl, fun _ => rfl⟩
  | cons w ws =>
      cases ws with
      | nil => simpa [Text.joined] using hws w List.mem_cons_self
      | cons v ws => simp [Text.joined]

/-- One side of a double colon is read back. -/
lemma side?_colons (tail : Bool) (gs : List UInt16) :
    side? tail (colons gs) = some (gs.map UInt16.toNat) := by
  cases gs with
  | nil => rfl
  | cons g gs =>
      have hne : colons (g :: gs) ≠ [] := fun h =>
        List.cons_ne_nil _ _ ((joined_eq_nil_iff ne_nil_of_mem_written).mp h)
      have hpieces : Text.pieces (· == ':') (colons (g :: gs)) = written (g :: gs) := by
        refine Text.pieces_joined rfl (List.cons_ne_nil _ _) fun w hw c hc => ?_
        rw [beq_eq_false_iff_ne]
        rintro rfl
        exact notMem_written (by decide) w hw hc
      rw [side?, if_neg (by simpa using hne), hpieces, groups?_written]

/-! ### Where zeros are left out -/

lemma cutDouble_word {w : List Char} (hw : ':' ∉ w) (rest : List Char) :
    cutDouble (w ++ rest) = (cutDouble rest).map fun x => (w ++ x.1, x.2) := by
  induction w with
  | nil => simp
  | cons c w ih =>
      rw [List.mem_cons, not_or] at hw
      rw [List.cons_append, cutDouble, ih hw.2, Option.map_map]
      · rfl
      · rintro cs heq -
        exact hw.1 heq.symm

/-- A single colon in front of a word is no place where zeros are left out. -/
lemma cutDouble_colon {cs : List Char} (hcs : cs.head? ≠ some ':') :
    cutDouble (':' :: cs) = (cutDouble cs).map fun x => (':' :: x.1, x.2) := by
  rw [cutDouble]
  rintro ds - rfl
  exact hcs rfl

lemma head?_ne_colon {w : List Char} (hne : w ≠ []) (hw : ':' ∉ w) (rest : List Char) :
    (w ++ rest).head? ≠ some ':' := by
  rw [List.head?_append_of_ne_nil _ hne]
  exact fun h => hw (List.mem_of_head? h)

/-- Words with colons between them are not cut, and only what follows them counts. -/
lemma cutDouble_joined (hne : ∀ w ∈ ws, w ≠ []) (hws : ∀ w ∈ ws, ':' ∉ w) (rest : List Char) :
    cutDouble (Text.joined ':' ws ++ rest) =
      (cutDouble rest).map fun x => (Text.joined ':' ws ++ x.1, x.2) := by
  fun_induction Text.joined ':' ws with
  | case1 => simp
  | case2 w => exact cutDouble_word (hws w (List.mem_singleton_self w)) rest
  | case3 w v ws ih =>
      obtain ⟨hw, hws⟩ := List.forall_mem_cons.mp hws
      obtain ⟨-, hne⟩ := List.forall_mem_cons.mp hne
      obtain ⟨behind, hjoined⟩ : ∃ behind, Text.joined ':' (v :: ws) = v ++ behind := by
        cases ws with
        | nil => exact ⟨[], (List.append_nil v).symm⟩
        | cons u ws => exact ⟨_, rfl⟩
      have hhead : (Text.joined ':' (v :: ws) ++ rest).head? ≠ some ':' := by
        rw [hjoined, List.append_assoc]
        exact head?_ne_colon (hne v List.mem_cons_self) (hws v List.mem_cons_self) _
      rw [List.append_assoc, List.cons_append, cutDouble_word hw, cutDouble_colon hhead,
        ih hne hws, Option.map_map, Option.map_map]
      simp [Function.comp_def]

/-- Groups are cut where zeros are left out behind them. -/
lemma cutDouble_colons (gs : List UInt16) (rest : List Char) :
    cutDouble (colons gs ++ rest) = (cutDouble rest).map fun x => (colons gs ++ x.1, x.2) :=
  cutDouble_joined ne_nil_of_mem_written (notMem_written (by decide)) rest

lemma ofGroups?_toNat (a : Ipv6) : ofGroups? (a.toList.map UInt16.toNat) = some a := by
  have hgroups : (a.toList.map UInt16.toNat).map UInt16.ofNat = a.toList := by
    rw [List.map_map]
    exact (List.map_congr_left fun g _ => UInt16.ofNat_toNat).trans (List.map_id _)
  rw [ofGroups?]
  rw [hgroups, dif_pos (by simp)]
  exact congrArg some (Vector.toArray_inj.mp Array.toArray_toList)

/-- **Eight groups are read back** from their text. -/
theorem read?_text (a : Ipv6) : read? (text a) = some a := by
  have hlength : a.toList.length = 8 := by simp
  rw [text]
  dsimp only
  split_ifs with hshort
  · -- Nothing is left out.
    have hcut : cutDouble (colons a.toList) = none := by
      rw [← List.append_nil (colons a.toList), cutDouble_colons]
      rfl
    rw [read?, hcut]
    show (side? true (colons a.toList)).bind _ = _
    rw [side?_colons, Option.bind_some, ofGroups?_toNat]
  · obtain ⟨front, back, hgs, hi⟩ := (exists_longestZeros 0 a.toList).resolve_left (by omega)
    generalize longestZeros 0 a.toList = run at hshort hgs hi ⊢
    obtain ⟨i, n⟩ := run
    dsimp only at hshort hgs hi ⊢
    rw [Nat.zero_add] at hi
    subst hi
    have hsum : front.length + n + back.length = 8 := by
      rw [← hlength, hgs]
      simp [Nat.add_assoc]
    have htake : a.toList.take front.length = front := by
      rw [hgs, List.append_assoc, List.take_left]
    have hdrop : a.toList.drop (front.length + n) = back := by
      rw [hgs]
      exact List.drop_left' (by simp)
    have hcut : cutDouble (colons front ++ ':' :: ':' :: colons back) =
        some (colons front, colons back) := by
      rw [cutDouble_colons]
      simp [cutDouble]
    rw [htake, hdrop, read?, hcut]
    show (side? false (colons front)).bind (fun ls => (side? true (colons back)).bind _) = _
    rw [side?_colons, Option.bind_some, side?_colons, Option.bind_some, List.length_map,
      List.length_map, if_pos (by omega)]
    have hzeros : 8 - (front.length + back.length) = n := by omega
    rw [hzeros, ← ofGroups?_toNat a, hgs]
    simp

end Ipv6

end Address

end Roster
