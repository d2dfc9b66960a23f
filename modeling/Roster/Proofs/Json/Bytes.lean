import Roster.Json.Form
import Roster.Proofs.Text.Utf8

/-!
# Texts that are passed over

A text in JSON need not be text: whether its bytes encode one is found out only by who reads it. A
member that nobody asked for is passed over, whatever bytes stand in it.

* `Blank`: bytes without quotes, backslashes and control characters.
* `readText_bytes`: such bytes are read exactly if they encode a text.
* `passText_bytes`: they are passed over in any case.
* `readMember_unknown`: they do not matter in a member that a form does not know.
-/

namespace Roster.Json

open Text

variable {bs : List UInt8} {cs rest acc : List Char} {xs : List (Option Char)}

/-- Bytes that stand for themselves in a text. -/
def Blank (bs : List UInt8) : Prop :=
  ∀ b ∈ bs, 0x20 ≤ b.toNat ∧ b.toNat ≠ '"'.toNat ∧ b.toNat ≠ '\\'.toNat

/-- Characters that stand for themselves in a text. -/
def BlankChar (c : Char) : Prop := 0x20 ≤ c.toNat ∧ c ≠ '"' ∧ c ≠ '\\'

/-- The characters in such bytes stand for themselves too. -/
lemma Blank.of_mem_scan (h : Blank bs) {c : Char} (hc : some c ∈ Utf8.scan bs) : BlankChar c := by
  by_cases hascii : c.toNat < 0x80
  · obtain ⟨b, hb, hbc⟩ := Utf8.exists_of_some_mem_scanFrom hascii hc
    obtain ⟨hle, hquote, hslash⟩ := h b hb
    rw [hbc] at hle hquote hslash
    exact ⟨hle, fun heq => hquote (heq ▸ rfl), fun heq => hslash (heq ▸ rfl)⟩
  · refine ⟨by omega, ?_, ?_⟩ <;> rintro rfl <;> exact hascii (by decide)

lemma readTextFrom_plain {strict : Bool} {c : Char} (h : BlankChar c) :
    readTextFrom strict acc .plain (c :: cs) = readTextFrom strict (c :: acc) .plain cs := by
  obtain ⟨hle, hquote, hslash⟩ := h
  rw [readTextFrom]
  simp [hquote, hslash, Nat.not_lt.mpr hle]

/-- A reader of texts refuses a stray byte. -/
lemma readTextFrom_stray : readTextFrom true acc .plain (stray ++ cs) = .error .malformed := rfl

/-- A reader that passes over a text passes over a stray byte. -/
lemma passTextFrom_stray : readTextFrom false acc .plain (stray ++ cs) =
    readTextFrom false ('\uFFFD' :: acc) .plain cs := rfl

/-- Characters are read one after the other, up to the first stray byte. -/
lemma readTextFrom_scanned (hxs : ∀ c, some c ∈ xs → BlankChar c) :
    readTextFrom true acc .plain (xs.flatMap (fun c => c.elim stray ([·])) ++ '"' :: rest) =
      (xs.mapM id).elim (.error .malformed) fun cs => .ok (acc.reverse ++ cs, rest) := by
  induction xs generalizing acc with
  | nil => simp [readTextFrom]
  | cons x xs ih =>
      rw [List.flatMap_cons, List.append_assoc]
      cases x with
      | none => exact readTextFrom_stray
      | some c =>
          have hrest := @ih (c :: acc) fun d hd => hxs d (List.mem_cons_of_mem _ hd)
          refine (readTextFrom_plain (hxs c List.mem_cons_self)).trans (hrest.trans ?_)
          rw [List.mapM_cons]
          cases xs.mapM id <;> simp

/-- Characters and stray bytes are passed over one after the other. -/
lemma exists_passTextFrom_scanned (hxs : ∀ c, some c ∈ xs → BlankChar c) :
    ∃ cs, readTextFrom false acc .plain
      (xs.flatMap (fun c => c.elim stray ([·])) ++ '"' :: rest) = .ok (cs, rest) := by
  induction xs generalizing acc with
  | nil => exact ⟨acc.reverse, by simp [readTextFrom]⟩
  | cons x xs ih =>
      have hrest : ∀ acc, ∃ cs, readTextFrom false acc .plain
          (xs.flatMap (fun c => c.elim stray ([·])) ++ '"' :: rest) = .ok (cs, rest) :=
        fun _ => ih fun d hd => hxs d (List.mem_cons_of_mem _ hd)
      rw [List.flatMap_cons, List.append_assoc]
      cases x with
      | none =>
          obtain ⟨cs, hcs⟩ := hrest ('\uFFFD' :: acc)
          exact ⟨cs, passTextFrom_stray.trans hcs⟩
      | some c =>
          obtain ⟨cs, hcs⟩ := hrest (c :: acc)
          exact ⟨cs, (readTextFrom_plain (hxs c List.mem_cons_self)).trans hcs⟩

/-- **What a reader of texts finds.** Bytes that stand for themselves are read as the text that they
encode, and refused if they encode none. -/
theorem readText_bytes (h : Blank bs) :
    readText true (Utf8.decodeWith stray bs ++ '"' :: rest) =
      (Utf8.decode bs).elim (.error .malformed) fun cs => .ok (cs, rest) :=
  readTextFrom_scanned fun _ hc => h.of_mem_scan hc

/-- **What is passed over may be anything.** Bytes that stand for themselves are passed over,
whether they encode a text or not. -/
theorem passText_bytes (h : Blank bs) :
    ∃ cs, readText false (Utf8.decodeWith stray bs ++ '"' :: rest) = .ok (cs, rest) :=
  exists_passTextFrom_scanned fun _ hc => h.of_mem_scan hc

/-- Data that is a text is passed over as such. -/
lemma skipValue_quote (h : readText false cs = .ok (acc, rest)) :
    skipValue ('"' :: cs) = .ok rest := by
  have hspace : skipSpace ('"' :: cs) = '"' :: cs := rfl
  have hscalar : readScalar false ('"' :: cs) = .ok (.text acc, rest) := by
    simp [readScalar, h, Except.map]
  rw [skipValue, readValue, hspace]
  exact congrArg (Except.map Prod.snd) hscalar

/-- A text in a member that a form does not know may hold any bytes that stand for themselves. -/
theorem readMember_unknown {name : String} {filling : Form.Filling}
    (hname : ∀ x ∈ filling, x.1.name ≠ name) (h : Blank bs) :
    Form.readMember name filling ('"' :: (Utf8.decodeWith stray bs ++ '"' :: rest)) =
      .ok (filling, rest) := by
  have hunknown : (filling.find? fun x => x.1.name = name) = none := by
    simpa using hname
  obtain ⟨cs, hcs⟩ : ∃ cs, readText false (Utf8.decodeWith stray bs ++ '"' :: rest) =
      .ok (cs, rest) := passText_bytes h
  rw [Form.readMember]
  simp only [hunknown, skipValue_quote hcs]
  rfl

/-- A text that is no field's need not be text. -/
example : Form.read [⟨"id", .text, none, none⟩] (Utf8.decodeWith stray
    ("\x7b\"id\":\"a\",\"x\":\"".toUTF8.toList ++ [0xFF] ++ "\"\x7d".toUTF8.toList)) =
      .ok ([.text "a"], []) := by
  decide +kernel

end Roster.Json
