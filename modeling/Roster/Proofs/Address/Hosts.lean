import Mathlib
import Roster.Proofs.Address.Network
import Roster.Proofs.Address.Written
import Roster.Proofs.Domain.Ascii

/-!
# Hosts as they are written

A host that is read is written in its own form, and it is read back from there. For a name that had
to be brought into ASCII this is asked of the name: that it is its own ASCII form. It is if the text
that it was read from was ASCII already.

* `Printed`: texts of visible ASCII characters.
* `Host.Settled`: hosts whose name is its own ASCII form.
* `readPlace_chars`: a host that is read is read back; `settled_of_ascii`: texts for which nothing
  is asked.
* `isPlace_chars`, `printed_of_readPlace`: what the text of a host is like.
-/

namespace Roster

namespace Address

open Domain (Name.ascii? Name.ofBytes? Name.forbidden Name.isAscii Name.mark)

variable {kind : Kind} {cs : List Char} {host : Host} {c : Char}

/-! ### Visible characters -/

/-- A text of visible ASCII characters. -/
def Printed (cs : List Char) : Prop := ∀ c ∈ cs, 0x20 < c.toNat ∧ c.toNat < 0x7F

lemma printed_of_digit? {n : Nat} (h : Text.Percent.digit? c = some n) :
    0x20 < c.toNat ∧ c.toNat < 0x7F := by
  unfold Text.Percent.digit? at h
  dsimp only at h
  split_ifs at h <;> omega

lemma printed_of_controls (h : Text.Percent.controls c = false) (hspace : c ≠ ' ') :
    0x20 < c.toNat ∧ c.toNat < 0x7F := by
  have hne : c.toNat ≠ 0x20 := fun heq => hspace (Char.toNat_inj.mp heq)
  simp only [Text.Percent.controls, Bool.or_eq_false_iff, decide_eq_false_iff_not] at h
  omega

lemma printed_of_not_forbidden (hascii : c.toNat < 0x80) (h : Name.forbidden c = false) :
    0x20 < c.toNat ∧ c.toNat < 0x7F := by
  simp only [Name.forbidden, Bool.or_eq_false_iff, decide_eq_false_iff_not,
    beq_eq_false_iff_ne] at h
  omega

/-! ### Names and addresses in brackets -/

lemma Host.chars_name (cs : List Char) : (Host.name (String.ofList cs)).chars = cs :=
  String.toList_ofList

lemma readBrackets_cases (hhead : cs.head? = some '[') (h : readBrackets cs = .ok host) :
    ∃ inner a, cs = '[' :: (inner ++ [']']) ∧ Ipv6.read? inner = some a ∧ host = .v6 a := by
  rw [readBrackets] at h
  split_ifs at h with hlast
  obtain ⟨rest, rfl⟩ := List.head?_eq_some_iff.mp hhead
  obtain ⟨front, hfront⟩ := List.getLast?_eq_some_iff.mp hlast
  cases front with
  | nil => simp at hfront
  | cons c inner =>
      obtain ⟨rfl, rfl⟩ : '[' = c ∧ rest = inner ++ [']'] := by simpa using hfront
      simp only [List.drop_succ_cons, List.drop_zero, List.dropLast_concat] at h
      split at h
      · next a ha =>
        cases h
        exact ⟨inner, a, rfl, ha, rfl⟩
      · cases h

lemma head?_chars_v6 (a : Ipv6) : (Host.v6 a).chars.head? = some '[' := rfl

/-- Eight groups in brackets are read back. -/
lemma readBrackets_chars (a : Ipv6) : readBrackets (Host.v6 a).chars = .ok (.v6 a) := by
  have hinner : ((Host.v6 a).chars.drop 1).dropLast = Ipv6.text a := by
    show (Ipv6.text a ++ [']']).dropLast = _
    rw [List.dropLast_concat]
  rw [readBrackets, hinner, Ipv6.read?_text, if_pos]
  exact List.getLast?_concat

/-- What is read as a host with rules of its own: groups in brackets, four bytes or a name. -/
lemma readSpecialHost_cases (h : readSpecialHost cs = .ok host) :
    (∃ inner a, cs = '[' :: (inner ++ [']']) ∧ Ipv6.read? inner = some a ∧ host = .v6 a) ∨
      (∃ a, host = .v4 a) ∨
      ∃ name, Name.ofBytes? (Text.Percent.decode cs) = some name ∧ name ≠ [] ∧
        Ipv4.endsInNumber name = false ∧ host = .name (String.ofList name) := by
  rw [readSpecialHost] at h
  split_ifs at h with hhead
  · exact Or.inl (readBrackets_cases hhead h)
  · split at h
    · cases h
    · next name hname =>
      split_ifs at h with hempty hnumber
      · split at h
        · cases h
          exact Or.inr (Or.inl ⟨_, rfl⟩)
        · cases h
      · cases h
        exact Or.inr (Or.inr ⟨name, hname, by simpa using hempty, by simpa using hnumber, rfl⟩)

/-- A name that is its own ASCII form is read as it stands. -/
lemma readSpecialHost_of_ascii? (h : Name.ascii? cs = some cs) (hne : cs ≠ []) :
    readSpecialHost cs =
      if Ipv4.endsInNumber cs then
        match Ipv4.read? cs with
        | some a => .ok (.v4 a)
        | none => .error .invalidIpv4
      else .ok (.name (String.ofList cs)) := by
  have hforbidden := Domain.Name.not_forbidden_of_ascii? h
  have hhead : cs.head? ≠ some '[' := fun hhead =>
    absurd (hforbidden _ (List.mem_of_head? hhead)) (by decide)
  have hpercent : '%' ∉ cs := fun hmem => absurd (hforbidden _ hmem) (by decide)
  have hname : Name.ofBytes? (Text.Percent.decode cs) = some cs := by
    rw [Domain.Name.ofBytes?_decode (Domain.Name.isAscii_of_ascii? h) hpercent, h]
  rw [readSpecialHost, if_neg hhead, hname]
  exact if_neg (by simpa using hne)

/-! ### Four bytes as a name -/

/-- The characters of four bytes. -/
def byteChars : List Char := "0123456789.".toList

lemma mem_byteChars_of_isDigit (hc : c.isDigit = true) : c ∈ byteChars := by
  obtain ⟨hlow, hhigh⟩ := Text.toNat_of_isDigit hc
  rw [← Char.ofNat_toNat c]
  interval_cases c.toNat <;> decide

lemma mem_byteChars {a : UInt32} (hc : c ∈ Ipv4.text a) : c ∈ byteChars := by
  rcases Text.mem_of_mem_joined hc with rfl | ⟨w, hw, hc⟩
  · decide
  · obtain ⟨n, -, rfl⟩ := List.mem_map.mp hw
    exact mem_byteChars_of_isDigit (Text.isDigit_of_mem_decimal hc)

lemma of_mem_byteChars : ∀ c ∈ byteChars, c.toNat < 0x80 ∧ c.toLower = c ∧
    Name.forbidden c = false ∧ c ≠ 'x' :=
  List.all_iff_forall_prop.mp (by decide)

lemma text_v4_ne_nil (a : UInt32) : Ipv4.text a ≠ [] := by
  intro h
  have hends := Ipv4.endsInNumber_text a
  rw [h] at hends
  revert hends
  decide

/-- Four bytes are their own ASCII form. -/
lemma ascii?_text_v4 (a : UInt32) : Name.ascii? (Ipv4.text a) = some (Ipv4.text a) := by
  refine Domain.Name.ascii?_of_uncoded ?_ ?_ ?_ ?_
  · exact Domain.Name.isAscii_iff.mpr fun c hc => (of_mem_byteChars c (mem_byteChars hc)).1
  · refine (List.map_congr_left fun c hc => ?_).trans (List.map_id _)
    exact (of_mem_byteChars c (mem_byteChars hc)).2.1
  · intro w hw
    rw [Bool.eq_false_iff]
    intro hmark
    obtain ⟨rest, rfl⟩ := List.isPrefixOf_iff_prefix.mp hmark
    have hx : 'x' ∈ Ipv4.text a := (Text.of_mem_pieces hw 'x' List.mem_cons_self).1
    exact (of_mem_byteChars 'x' (mem_byteChars hx)).2.2.2 rfl
  · exact fun c hc => (of_mem_byteChars c (mem_byteChars hc)).2.2.1

/-! ### Hosts of all kinds -/

/-- A host whose name, if it has one and the scheme has rules of its own, is its own ASCII form. -/
def Host.Settled (kind : Kind) (host : Host) : Prop :=
  kind ≠ .plain → ∀ n, host = .name n → Name.ascii? n.toList = some n.toList

/-- A host with rules of its own is read back. -/
lemma readSpecialHost_chars (h : readSpecialHost cs = .ok host)
    (hname : ∀ n, host = .name n → Name.ascii? n.toList = some n.toList) :
    readSpecialHost host.chars = .ok host := by
  rcases readSpecialHost_cases h with ⟨-, a, -, -, rfl⟩ | ⟨a, rfl⟩ |
    ⟨name, -, hne, hnumber, rfl⟩
  · rw [readSpecialHost, if_pos (head?_chars_v6 a)]
    exact readBrackets_chars a
  · have hread := readSpecialHost_of_ascii? (ascii?_text_v4 a) (text_v4_ne_nil a)
    rw [Ipv4.endsInNumber_text, if_pos rfl, Ipv4.read?_text] at hread
    exact hread
  · have hname := hname _ rfl
    rw [String.toList_ofList] at hname
    have hread := readSpecialHost_of_ascii? hname hne
    rw [hnumber, if_neg (by decide)] at hread
    rw [Host.chars_name, hread]

/-- What is read as a host without rules of its own: groups in brackets, or a name with triplets. -/
lemma readPlainHost_cases (h : readPlainHost cs = .ok (some host)) :
    (∃ inner a, cs = '[' :: (inner ++ [']']) ∧ Ipv6.read? inner = some a ∧ host = .v6 a) ∨
      (∀ c ∈ cs, neverInHost c = false) ∧ cs ≠ [] ∧
        host = .name (String.ofList (Text.Percent.encode Text.Percent.controls cs)) := by
  rw [readPlainHost] at h
  split_ifs at h with hhead hnever hempty
  · cases hread : readBrackets cs with
    | error f =>
        rw [hread] at h
        cases h
    | ok host' =>
        rw [hread] at h
        cases h
        exact Or.inl (readBrackets_cases hhead hread)
  · cases h
  · cases h
    exact Or.inr ⟨by simpa using hnever, by simpa using hempty, rfl⟩

/-- With its triplets a name still has nothing that no name has. -/
lemma neverInHost_of_mem_encode (hcs : ∀ c ∈ cs, neverInHost c = false) :
    ∀ c ∈ Text.Percent.encode Text.Percent.controls cs, neverInHost c = false := by
  intro c hc
  have htriplet : neverInHost '%' = false ∧
      ∀ n < 16, neverInHost (Text.Percent.upperDigit n) = false := by decide
  rcases Text.Percent.cases_of_mem_encode hc with ⟨hc, -⟩ | rfl | ⟨n, hn, rfl⟩
  · exact hcs c hc
  · exact htriplet.1
  · exact htriplet.2 n hn

/-- A host without rules of its own is read back. -/
lemma readPlainHost_chars (h : readPlainHost cs = .ok (some host)) :
    readPlainHost host.chars = .ok (some host) := by
  rcases readPlainHost_cases h with ⟨-, a, -, -, rfl⟩ | ⟨hnever, hne, rfl⟩
  · rw [readPlainHost, if_pos (head?_chars_v6 a), readBrackets_chars]
    rfl
  · have hnever' := neverInHost_of_mem_encode hnever
    have hcontrols : ∀ c ∈ Text.Percent.encode Text.Percent.controls cs,
        Text.Percent.controls c = false := fun c => Text.Percent.spares_controls.of_mem_encode
    have hne' : Text.Percent.encode Text.Percent.controls cs ≠ [] :=
      mt Text.Percent.encode_eq_nil_iff.mp hne
    rw [Host.chars_name]
    generalize Text.Percent.encode Text.Percent.controls cs = ds at hnever' hcontrols hne'
    have hhead : ds.head? ≠ some '[' := fun hhead =>
      absurd (hnever' _ (List.mem_of_head? hhead)) (by decide)
    have hany : ds.any neverInHost = false := by simpa using hnever'
    rw [readPlainHost, if_neg hhead, hany, if_neg (by decide), if_neg (by simpa using hne'),
      Text.Percent.encode_of_none hcontrols]

lemma exists_of_readPlace_name {n : String} (hkind : kind ≠ .plain)
    (h : readPlace kind cs = .ok (some (.name n))) :
    ∃ name, Name.ofBytes? (Text.Percent.decode cs) = some name ∧ n = String.ofList name := by
  rcases readSpecialHost_cases ((readPlace_eq_ok_iff hkind).mp h) with ⟨-, a, -, -, heq⟩ |
    ⟨a, heq⟩ | ⟨name, hname, -, -, heq⟩
  · cases heq
  · cases heq
  · exact ⟨name, hname, Host.name.inj heq⟩

/-- **Hosts are read back** from the form in which they are written. -/
theorem readPlace_chars (h : readPlace kind cs = .ok (some host)) (hsettled : host.Settled kind) :
    readPlace kind host.chars = .ok (some host) := by
  by_cases hkind : kind = .plain
  · rw [readPlace, if_pos hkind] at h ⊢
    exact readPlainHost_chars h
  · rw [readPlace_eq_ok_iff hkind] at h ⊢
    exact readSpecialHost_chars h (hsettled hkind)

/-- Nothing is asked of a host that is read from ASCII without percent signs. -/
lemma settled_of_ascii (h : readPlace kind cs = .ok (some host))
    (hcs : ∀ c ∈ cs, c.toNat < 0x80 ∧ c ≠ '%') : host.Settled kind := by
  rintro hkind n rfl
  obtain ⟨name, hname, rfl⟩ := exists_of_readPlace_name hkind h
  have hascii : Name.isAscii cs = true := Domain.Name.isAscii_iff.mpr fun c hc => (hcs c hc).1
  rw [Domain.Name.ofBytes?_decode hascii fun hmem => (hcs _ hmem).2 rfl] at hname
  rw [String.toList_ofList]
  exact Domain.Name.ascii?_idem hascii hname

/-- If a host is read back, nothing more need be asked of it. -/
lemma settled_of_readPlace_chars (h : readPlace kind host.chars = .ok (some host)) :
    host.Settled kind := by
  rintro hkind n rfl
  obtain ⟨name, hname, heq⟩ := exists_of_readPlace_name hkind h
  obtain ⟨ds, -, hascii?⟩ := Option.bind_eq_some_iff.mp hname
  have hascii := Domain.Name.isAscii_of_ascii? hascii?
  have hforbidden := Domain.Name.not_forbidden_of_ascii? hascii?
  have hchars : (Host.name n).chars = name := by
    show n.toList = name
    rw [heq, String.toList_ofList]
  rw [hchars, Domain.Name.ofBytes?_decode hascii fun hmem =>
    absurd (hforbidden _ hmem) (by decide)] at hname
  rwa [heq, String.toList_ofList]

/-! ### What the text of a host is like -/

/-- A text that can stand in the place of a host: groups in brackets, or no separators. -/
def IsPlace (cs : List Char) : Prop :=
  (∃ inner a, cs = '[' :: (inner ++ [']']) ∧ Ipv6.read? inner = some a) ∨
    ∀ c ∈ cs, c ∉ Domain.separators

lemma neverInHost_of_mem_separators : ∀ c ∈ Domain.separators, neverInHost c = true :=
  List.all_iff_forall_prop.mp (by decide)

/-- A text without what no host has can stand in the place of one. -/
lemma isPlace_of_neverInHost (h : ∀ c ∈ cs, neverInHost c = false) : IsPlace cs :=
  Or.inr fun c hc hsep =>
    Bool.false_ne_true ((h c hc).symm.trans (neverInHost_of_mem_separators c hsep))

lemma isPlace_of_readPlace (h : readPlace kind cs = .ok (some host)) : IsPlace cs := by
  by_cases hkind : kind = .plain
  · rw [readPlace, if_pos hkind] at h
    rcases readPlainHost_cases h with ⟨inner, a, hcs, hread, -⟩ | ⟨hnever, -⟩
    · exact Or.inl ⟨inner, a, hcs, hread⟩
    · exact isPlace_of_neverInHost hnever
  · exact host_cases ((readPlace_eq_ok_iff hkind).mp h)

/-- Nothing in the place of a host ends the authority. -/
lemma IsPlace.notMem (h : IsPlace cs) (hc : c ∈ hostBounds) : c ∉ cs := by
  have hbound : ∀ c ∈ hostBounds, Text.Percent.digit? c = none ∧ c ≠ '.' ∧ c ≠ ':' ∧ c ≠ '[' ∧
      c ≠ ']' ∧ c ∈ Domain.separators := List.all_iff_forall_prop.mp (by decide)
  obtain ⟨hdigit, hdot, hcolon, hopen, hclose, hsep⟩ := hbound c hc
  rcases h with ⟨inner, a, rfl, hread⟩ | hnone
  · simpa [hopen, hclose] using Ipv6.notMem_of_read? hdigit hdot hcolon hread
  · exact fun hmem => hnone c hmem hsep

lemma cutHost_unparted {rest : List Char} (hcs : ∀ c ∈ cs, c ∉ Domain.separators)
    (hrest : cutHost false rest = ([], rest)) : cutHost false (cs ++ rest) = (cs, rest) := by
  induction cs with
  | nil => exact hrest
  | cons c cs ih =>
      obtain ⟨hc, hcs⟩ := List.forall_mem_cons.mp hcs
      have hne : ∀ d ∈ Domain.separators, c ≠ d := fun d hd heq => hc (heq ▸ hd)
      rw [List.cons_append, cutHost]
      simp only [beq_iff_eq, hne ':' (by decide), hne '[' (by decide), hne ']' (by decide),
        Bool.not_false, Bool.and_true, if_false, ih hcs]

lemma cutHost_closed {inner rest : List Char} (hclose : ']' ∉ inner)
    (hrest : cutHost false rest = ([], rest)) :
    cutHost true (inner ++ ']' :: rest) = (inner ++ [']'], rest) := by
  induction inner with
  | nil =>
      rw [List.nil_append, cutHost, if_neg (by decide)]
      simp [hrest]
  | cons c inner ih =>
      rw [List.mem_cons, not_or] at hclose
      rw [List.cons_append, cutHost]
      simp only [beq_iff_eq, Ne.symm hclose.1, Bool.not_true, Bool.and_false, Bool.false_eq_true,
        if_false, ite_self, ih hclose.2, List.cons_append]

/-- A host ends where nothing follows it, or a port. -/
lemma IsPlace.cutHost (h : IsPlace cs) {rest : List Char}
    (hrest : Address.cutHost false rest = ([], rest)) :
    Address.cutHost false (cs ++ rest) = (cs, rest) := by
  rcases h with ⟨inner, a, rfl, hread⟩ | hnone
  · have hclose : ']' ∉ inner := Ipv6.notMem_of_read? (by decide) (by decide) (by decide) hread
    rw [List.cons_append, List.append_assoc, Address.cutHost]
    simp [cutHost_closed hclose hrest]
  · exact cutHost_unparted hnone hrest

lemma printed_text_v6 (a : Ipv6) : Printed (Ipv6.text a) := by
  intro c hc
  cases hdigit : Text.Percent.digit? c with
  | some n => exact printed_of_digit? hdigit
  | none =>
      by_cases hdot : c = '.'
      · subst hdot
        decide
      · by_cases hcolon : c = ':'
        · subst hcolon
          decide
        · exact absurd hc (Ipv6.notMem_of_read? hdigit hdot hcolon (Ipv6.read?_text a))

lemma printed_chars_v6 (a : Ipv6) : Printed (Host.v6 a).chars := by
  intro c hc
  rcases List.mem_cons.mp hc with rfl | hc
  · decide
  · rcases List.mem_append.mp hc with hc | hc
    · exact printed_text_v6 a c hc
    · rw [List.mem_singleton.mp hc]
      decide

/-- How the text of a host with rules of its own is made up. -/
lemma chars_cases (h : readSpecialHost cs = .ok host) :
    (∃ a, host = .v6 a) ∨ host.chars ≠ [] ∧ ∀ c ∈ host.chars, c.toNat < 0x80 ∧
      Name.forbidden c = false := by
  rcases readSpecialHost_cases h with ⟨-, a, -, -, rfl⟩ | ⟨a, rfl⟩ | ⟨name, hname, hne, -, rfl⟩
  · exact Or.inl ⟨a, rfl⟩
  · refine Or.inr ⟨text_v4_ne_nil a, fun c hc => ?_⟩
    obtain ⟨hascii, -, hforbidden, -⟩ := of_mem_byteChars c (mem_byteChars hc)
    exact ⟨hascii, hforbidden⟩
  · obtain ⟨ds, -, hascii⟩ := Option.bind_eq_some_iff.mp hname
    rw [Host.chars_name]
    exact Or.inr ⟨hne, fun c hc => ⟨Domain.Name.isAscii_iff.mp
      (Domain.Name.isAscii_of_ascii? hascii) c hc, Domain.Name.not_forbidden_of_ascii? hascii c hc⟩⟩

/-- The text of a host can stand in its place. -/
lemma isPlace_chars (h : readPlace kind cs = .ok (some host)) : IsPlace host.chars := by
  have hgroups : ∀ a, IsPlace (Host.v6 a).chars := fun a => Or.inl ⟨_, a, rfl, Ipv6.read?_text a⟩
  by_cases hkind : kind = .plain
  · rw [readPlace, if_pos hkind] at h
    rcases readPlainHost_cases h with ⟨-, a, -, -, rfl⟩ | ⟨hnever, -, rfl⟩
    · exact hgroups a
    · rw [Host.chars_name]
      exact isPlace_of_neverInHost (neverInHost_of_mem_encode hnever)
  · rcases chars_cases ((readPlace_eq_ok_iff hkind).mp h) with ⟨a, rfl⟩ | ⟨-, hchars⟩
    · exact hgroups a
    · refine Or.inr fun c hc hsep => ?_
      obtain ⟨-, -, -, -, hforbidden, -⟩ := Domain.Name.of_mem_separators c hsep
      exact Bool.false_ne_true ((hchars c hc).2.symm.trans hforbidden)

/-- The text of a host has at least one character, and only visible ones. -/
lemma printed_of_readPlace (h : readPlace kind cs = .ok (some host)) :
    host.chars ≠ [] ∧ Printed host.chars := by
  by_cases hkind : kind = .plain
  · rw [readPlace, if_pos hkind] at h
    rcases readPlainHost_cases h with ⟨-, a, -, -, rfl⟩ | ⟨hnever, hne, rfl⟩
    · exact ⟨List.cons_ne_nil _ _, printed_chars_v6 a⟩
    · rw [Host.chars_name]
      refine ⟨mt Text.Percent.encode_eq_nil_iff.mp hne, fun c hc => ?_⟩
      refine printed_of_controls (Text.Percent.spares_controls.of_mem_encode hc) ?_
      rintro rfl
      exact absurd (neverInHost_of_mem_encode hnever ' ' hc) (by decide)
  · rcases chars_cases ((readPlace_eq_ok_iff hkind).mp h) with ⟨a, rfl⟩ | ⟨hne, hchars⟩
    · exact ⟨List.cons_ne_nil _ _, printed_chars_v6 a⟩
    · exact ⟨hne, fun c hc => printed_of_not_forbidden (hchars c hc).1 (hchars c hc).2⟩

/-- No host with rules of its own looks like a disk. -/
lemma isDrive_chars (h : readSpecialHost cs = .ok host) : isDrive host.chars = false := by
  rw [Bool.eq_false_iff]
  intro hdrive
  obtain ⟨c, d, heq, halpha, hd⟩ := exists_of_isDrive hdrive
  rcases chars_cases h with ⟨a, rfl⟩ | ⟨-, hchars⟩
  · rw [(List.cons.inj heq).1.symm] at halpha
    cases halpha
  · have hforbidden : Name.forbidden d = false := (hchars d (by rw [heq]; simp)).2
    rcases hd with rfl | rfl <;> revert hforbidden <;> decide

end Address

end Roster
