import Mathlib.Data.List.TakeWhile
import Roster.Address.Reader
import Roster.Proofs.Domain.Separators

/-!
# Addresses of services

What is read of a text that puts a scheme, a host and a port together. The host may be any text; if
none of its characters bounds a host, the address is the one that the three parts are meant to make
up, or there is none.

* `hostBounds`: the characters that end a host in an address, or that it starts behind.
* `host_cases`: what can be read as a host.
* `cutHost_of_host`: a host in front of a port ends there.
* `service`: the address of a host and a port. `readChars_eq_ok_iff`: it is what is read of them.
-/

namespace Roster

/-! ### Numerals -/

namespace Text

lemma toNat_of_isDigit {c : Char} (hc : c.isDigit = true) : 0x30 ≤ c.toNat ∧ c.toNat ≤ 0x39 := by
  simpa [Char.isDigit, UInt32.le_iff_toNat_le] using hc

lemma digit?_of_isDigit {c : Char} (hc : c.isDigit = true) :
    Percent.digit? c = some (c.toNat - 0x30) ∧ c.toNat - 0x30 < 10 := by
  have hbounds := toNat_of_isDigit hc
  refine ⟨?_, by omega⟩
  unfold Percent.digit?
  exact if_pos hbounds

/-- A text of digits has the value of its digits. -/
lemma valueFrom?_of_isDigit {cs : List Char} (hcs : ∀ c ∈ cs, c.isDigit = true) (acc : Nat) :
    valueFrom? 10 acc cs = some (Nat.ofDigitChars 10 cs acc) := by
  induction cs generalizing acc with
  | nil => rfl
  | cons c cs ih =>
      obtain ⟨hdigit, hlt⟩ := digit?_of_isDigit (hcs c List.mem_cons_self)
      rw [valueFrom?, hdigit, Nat.ofDigitChars_cons, Nat.mul_comm 10 acc]
      dsimp only
      rw [if_pos hlt, ih fun d hd => hcs d (List.mem_cons_of_mem _ hd)]
      rfl

lemma isDigit_of_mem_decimal {n : Nat} {c : Char} (hc : c ∈ decimal n) : c.isDigit = true :=
  Nat.isDigit_of_mem_toDigits (by decide) (by decide) hc

lemma decimal_ne_nil (n : Nat) : decimal n ≠ [] := Nat.toDigits_ne_nil

/-- The decimal text of a number has its value. -/
lemma value?_decimal (n : Nat) : value? 10 (decimal n) = some n := by
  rw [value?, valueFrom?_of_isDigit fun c => isDigit_of_mem_decimal]
  exact congrArg some (Nat.ofDigitChars_toDigits (by decide) (by decide))

lemma isSome_digit?_of_value? {base : Nat} {c : Char} {cs : List Char} (hc : c ∈ cs) (acc : Nat)
    (h : (valueFrom? base acc cs).isSome = true) : (Percent.digit? c).isSome = true := by
  induction cs generalizing acc with
  | nil => cases hc
  | cons d cs ih =>
      rw [valueFrom?] at h
      cases hd : Percent.digit? d with
      | none =>
          rw [hd] at h
          cases h
      | some x =>
          rw [hd] at h
          dsimp only at h
          split_ifs at h
          · rcases List.mem_cons.mp hc with rfl | hc
            · rw [hd]
              rfl
            · exact ih hc _ h
          · cases h

end Text

namespace Address

/-! ### Eight groups -/

namespace Ipv6

variable {c : Char} {cs : List Char}

/-- A character that stands in no number of eight groups. -/
lemma notMem_of_group? {g : Nat} (hdigit : Text.Percent.digit? c = none) (h : group? cs = some g) :
    c ∉ cs := by
  intro hc
  unfold group? at h
  split_ifs at h
  have hsome := Text.isSome_digit?_of_value? hc 0 (Option.isSome_iff_exists.mpr ⟨g, h⟩)
  rw [hdigit] at hsome
  cases hsome

lemma notMem_of_byte? {n : Nat} (hdigit : Text.Percent.digit? c = none) (h : byte? cs = some n) :
    c ∉ cs := by
  intro hc
  unfold byte? at h
  split at h
  · cases h
  · obtain ⟨m, hm, -⟩ := Option.bind_eq_some_iff.mp h
    cases cs with
    | nil => cases hc
    | cons d ds =>
        have hsome := Text.isSome_digit?_of_value? hc 0 (Option.isSome_iff_exists.mpr ⟨m, hm⟩)
        rw [hdigit] at hsome
        cases hsome

lemma notMem_of_quad? {gs : List Nat} (hdigit : Text.Percent.digit? c = none) (hdot : c ≠ '.')
    (h : quad? cs = some gs) : c ∉ cs := by
  intro hc
  unfold quad? at h
  split at h
  · next hbytes =>
    obtain ⟨w, hw, hmem⟩ := Text.exists_mem_pieces (p := (· == '.')) (by simpa using hdot) hc
    obtain ⟨n, -, hn⟩ := exists_of_forall₂ (mapM_eq_some_iff.mp hbytes) hw
    exact notMem_of_byte? hdigit hn hmem
  · cases h

lemma notMem_of_groups? {tail : Bool} {ws : List (List Char)} {gs : List Nat}
    (hdigit : Text.Percent.digit? c = none) (hdot : c ≠ '.') (h : groups? tail ws = some gs) :
    ∀ w ∈ ws, c ∉ w := by
  fun_induction groups? tail ws generalizing gs with
  | case1 => simp
  | case2 w hquad =>
      intro v hv
      rw [List.mem_singleton.mp hv]
      exact notMem_of_quad? hdigit hdot h
  | case3 w hquad =>
      intro v hv
      rw [List.mem_singleton.mp hv]
      obtain ⟨g, hg, -⟩ := Option.map_eq_some_iff.mp h
      exact notMem_of_group? hdigit hg
  | case4 w ws hne ih =>
      obtain ⟨g, hg, h⟩ := Option.bind_eq_some_iff.mp h
      obtain ⟨gs, hgs, -⟩ := Option.bind_eq_some_iff.mp h
      intro v hv
      rcases List.mem_cons.mp hv with rfl | hv
      · exact notMem_of_group? hdigit hg
      · exact ih hgs v hv

lemma notMem_of_side? {tail : Bool} {gs : List Nat} (hdigit : Text.Percent.digit? c = none)
    (hdot : c ≠ '.') (hcolon : c ≠ ':') (h : side? tail cs = some gs) : c ∉ cs := by
  intro hc
  unfold side? at h
  split_ifs at h with hempty
  · rw [List.isEmpty_iff.mp hempty] at hc
    cases hc
  · obtain ⟨w, hw, hmem⟩ := Text.exists_mem_pieces (p := (· == ':')) (by simpa using hcolon) hc
    exact notMem_of_groups? hdigit hdot h w hw hmem

lemma mem_of_cutDouble {l r : List Char} (hc : c ∈ cs) (h : cutDouble cs = some (l, r)) :
    c = ':' ∨ c ∈ l ∨ c ∈ r := by
  fun_induction cutDouble cs generalizing l with
  | case1 cs =>
      cases h
      simpa using hc
  | case2 d cs _ ih =>
      obtain ⟨⟨l', r'⟩, hcut, heq⟩ := Option.map_eq_some_iff.mp h
      cases heq
      rcases List.mem_cons.mp hc with rfl | hc
      · exact Or.inr (Or.inl List.mem_cons_self)
      · exact (ih hc hcut).imp_right (Or.imp_left (List.mem_cons_of_mem _))
  | case3 => cases hc

/-- The text of eight groups has digits, colons and points only. -/
lemma notMem_of_read? {a : Ipv6} (hdigit : Text.Percent.digit? c = none) (hdot : c ≠ '.')
    (hcolon : c ≠ ':') (h : read? cs = some a) : c ∉ cs := by
  intro hc
  unfold read? at h
  split at h
  · obtain ⟨gs, hgs, -⟩ := Option.bind_eq_some_iff.mp h
    exact notMem_of_side? hdigit hdot hcolon hgs hc
  · next l r hcut =>
    obtain ⟨ls, hls, h⟩ := Option.bind_eq_some_iff.mp h
    obtain ⟨rs, hrs, -⟩ := Option.bind_eq_some_iff.mp h
    rcases mem_of_cutDouble hc hcut with hc | hc | hc
    · exact hcolon hc
    · exact notMem_of_side? hdigit hdot hcolon hls hc
    · exact notMem_of_side? hdigit hdot hcolon hrs hc

end Ipv6

/-! ### Hosts -/

/-- The characters that end a host in an address, or that it starts behind. -/
def hostBounds : List Char := ['#', '/', '?', '@', '\\']

variable {scheme : String} {cs : List Char} {host : Host} {n : Nat}

/-- A host stands in brackets and is eight groups, or it has no separator. -/
lemma host_cases (h : readSpecialHost cs = .ok host) :
    (∃ inner a, cs = '[' :: (inner ++ [']']) ∧ Ipv6.read? inner = some a) ∨
      ∀ c ∈ cs, c ∉ Domain.separators := by
  unfold readSpecialHost at h
  split_ifs at h with hhead
  · refine Or.inl ?_
    unfold readBrackets at h
    split_ifs at h with hlast
    obtain ⟨rest, rfl⟩ : ∃ rest, cs = '[' :: rest := List.head?_eq_some_iff.mp hhead
    obtain ⟨front, hfront⟩ := List.getLast?_eq_some_iff.mp hlast
    cases front with
    | nil => simp at hfront
    | cons c inner =>
        obtain ⟨rfl, rfl⟩ : '[' = c ∧ rest = inner ++ [']'] := by simpa using hfront
        cases hread : Ipv6.read? inner with
        | none => simp [hread] at h
        | some a => exact ⟨inner, a, rfl, hread⟩
  · refine Or.inr fun c hc hsep => ?_
    rw [Domain.Name.ofBytes?_of_separator hsep hc] at h
    cases h

/-- No host has a character that bounds one. -/
lemma notMem_of_hostBound {c : Char} (hc : c ∈ hostBounds) (h : readSpecialHost cs = .ok host) :
    c ∉ cs := by
  intro hmem
  have hbound : ∀ c ∈ hostBounds, Text.Percent.digit? c = none ∧ c ≠ '.' ∧ c ≠ ':' ∧ c ≠ '[' ∧
      c ≠ ']' ∧ c ∈ Domain.separators := List.all_iff_forall_prop.mp (by decide)
  obtain ⟨hdigit, hdot, hcolon, hopen, hclose, hsep⟩ := hbound c hc
  rcases host_cases h with ⟨inner, a, rfl, hread⟩ | hnone
  · have hinner : c ∈ inner := by simpa [hopen, hclose] using hmem
    exact Ipv6.notMem_of_read? hdigit hdot hcolon hread hinner
  · exact hnone c hmem hsep

/-- A text with a port at its end ends with a digit. -/
lemma exists_getLast?_append_port (cs : List Char) (n : Nat) :
    ∃ d, (cs ++ ':' :: Text.decimal n).getLast? = some d ∧ d.isDigit = true := by
  have hne := Text.decimal_ne_nil n
  have hlast := List.getLast_mem hne
  refine ⟨(Text.decimal n).getLast hne, ?_, Text.isDigit_of_mem_decimal hlast⟩
  rw [List.append_cons, List.getLast?_append, List.getLast?_eq_some_getLast hne, Option.some_or]

/-- A port in front of which the host does not end is no part of a host. -/
lemma readSpecialHost_append_port : readSpecialHost (cs ++ ':' :: Text.decimal n) ≠ .ok host := by
  intro h
  rcases host_cases h with ⟨inner, a, heq, -⟩ | hnone
  · -- The last character is a digit, and not the bracket that closes.
    obtain ⟨d, hd, hdigit⟩ := exists_getLast?_append_port cs n
    rw [heq, ← List.cons_append, List.getLast?_concat] at hd
    cases hd
    cases hdigit
  · exact hnone ':' (List.mem_append_right _ List.mem_cons_self) (by decide)

/-! ### Where a host ends -/

lemma cutHost_append (inside : Bool) (cs : List Char) :
    (cutHost inside cs).1 ++ (cutHost inside cs).2 = cs := by
  fun_induction cutHost inside cs with
  | case1 => rfl
  | case2 => rfl
  | case3 inside c cs hc h rest heq ih =>
      rw [heq] at ih
      exact congrArg (c :: ·) ih

/-- A host text ends in front of a colon, or with the text. -/
lemma cutHost_rest (inside : Bool) (cs : List Char) :
    (cutHost inside cs).2 = [] ∨ ∃ rest, (cutHost inside cs).2 = ':' :: rest := by
  fun_induction cutHost inside cs with
  | case1 => exact Or.inl rfl
  | case2 inside c cs hc =>
      simp only [Bool.and_eq_true, beq_iff_eq] at hc
      rw [hc.1]
      exact Or.inr ⟨cs, rfl⟩
  | case3 inside c cs hc h rest heq ih =>
      rw [heq] at ih
      exact ih

/-- Outside of brackets a host text ends in front of the first colon. -/
lemma cutHost_outside {rest : List Char} (hcs : ∀ c ∈ cs, c ∉ Domain.separators) :
    cutHost false (cs ++ ':' :: rest) = (cs, ':' :: rest) := by
  induction cs with
  | nil => rfl
  | cons c cs ih =>
      have hc := hcs c List.mem_cons_self
      have hne : c ≠ ':' ∧ c ≠ '[' ∧ c ≠ ']' :=
        ⟨fun heq => hc (heq ▸ by decide), fun heq => hc (heq ▸ by decide),
          fun heq => hc (heq ▸ by decide)⟩
      rw [List.cons_append, cutHost]
      simp only [beq_iff_eq, hne, Bool.not_false, Bool.and_true, if_false,
        ih fun d hd => hcs d (List.mem_cons_of_mem _ hd)]

/-- Inside of brackets no colon ends a host text. -/
lemma cutHost_inside {inner rest : List Char} (hclose : ']' ∉ inner) :
    cutHost true (inner ++ ']' :: ':' :: rest) = (inner ++ [']'], ':' :: rest) := by
  induction inner with
  | nil => rfl
  | cons c inner ih =>
      rw [List.mem_cons, not_or] at hclose
      rw [List.cons_append, cutHost]
      simp only [beq_iff_eq, Ne.symm hclose.1, Bool.not_true, Bool.and_false, Bool.false_eq_true,
        if_false, ite_self, ih hclose.2, List.cons_append]

/-- A host in front of a port ends there. -/
lemma cutHost_of_host {rest : List Char} (h : readSpecialHost cs = .ok host) :
    cutHost false (cs ++ ':' :: rest) = (cs, ':' :: rest) := by
  rcases host_cases h with ⟨inner, a, rfl, hread⟩ | hnone
  · have hclose : ']' ∉ inner :=
      Ipv6.notMem_of_read? (by decide) (by decide) (by decide) hread
    have hcut : cutHost true (inner ++ ']' :: ':' :: rest) = (inner ++ [']'], ':' :: rest) :=
      cutHost_inside hclose
    rw [List.cons_append, List.append_assoc, cutHost]
    simp [hcut]
  · exact cutHost_outside hnone

/-! ### Ports -/

/-- The port of a service, unless it is the usual one. -/
def unusualPort? (scheme : String) (n : Nat) : Option Nat :=
  if some n = usualPort? scheme then none else some n

lemma unusualPort?_or (scheme : String) (n : Nat) :
    (unusualPort? scheme n).or (usualPort? scheme) = some n := by
  unfold unusualPort?
  split_ifs with h
  · exact h.symm
  · rfl

lemma takeWhile_decimal : (Text.decimal n).takeWhile Char.isDigit = Text.decimal n :=
  List.takeWhile_eq_self_iff.mpr fun _ => Text.isDigit_of_mem_decimal

lemma readPort_decimal (hn : n < Nat.pow 2 16) :
    readPort scheme (Text.decimal n) = .ok (unusualPort? scheme n, []) := by
  have hrest : (Text.decimal n).dropWhile Char.isDigit = [] :=
    List.dropWhile_eq_nil_iff.mpr fun _ => Text.isDigit_of_mem_decimal
  have hempty : (Text.decimal n).isEmpty = false := by
    simpa using Text.decimal_ne_nil n
  unfold readPort unusualPort?
  simp only [takeWhile_decimal, hrest, Text.value?_decimal, Option.getD_some, hempty]
  have hn : n < 65536 := hn
  rw [if_neg (by omega)]
  split_ifs <;> simp_all

/-- A port with a colon in it is none. -/
lemma readPort_of_colon {x : Option Nat × List Char} (hcolon : ':' ∈ cs) (hslash : '\\' ∉ cs) :
    readPort scheme cs ≠ .ok x := by
  intro h
  have hsplit : cs.takeWhile Char.isDigit ++ cs.dropWhile Char.isDigit = cs :=
    List.takeWhile_append_dropWhile
  have hrest : ':' ∈ cs.dropWhile Char.isDigit := by
    rcases List.mem_append.mp (hsplit.symm ▸ hcolon) with hdigits | hrest
    · exact absurd (List.mem_takeWhile_imp hdigits) (by decide)
    · exact hrest
  have hhead : (cs.dropWhile Char.isDigit).head? ≠ some '\\' := by
    intro hhead
    exact hslash (List.dropWhile_sublist _ |>.mem (List.mem_of_head? hhead))
  have hne := List.ne_nil_of_mem hrest
  unfold readPort at h
  dsimp only at h
  generalize cs.dropWhile Char.isDigit = rest at h hhead hne
  have hgoes : (!(rest.isEmpty || decide (rest.head? = some '\\'))) = true := by simp [hne, hhead]
  rw [if_pos hgoes, ite_self] at h
  cases h

/-! ### Services -/

/-- The address of a host and a port, with nothing else. -/
def service (scheme : String) (host : Host) (port : Nat) : Address :=
  ⟨scheme, some (.ofHost (some host) (unusualPort? scheme port)), .segments [""], none, none⟩

lemma readSpecialHost_nil : readSpecialHost [] = .error .emptyHost := by
  have hname : Domain.Name.ofBytes? (Text.Percent.decode []) = some [] := by decide +kernel
  rw [readSpecialHost, if_neg (by simp), hname]
  rfl

lemma readHost_special_eq_ok_iff {host? : Option Host} :
    readHost .special cs = .ok host? ↔
      ∃ host, host? = some host ∧ readSpecialHost cs = .ok host := by
  unfold readHost
  rw [if_pos rfl]
  cases cs with
  | nil => simp [readSpecialHost_nil]
  | cons c cs =>
      cases readSpecialHost (c :: cs) with
      | error f => simp
      | ok host => simp [eq_comm]

/-- What is read as an authority if nobody in particular is asked for. -/
lemma readAuthority_eq_ok_iff {x : Authority × List Char} (hat : '@' ∉ cs) :
    readAuthority scheme .special cs false = .ok x ↔
      ∃ host, readSpecialHost (cutHost false cs).1 = .ok host ∧
        ((cutHost false cs).2 = [] ∧ x = (.ofHost (some host) none, []) ∨
          ∃ rest port left, (cutHost false cs).2 = ':' :: rest ∧
            readPort scheme rest = .ok (port, left) ∧ x = (.ofHost (some host) port, left)) := by
  have hcut : cutUser cs = (none, cs) := by simp [cutUser, hat]
  have huser : readUser [] = ("", "") := rfl
  unfold readAuthority
  simp only [hcut, Option.getD_none, huser, bind, Except.bind, pure, Except.pure]
  cases hhost : readSpecialHost (cutHost false cs).1 with
  | error f =>
      have hnone : ∀ host?, readHost .special (cutHost false cs).1 ≠ .ok host? := by
        intro host? h
        obtain ⟨host, -, hok⟩ := readHost_special_eq_ok_iff.mp h
        rw [hhost] at hok
        cases hok
      cases hread : readHost .special (cutHost false cs).1 with
      | error f => simp
      | ok host? => exact absurd hread (hnone host?)
  | ok host =>
      rw [readHost_special_eq_ok_iff.mpr ⟨host, rfl, hhost⟩]
      rcases cutHost_rest false cs with hrest | ⟨rest, hrest⟩ <;> rw [hrest]
      · simp [Authority.ofHost, eq_comm]
      · cases hport : readPort scheme rest with
        | error f => simp [hport]
        | ok y =>
            obtain ⟨port, left⟩ := y
            simpa [hport, Authority.ofHost, and_assoc] using eq_comm

lemma notMem_decimal {c : Char} (hc : c.isDigit = false) : c ∉ Text.decimal n := by
  intro hmem
  rw [Text.isDigit_of_mem_decimal hmem] at hc
  cases hc

/-- A text with a port behind it is a host as a whole, if the two can be read at all. -/
lemma readAuthority_port_eq_ok_iff {x : Authority × List Char} (hn : n < Nat.pow 2 16)
    (hbounds : ∀ c ∈ cs, c ∉ hostBounds) :
    readAuthority scheme .special (cs ++ ':' :: Text.decimal n) false = .ok x ↔
      ∃ host, readSpecialHost cs = .ok host ∧
        x = (.ofHost (some host) (unusualPort? scheme n), []) := by
  have hat : '@' ∉ cs ++ ':' :: Text.decimal n := by
    intro hat
    rcases List.mem_append.mp hat with hat | hat
    · exact hbounds '@' hat (by decide)
    · exact (List.mem_cons.mp hat).elim (by decide) (notMem_decimal (by decide))
  rw [readAuthority_eq_ok_iff hat]
  constructor
  · rintro ⟨host, hhost, hport⟩
    have happend := cutHost_append false (cs ++ ':' :: Text.decimal n)
    generalize cutHost false (cs ++ ':' :: Text.decimal n) = cut at hhost hport happend
    obtain ⟨place, behind⟩ := cut
    rcases hport with ⟨rfl, -⟩ | ⟨rest, port, left, rfl, hport, rfl⟩
    · -- The port is no part of the host.
      rw [List.append_nil] at happend
      rw [happend] at hhost
      exact absurd hhost readSpecialHost_append_port
    rcases List.append_eq_append_iff.mp happend with ⟨mid, hcs, hmid⟩ | ⟨mid, hplace, hmid⟩
    · cases mid with
      | nil =>
          rw [List.append_nil] at hcs
          cases hmid
          rw [readPort_decimal hn] at hport
          cases hport
          exact ⟨host, hcs ▸ hhost, rfl⟩
      | cons c mid =>
          -- The host ends in front of another colon, and what follows is no port.
          obtain ⟨rfl, rfl⟩ := List.cons.inj hmid
          refine absurd hport (readPort_of_colon (List.mem_append_right _ List.mem_cons_self) ?_)
          intro hslash
          rcases List.mem_append.mp hslash with hslash | hslash
          · refine hbounds '\\' ?_ (by decide)
            rw [hcs]
            exact List.mem_append_right _ (List.mem_cons_of_mem _ hslash)
          · exact (List.mem_cons.mp hslash).elim (by decide) (notMem_decimal (by decide))
    · cases mid with
      | nil =>
          rw [List.append_nil] at hplace
          cases hmid
          rw [readPort_decimal hn] at hport
          cases hport
          exact ⟨host, hplace ▸ hhost, rfl⟩
      | cons c mid =>
          -- There is no colon among the digits of the port.
          obtain ⟨rfl, hdigits⟩ := List.cons.inj hmid
          have hcolon : ':' ∈ Text.decimal n := by
            rw [hdigits]
            exact List.mem_append_right _ List.mem_cons_self
          exact absurd hcolon (notMem_decimal (by decide))
  · rintro ⟨host, hhost, rfl⟩
    rw [cutHost_of_host hhost]
    exact ⟨host, hhost, Or.inr ⟨_, _, _, rfl, readPort_decimal hn, rfl⟩⟩

/-! ### Whole texts -/

/-- The text without tabs and line ends, which count for nothing in an address. -/
def visible (cs : List Char) : List Char := cs.filter fun c => !isIgnored c

/-- The text of a service: its scheme, its place, and its port. -/
def serviceChars (scheme : String) (place : List Char) (port : Nat) : List Char :=
  scheme.toList ++ ':' :: '/' :: '/' :: (place ++ ':' :: Text.decimal port)

/-- What is behind the two slashes of a service. -/
lemma readService_eq_ok_iff {a : Address} (hn : n < Nat.pow 2 16)
    (hbounds : ∀ c ∈ cs, c ∉ hostBounds) :
    readService scheme .special (cs ++ ':' :: Text.decimal n) = .ok a ↔
      ∃ host, readSpecialHost cs = .ok host ∧ a = service scheme host n := by
  -- Nothing ends the authority.
  have hends : ∀ c ∈ cs ++ ':' :: Text.decimal n,
      (!(isSlash .special c || c == '?' || c == '#')) = true := by
    intro c hc
    rcases List.mem_append.mp hc with hc | hc
    · have hbound := hbounds c hc
      simp only [hostBounds, List.mem_cons, not_or] at hbound
      simp [isSlash, hbound]
    · rcases List.mem_cons.mp hc with rfl | hc
      · rfl
      · have hne : ∀ d : Char, d.isDigit = false → c ≠ d := fun d hd heq =>
          notMem_decimal hd (heq ▸ hc)
        simp [isSlash, hne '/' rfl, hne '\\' rfl, hne '?' rfl, hne '#' rfl]
  have hcut : Text.cutAt (fun c => isSlash .special c || c == '?' || c == '#')
      (cs ++ ':' :: Text.decimal n) = (cs ++ ':' :: Text.decimal n, []) := by
    rw [Text.cutAt, List.takeWhile_eq_self_iff.mpr hends, List.dropWhile_eq_nil_iff.mpr hends]
  unfold readService
  simp only [hcut, List.isEmpty_nil, Bool.not_true, bind, Except.bind, pure, Except.pure]
  constructor
  · intro h
    cases hread : readAuthority scheme .special (cs ++ ':' :: Text.decimal n) false with
    | error f =>
        rw [hread] at h
        cases h
    | ok x =>
        obtain ⟨host, hhost, rfl⟩ := (readAuthority_port_eq_ok_iff hn hbounds).mp hread
        rw [hread] at h
        exact ⟨host, hhost, (Except.ok.inj h).symm⟩
  · rintro ⟨host, hhost, rfl⟩
    rw [(readAuthority_port_eq_ok_iff hn hbounds).mpr ⟨host, hhost, rfl⟩]
    rfl

/-- The scheme in front of its colon. -/
lemma readScheme?_service {rest : List Char} (hscheme : scheme = "http" ∨ scheme = "https") :
    readScheme? (scheme.toList ++ ':' :: rest) = some (scheme, rest) := by
  rcases hscheme with rfl | rfl <;> rfl

/-- **The address of a service.** A text that puts a scheme, a place and a port together, in which
nothing bounds a host, is the address of that host and that port, or none at all: the host is the
whole place, read on its own, and the text is an address exactly if the place is a host. -/
theorem readChars_eq_ok_iff {a : Address} (hscheme : scheme = "http" ∨ scheme = "https")
    (hn : n < Nat.pow 2 16) (hbounds : ∀ c ∈ cs, c ∉ hostBounds) :
    readChars (serviceChars scheme cs n) = .ok a ↔
      ∃ host, readSpecialHost (visible cs) = .ok host ∧ a = service scheme host n := by
  have hdigits : (Text.decimal n).filter (fun c => !isIgnored c) = Text.decimal n := by
    refine List.filter_eq_self.mpr fun c hc => ?_
    have hne : ∀ d : Char, d.isDigit = false → c ≠ d := fun d hd heq =>
      notMem_decimal hd (heq ▸ hc)
    simp [isIgnored, hne '\t' rfl, hne '\n' rfl, hne '\r' rfl]
  have htrim : Text.trimBy Text.isControlOrSpace (serviceChars scheme cs n) =
      serviceChars scheme cs n := by
    obtain ⟨d, hlast, hdigit⟩ :=
      exists_getLast?_append_port (scheme.toList ++ ':' :: '/' :: '/' :: cs) n
    have hhead : (serviceChars scheme cs n).head? = some 'h' := by
      rcases hscheme with rfl | rfl <;> rfl
    refine Text.trimBy_of_ends rfl hhead (d := d) ?_ rfl ?_
    · rw [← hlast]
      simp [serviceChars]
    · have hbounds := Text.toNat_of_isDigit hdigit
      simp only [Text.isControlOrSpace, decide_eq_false_iff_not]
      omega
  have hfilter : (serviceChars scheme cs n).filter (fun c => !isIgnored c) =
      serviceChars scheme (visible cs) n := by
    have hscheme' : scheme.toList.filter (fun c => !isIgnored c) = scheme.toList := by
      rcases hscheme with rfl | rfl <;> rfl
    unfold serviceChars
    rw [List.filter_append, hscheme']
    simp only [List.filter_cons, List.filter_append, hdigits]
    rfl
  have hvisible : ∀ c ∈ visible cs, c ∉ hostBounds := fun c hc => 
    hbounds c (List.mem_filter.mp hc).1
  have hkind : Kind.ofScheme scheme = .special := by rcases hscheme with rfl | rfl <;> rfl
  have hslashes : ('/' :: '/' :: (visible cs ++ ':' :: Text.decimal n)).dropWhile
      (isSlash .special) = visible cs ++ ':' :: Text.decimal n := by
    cases hcs : visible cs with
    | nil => rfl
    | cons c rest =>
        have hbound := hvisible c (hcs ▸ List.mem_cons_self)
        simp only [hostBounds, List.mem_cons, not_or] at hbound
        simp [isSlash, hbound]
  unfold readChars
  rw [htrim, hfilter]
  dsimp only
  rw [serviceChars, readScheme?_service hscheme]
  dsimp only
  rw [hkind]
  dsimp only
  rw [hslashes, readService_eq_ok_iff hn hvisible]

end Address

end Roster
