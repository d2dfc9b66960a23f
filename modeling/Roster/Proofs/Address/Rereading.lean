import Mathlib
import Roster.Proofs.Address.Hosts

/-!
# Addresses that are read back

An address with a host is read back from its text, part for part: nothing in a part ends it, and
what a part holds stays as it is. The only thing that is asked is that its host is read back.

* `readTail_tailChars`, `readPath_pathChars`, `readAuthority_chars`: the parts are read back.
* `Written.printed`: the text has visible characters of ASCII only.
* `Settled`, `readChars_chars_iff`: an address with a host is read back exactly if its host is
  settled.
* `settled_of_readChars`, `text_of_readChars`: what is known of an address with a host.
-/

namespace Roster

namespace Text

variable {p : Char → Bool} {cs rest : List Char}

/-- A text is cut in front of the first character of the class. -/
lemma cutAt_front (hcs : ∀ c ∈ cs, p c = false) (hrest : ∀ c, rest.head? = some c → p c = true) :
    cutAt p (cs ++ rest) = (cs, rest) := by
  have hpos : ∀ c ∈ cs, (!p c) = true := fun c hc => by rw [hcs c hc, Bool.not_false]
  rw [cutAt, List.takeWhile_append_of_pos hpos, List.dropWhile_append_of_pos hpos]
  cases rest with
  | nil => simp
  | cons c rest => simp [hrest c rfl]

/-- Nothing is trimmed off a text without characters of the class. -/
lemma trimBy_of_none (hcs : ∀ c ∈ cs, p c = false) : trimBy p cs = cs := by
  have hdrop : ∀ {ds : List Char}, (∀ c ∈ ds, p c = false) → ds.dropWhile p = ds := by
    intro ds hds
    cases ds with
    | nil => rfl
    | cons d ds => rw [List.dropWhile_cons, hds d List.mem_cons_self, if_neg (by decide)]
  rw [trimBy, hdrop hcs, hdrop fun c hc => hcs c (List.mem_reverse.mp hc), List.reverse_reverse]

/-- Words behind a separator each are the pieces of what they make up. -/
lemma pieces_flatMap {sep : Char} {w : List Char} {ws : List (List Char)} (hsep : p sep = true)
    (hws : ∀ v ∈ w :: ws, ∀ c ∈ v, p c = false) :
    pieces p (w ++ ws.flatMap fun v => sep :: v) = w :: ws := by
  induction ws generalizing w with
  | nil =>
      rw [List.flatMap_nil, List.append_nil]
      exact pieces_of_none (hws w List.mem_cons_self)
  | cons v ws ih =>
      obtain ⟨hw, hws⟩ := List.forall_mem_cons.mp hws
      rw [List.flatMap_cons, List.cons_append, pieces_append hw hsep, ih hws]

end Text

namespace Address

variable {a : Address} {au : Authority} {host : Host} {scheme : String} {kind : Kind}
  {cs rest : List Char} {path ss : List (List Char)} {c : Char}

/-! ### Characters of the parts -/

lemma printed_of_fragment (h : Text.Percent.fragment c = false) :
    0x20 < c.toNat ∧ c.toNat < 0x7F := by
  rw [Text.Percent.fragment, Bool.or_eq_false_iff] at h
  refine printed_of_controls h.1 ?_
  rintro rfl
  exact absurd h.2 (by decide)

lemma printed_of_path (h : Text.Percent.path c = false) : 0x20 < c.toNat ∧ c.toNat < 0x7F := by
  rw [Text.Percent.path, Bool.or_eq_false_iff] at h
  exact printed_of_fragment h.1

lemma printed_of_userInfo (h : Text.Percent.userInfo c = false) :
    0x20 < c.toNat ∧ c.toNat < 0x7F := by
  rw [Text.Percent.userInfo, Bool.or_eq_false_iff] at h
  exact printed_of_path h.1

lemma printed_of_inQuery (h : inQuery kind c = false) : 0x20 < c.toNat ∧ c.toNat < 0x7F := by
  have hquery : Text.Percent.query c = false := by
    rw [inQuery] at h
    split_ifs at h
    · exact h
    · exact (Bool.or_eq_false_iff.mp h).1
  rw [Text.Percent.query, Bool.or_eq_false_iff] at hquery
  refine printed_of_controls hquery.1 ?_
  rintro rfl
  exact absurd hquery.2 (by decide)

lemma printed_of_isSchemeChar (h : isSchemeChar c = true) : 0x20 < c.toNat ∧ c.toNat < 0x7F := by
  have hA : ('A'.val).toNat = 0x41 := rfl
  have hZ : ('Z'.val).toNat = 0x5A := rfl
  have ha : ('a'.val).toNat = 0x61 := rfl
  have hz : ('z'.val).toNat = 0x7A := rfl
  have hzero : ('0'.val).toNat = 0x30 := rfl
  have hnine : ('9'.val).toNat = 0x39 := rfl
  have htoNat : c.val.toNat = c.toNat := rfl
  simp only [isSchemeChar, Char.isAlphanum, Char.isAlpha, Char.isUpper, Char.isLower, Char.isDigit,
    ge_iff_le, UInt32.le_iff_toNat_le, Bool.or_eq_true, Bool.and_eq_true, decide_eq_true_eq,
    beq_iff_eq] at h
  rcases h with (((h | h) | rfl) | rfl) | rfl
  · omega
  · omega
  all_goals decide

/-! ### Query and fragment -/

/-- A text behind its mark, if there is one. -/
def marked (mark : Char) : Option String → List Char
  | some t => mark :: t.toList
  | none => []

/-- The query and the fragment as they are written. -/
def tailChars (query fragment : Option String) : List Char :=
  marked '?' query ++ marked '#' fragment

lemma head?_tailChars {query fragment : Option String}
    (h : (tailChars query fragment).head? = some c) : c = '?' ∨ c = '#' := by
  cases query with
  | some q => exact Or.inl (Option.some.inj h).symm
  | none =>
      cases fragment with
      | some f => exact Or.inr (Option.some.inj h).symm
      | none => cases h

/-- Query and fragment are read back. -/
lemma readTail_tailChars {query fragment : Option String}
    (hquery : ∀ q, query = some q → ∀ c ∈ q.toList, inQuery kind c = false)
    (hfragment : ∀ f, fragment = some f → ∀ c ∈ f.toList, Text.Percent.fragment c = false) :
    readTail kind (tailChars query fragment) = (query, fragment) := by
  -- No hash sign stands in the query.
  have hcut : Text.cutAt (· == '#') (tailChars query fragment) =
      (marked '?' query, marked '#' fragment) := by
    refine Text.cutAt_front (fun c hc => ?_) fun c hc => ?_
    · rw [beq_eq_false_iff_ne]
      rintro rfl
      cases query with
      | none => cases hc
      | some q =>
          have hmem : '#' ∈ q.toList := by simpa [marked] using hc
          have hin : inQuery kind '#' = true := by cases kind <;> decide
          rw [hquery q rfl '#' hmem] at hin
          cases hin
    · cases fragment with
      | none => cases hc
      | some f =>
          cases hc
          rfl
  rw [readTail, hcut]
  refine Prod.ext ?_ ?_
  · cases query with
    | none => rfl
    | some q =>
        show some (String.ofList (Text.Percent.encode (inQuery kind) q.toList)) = some q
        rw [Text.Percent.encode_of_none (hquery q rfl), String.ofList_toList]
  · cases fragment with
    | none => rfl
    | some f =>
        show some (String.ofList (Text.Percent.encode Text.Percent.fragment f.toList)) = some f
        rw [Text.Percent.encode_of_none (hfragment f rfl), String.ofList_toList]

/-! ### Paths -/

/-- Segments as they are written, each behind a slash. -/
def pathChars (path : List (List Char)) : List Char := path.flatMap fun s => '/' :: s

/-- Nothing is left out of segments that stand for no directories. -/
lemma walk_of_segments (hss : ∀ s ∈ ss, IsSegment kind s)
    (hfront : kind = .file → path = [] → ∀ s, ss.head? = some s → isDrive s = false) :
    walk kind path ss = path ++ ss := by
  have hpush : ∀ {path : List (List Char)} {s}, (kind = .file → path = [] → isDrive s = false) →
      push kind path s = path ++ [s] := by
    intro path s hs
    rw [push, if_neg]
    rintro ⟨hkind, hpath, hdrive⟩
    rw [hs hkind hpath] at hdrive
    cases hdrive
  fun_induction walk kind path ss with
  | case1 => rw [List.append_nil]
  | case2 path s hdouble =>
      rw [(hss s (List.mem_singleton_self s)).notDouble] at hdouble
      cases hdouble
  | case3 path s _ hsingle =>
      rw [(hss s (List.mem_singleton_self s)).notSingle] at hsingle
      cases hsingle
  | case4 path s _ _ => exact hpush fun hkind hpath => hfront hkind hpath s rfl
  | case5 path s rest _ hdouble _ =>
      rw [(hss s List.mem_cons_self).notDouble] at hdouble
      cases hdouble
  | case6 path s rest _ _ hsingle _ =>
      rw [(hss s List.mem_cons_self).notSingle] at hsingle
      cases hsingle
  | case7 path s rest _ _ _ ih =>
      have hs : push kind path s = path ++ [s] := hpush fun hkind hpath => hfront hkind hpath s rfl
      rw [ih (List.forall_mem_cons.mp hss).2, hs, List.append_assoc, List.singleton_append]
      intro _ hnil
      rw [hs] at hnil
      simp at hnil

/-- A path is read back. -/
lemma readPath_pathChars (h : IsPath kind path) : readPath kind (pathChars path) = path := by
  cases path with
  | nil =>
      have hkind : kind = .plain := by
        by_contra hne
        exact h.nonempty hne rfl
      rw [hkind]
      rfl
  | cons s rest =>
      have hslash : isSlash kind '/' = true := rfl
      have hpieces : Text.pieces (isSlash kind) (s ++ pathChars rest) = s :: rest :=
        Text.pieces_flatMap hslash fun t ht => (h.segments t ht).unparted
      have hencode : (s :: rest).map (Text.Percent.encode Text.Percent.path) = s :: rest :=
        (List.map_congr_left fun t ht =>
          Text.Percent.encode_of_none (h.segments t ht).encoded).trans (List.map_id _)
      have hchars : pathChars (s :: rest) = '/' :: (s ++ pathChars rest) := rfl
      rw [hchars, readPath, if_pos hslash, segments, hpieces, hencode,
        walk_of_segments h.segments fun hkind _ t ht => (h.front hkind t ht).1, List.nil_append]

/-- The path of a file is left as it is. -/
lemma trimFront_of_isPath (h : IsPath .file path) : trimFront path = path := by
  unfold trimFront
  split
  · cases (h.front rfl [] rfl).2 rfl
  · rfl

/-- What ends a path is no part of it. -/
lemma notMem_pathChars (h : IsPath kind path) (hc : c = '?' ∨ c = '#') : c ∉ pathChars path := by
  intro hmem
  obtain ⟨s, hs, hmem⟩ := List.mem_flatMap.mp hmem
  rcases List.mem_cons.mp hmem with rfl | hmem
  · rcases hc with heq | heq <;> cases heq
  · have hencoded := (h.segments s hs).encoded c hmem
    rcases hc with rfl | rfl <;> revert hencoded <;> decide

/-! ### Authorities -/

lemma cutUser_append {front place : List Char} (hplace : '@' ∉ place) :
    cutUser (front ++ '@' :: place) = (some front, place) := by
  have hback : (front ++ '@' :: place).reverse.takeWhile (· != '@') = place.reverse := by
    rw [List.reverse_append, List.reverse_cons, List.append_assoc, List.takeWhile_append_of_pos]
    · simp
    · intro c hc
      have hne : c ≠ '@' := by
        rintro rfl
        exact hplace (List.mem_reverse.mp hc)
      simpa using hne
  have hlength : (front ++ '@' :: place).length - place.reverse.length - 1 = front.length := by
    simp only [List.length_append, List.length_cons, List.length_reverse]
    omega
  rw [cutUser, if_pos (by simp), hback]
  dsimp only
  rw [hlength, List.take_left, List.reverse_reverse]

/-- The user and the password are read back. -/
lemma readUser_userChars {user password : String}
    (huser : ∀ c ∈ user.toList, Text.Percent.userInfo c = false)
    (hpassword : ∀ c ∈ password.toList, Text.Percent.userInfo c = false) :
    readUser (user.toList ++ if password.isEmpty then [] else ':' :: password.toList) =
      (user, password) := by
  have hcut : Text.cutAt (· == ':')
      (user.toList ++ if password.isEmpty then [] else ':' :: password.toList) =
        (user.toList, if password.isEmpty then [] else ':' :: password.toList) := by
    refine Text.cutAt_front (fun c hc => ?_) fun c hc => ?_
    · rw [beq_eq_false_iff_ne]
      rintro rfl
      exact absurd (huser ':' hc) (by decide)
    · split_ifs at hc
      · cases hc
      · cases hc
        rfl
  have hrest : (if password.isEmpty then [] else ':' :: password.toList).drop 1 =
      password.toList := by
    split_ifs with hempty
    · rw [String.isEmpty_iff.mp hempty]
      rfl
    · rfl
  rw [readUser, hcut]
  dsimp only
  rw [hrest, Text.Percent.encode_of_none huser, Text.Percent.encode_of_none hpassword,
    String.ofList_toList, String.ofList_toList]

/-- A port as it is written. -/
def portChars : Option Nat → List Char
  | some n => ':' :: Text.decimal n
  | none => []

lemma cutHost_portChars (port : Option Nat) :
    cutHost false (portChars port) = ([], portChars port) := by
  cases port <;> rfl

lemma Authority.chars_eq (hhost : au.host = some host) :
    au.chars = au.userChars ++ (host.chars ++ portChars au.port) := by
  rw [Authority.chars, hhost, List.append_assoc]
  cases au.port <;> rfl

lemma notMem_portChars (port : Option Nat) : '@' ∉ portChars port := by
  cases port with
  | none => exact List.not_mem_nil
  | some n => exact fun h => (List.mem_cons.mp h).elim (by decide) (notMem_decimal rfl)

/-- The user is cut off in front of the host, and read back. -/
lemma cutUser_chars (hau : IsAuthority scheme au host) (hplace : IsPlace host.chars) :
    ∃ userText, cutUser au.chars = (userText, host.chars ++ portChars au.port) ∧
      readUser (userText.getD []) = (au.user, au.password) := by
  have hat : '@' ∉ host.chars ++ portChars au.port := fun h =>
    (List.mem_append.mp h).elim (hplace.notMem (by decide)) (notMem_portChars au.port)
  rw [Authority.chars_eq hau.host, Authority.userChars]
  by_cases hempty : (au.user.isEmpty && au.password.isEmpty) = true
  · rw [if_pos hempty, List.nil_append, cutUser, if_neg (by simpa using hat)]
    rw [Bool.and_eq_true, String.isEmpty_iff, String.isEmpty_iff] at hempty
    exact ⟨none, rfl, by rw [hempty.1, hempty.2]; rfl⟩
  · rw [if_neg hempty, List.append_assoc _ ['@'], List.singleton_append, cutUser_append hat]
    exact ⟨some _, rfl, readUser_userChars hau.user hau.password⟩

/-- An authority is read back if its host is. -/
lemma readAuthority_chars (hau : IsAuthority scheme au host) (hkind : kind ≠ .file)
    (h : readPlace kind host.chars = .ok (some host)) (more : Bool) :
    readAuthority scheme kind au.chars more = .ok (au, []) := by
  have hplace := isPlace_of_readPlace h
  obtain ⟨userText, hcut, huser⟩ := cutUser_chars hau hplace
  have hne : host.chars ++ portChars au.port ≠ [] := fun hnil =>
    (printed_of_readPlace h).1 (List.append_eq_nil_iff.mp hnil).1
  rw [readAuthority, hcut]
  dsimp only
  rw [huser, if_neg fun hnone => hne hnone.2.1, hplace.cutHost (cutHost_portChars au.port),
    (readHost_eq_ok_iff hkind).mpr h]
  refine bind_eq_ok_iff.mpr ⟨some host, rfl, ?_⟩
  rw [if_neg (by simp)]
  obtain ⟨user, password, host?, port⟩ := au
  obtain rfl : host? = some host := hau.host
  cases port with
  | none => rfl
  | some n =>
      obtain ⟨hn, hunusual⟩ := hau.port n rfl
      refine bind_eq_ok_iff.mpr ⟨(some n, []), ?_, rfl⟩
      rw [readPort_decimal hn, hunusual]

/-- If an authority is read back, its host is. -/
lemma readPlace_of_readAuthority_chars {more : Bool} {left : List Char}
    (hau : IsAuthority scheme au host) (hkind : kind ≠ .file) (hplace : IsPlace host.chars)
    (h : readAuthority scheme kind au.chars more = .ok (au, left)) :
    readPlace kind host.chars = .ok (some host) := by
  obtain ⟨userText, hcut, -⟩ := cutUser_chars hau hplace
  have hhost := (readAuthority_cases h).1
  rw [hcut, hplace.cutHost (cutHost_portChars au.port), hau.host] at hhost
  exact (readHost_eq_ok_iff hkind).mp hhost

/-! ### Addresses -/

lemma Written.host?_eq (h : Written a au host path) : a.host? = some host := by
  rw [host?, h.authority]
  exact h.isAuthority.host

/-- What is behind the two slashes of an address. -/
def restChars (a : Address) (au : Authority) (path : List (List Char)) : List Char :=
  au.chars ++ (pathChars path ++ tailChars a.query a.fragment)

/-- The text of an address with a host. -/
lemma Written.chars_eq (h : Written a au host path) :
    a.chars = a.scheme.toList ++ ':' :: '/' :: '/' :: restChars a au path := by
  have hfront : a.frontChars = '/' :: '/' :: au.chars := by
    rw [frontChars, h.authority]
  have hpath : a.path.chars = pathChars path := by
    rw [h.path, Path.chars, List.flatMap_map]
    simp only [String.toList_ofList]
    rfl
  rw [Address.chars, hfront, hpath, restChars, tailChars]
  cases a.query <;> cases a.fragment <;> simp [marked]

/-- The text of an address with a host has visible characters of ASCII only. -/
lemma Written.printed (h : Written a au host path) (hhost : Printed host.chars) :
    Printed a.chars := by
  have happend : ∀ {cs ds : List Char}, Printed cs → Printed ds → Printed (cs ++ ds) :=
    fun hcs hds c hc => (List.mem_append.mp hc).elim (hcs c) (hds c)
  have hcons : ∀ {d : Char} {ds : List Char}, 0x20 < d.toNat ∧ d.toNat < 0x7F → Printed ds →
      Printed (d :: ds) := fun hd hds => List.forall_mem_cons.mpr ⟨hd, hds⟩
  have hnil : Printed [] := fun _ hc => absurd hc List.not_mem_nil
  have huser : Printed au.userChars := by
    have huserInfo : ∀ {t : String}, (∀ c ∈ t.toList, Text.Percent.userInfo c = false) →
        Printed t.toList := fun ht c hc => printed_of_userInfo (ht c hc)
    rw [Authority.userChars]
    split_ifs
    · exact hnil
    · exact happend (happend (huserInfo h.isAuthority.user) hnil) (hcons (by decide) hnil)
    · exact happend (happend (huserInfo h.isAuthority.user)
        (hcons (by decide) (huserInfo h.isAuthority.password))) (hcons (by decide) hnil)
  have hport : Printed (portChars au.port) := by
    cases au.port with
    | none => exact hnil
    | some n =>
        refine hcons (by decide) fun c hc => ?_
        have hbounds := Text.toNat_of_isDigit (Text.isDigit_of_mem_decimal hc)
        omega
  have hpath : Printed (pathChars path) := by
    intro c hc
    obtain ⟨s, hs, hc⟩ := List.mem_flatMap.mp hc
    have hs : Printed s := fun d hd => printed_of_path ((h.isPath.segments s hs).encoded d hd)
    exact hcons (by decide) hs c hc
  have hmarked : ∀ {mark : Char} {t : Option String}, 0x20 < mark.toNat ∧ mark.toNat < 0x7F →
      (∀ s, t = some s → Printed s.toList) → Printed (marked mark t) := by
    rintro mark (_ | s) hmark ht
    · exact hnil
    · exact hcons hmark (ht s rfl)
  rw [h.chars_eq, restChars, Authority.chars_eq h.isAuthority.host]
  refine happend (fun c hc => printed_of_isSchemeChar (h.scheme.2 c hc)) ?_
  refine hcons (by decide) (hcons (by decide) (hcons (by decide) ?_))
  refine happend (happend huser (happend hhost hport)) (happend hpath (happend ?_ ?_))
  · exact hmarked (by decide) fun q hq c hc => printed_of_inQuery (h.query q hq c hc)
  · exact hmarked (by decide) fun f hf c hc => printed_of_fragment (h.fragment f hf c hc)

/-- What is left behind the authority begins where the authority ends. -/
lemma head?_pathTail {query fragment : Option String}
    (h : (pathChars path ++ tailChars query fragment).head? = some c) :
    c = '/' ∨ c = '?' ∨ c = '#' := by
  cases path with
  | nil => exact Or.inr (head?_tailChars h)
  | cons s rest => exact Or.inl (Option.some.inj h).symm

lemma visible_of_printed (hcs : Printed cs) :
    (Text.trimBy Text.isControlOrSpace cs).filter (fun c => !isIgnored c) = cs := by
  rw [Text.trimBy_of_none fun c hc => ?_, List.filter_eq_self.mpr fun c hc => ?_]
  · have hne : ∀ d : Char, d.toNat ≤ 0x20 → c ≠ d := by
      rintro d hd rfl
      exact absurd hd (Nat.not_le_of_lt (hcs c hc).1)
    simp [isIgnored, hne '\t' (by decide), hne '\n' (by decide), hne '\r' (by decide)]
  · rw [Text.isControlOrSpace, decide_eq_false_iff_not]
    have hprinted := (hcs c hc).1
    omega

/-- What ends an authority is no part of it. -/
lemma notMem_chars (hau : IsAuthority scheme au host) (hplace : IsPlace host.chars)
    (hc : c ∈ ['/', '\\', '?', '#']) : c ∉ au.chars := by
  have hends : ∀ c ∈ ['/', '\\', '?', '#'], c ∈ hostBounds ∧ Text.Percent.userInfo c = true ∧
      c ≠ ':' ∧ c ≠ '@' ∧ c.isDigit = false := List.all_iff_forall_prop.mp (by decide)
  obtain ⟨hbound, hset, hcolon, hat, hdigit⟩ := hends c hc
  have huserInfo : ∀ {t : String}, (∀ c ∈ t.toList, Text.Percent.userInfo c = false) →
      c ∉ t.toList := fun ht hmem => Bool.false_ne_true ((ht c hmem).symm.trans hset)
  have huser : c ∉ au.userChars := by
    rw [Authority.userChars]
    split_ifs <;> simp [hcolon, hat, huserInfo hau.user, huserInfo hau.password]
  have hport : c ∉ portChars au.port := by
    cases au.port with
    | none => exact List.not_mem_nil
    | some n => exact fun hmem => (List.mem_cons.mp hmem).elim hcolon (notMem_decimal hdigit)
  rw [Authority.chars_eq hau.host]
  simp [huser, hport, hplace.notMem hbound]

lemma chars_ne_nil (hau : IsAuthority scheme au host) (hne : host.chars ≠ []) : au.chars ≠ [] := by
  rw [Authority.chars_eq hau.host]
  simp [hne]

/-- The authority is cut off in front of the path. -/
lemma cutAt_restChars (hau : IsAuthority scheme au host) (hplace : IsPlace host.chars) :
    Text.cutAt (fun c => isSlash kind c || c == '?' || c == '#') (restChars a au path) =
      (au.chars, pathChars path ++ tailChars a.query a.fragment) := by
  refine Text.cutAt_front (fun c hc => ?_) fun c hc => ?_
  · have hne : ∀ d ∈ ['/', '\\', '?', '#'], c ≠ d := by
      rintro d hd rfl
      exact notMem_chars hau hplace hd hc
    simp [isSlash, hne '/' (by decide), hne '\\' (by decide), hne '?' (by decide),
      hne '#' (by decide)]
  · rcases head?_pathTail hc with rfl | rfl | rfl <;> cases kind <;> rfl

/-- The path is cut off in front of the query. -/
lemma cutPath_pathChars (hpath : IsPath kind path) (query fragment : Option String) :
    cutPath (pathChars path ++ tailChars query fragment) =
      (pathChars path, tailChars query fragment) := by
  refine Text.cutAt_front (fun c hc => ?_) fun c hc => ?_
  · have hne : ∀ d, d = '?' ∨ d = '#' → c ≠ d := by
      rintro d hd rfl
      exact notMem_pathChars hpath hd hc
    simp [hne '?' (Or.inl rfl), hne '#' (Or.inr rfl)]
  · rcases head?_tailChars hc with rfl | rfl <;> rfl

/-- An address with a host is put together again from its parts. -/
lemma Written.build_eq (h : Written a au host path) :
    build a.scheme (Kind.ofScheme a.scheme) (some au) path (tailChars a.query a.fragment) = a := by
  rw [build, readTail_tailChars h.query h.fragment]
  dsimp only
  rw [← h.path, ← h.authority]

/-- A service is read back exactly if its host is. -/
lemma readService_restChars_iff (h : Written a au host path)
    (hkind : Kind.ofScheme a.scheme ≠ .file) (hplace : IsPlace host.chars) :
    readService a.scheme (Kind.ofScheme a.scheme) (restChars a au path) = .ok a ↔
      readPlace (Kind.ofScheme a.scheme) host.chars = .ok (some host) := by
  rw [readService, cutAt_restChars h.isAuthority hplace]
  constructor
  · intro hread
    obtain ⟨⟨au', left⟩, hread, hbuild⟩ := bind_eq_ok_iff.mp hread
    have hau : some au' = a.authority := congrArg Address.authority (Except.ok.inj hbuild)
    obtain rfl : au' = au := Option.some.inj (hau.trans h.authority)
    exact readPlace_of_readAuthority_chars h.isAuthority hkind hplace hread
  · intro hhost
    refine bind_eq_ok_iff.mpr ⟨(au, []), readAuthority_chars h.isAuthority hkind hhost _, ?_⟩
    dsimp only
    rw [List.nil_append, cutPath_pathChars h.isPath, readPath_pathChars h.isPath, h.build_eq]
    rfl

/-- A file is put together again from its host and its path. -/
lemma fileAddress_pathChars (h : Written a au host path) (hkind : Kind.ofScheme a.scheme = .file) :
    fileAddress (some host) (pathChars path ++ tailChars a.query a.fragment) = a := by
  have hpath : IsPath .file path := hkind ▸ h.isPath
  have hdrive : (path.head?.map isDrive).getD false = false := by
    cases hs : path.head? with
    | none => rfl
    | some s => exact (hpath.front rfl s hs).1
  have hbuild := h.build_eq
  rw [hkind, eq_file_of_ofScheme hkind, (h.isFileAuthority hkind).1] at hbuild
  rw [fileAddress, cutPath_pathChars hpath]
  dsimp only
  rw [readPath_pathChars hpath, trimFront_of_isPath hpath, hdrive, if_neg (by decide), hbuild]

/-- A file on another machine is read back exactly if its host is. -/
lemma readFile_restChars_iff (h : Written a au host path) (hkind : Kind.ofScheme a.scheme = .file)
    (hplace : IsPlace host.chars) (hdrive : isDrive host.chars = false) :
    readFile ('/' :: '/' :: restChars a au path) = .ok a ↔
      readPlace .file host.chars = .ok (some host) := by
  obtain ⟨hau, hremote⟩ := h.isFileAuthority hkind
  have hchars : au.chars = host.chars := by
    rw [Authority.chars_eq h.isAuthority.host, hau]
    exact List.append_nil _
  have hread : readFile ('/' :: '/' :: restChars a au path) = do
      let host? ← readFileHost host.chars
      return fileAddress host? (pathChars path ++ tailChars a.query a.fragment) := by
    rw [readFile]
    simp only [show isSlash .file '/' = true from rfl, Bool.and_self, if_true]
    rw [cutAt_restChars h.isAuthority hplace, hchars]
    dsimp only
    rw [hdrive, if_neg (by decide)]
    cases readFileHost host.chars <;> rfl
  rw [hread]
  constructor
  · intro hfile
    obtain ⟨host?, hhost, hfile⟩ := bind_eq_ok_iff.mp hfile
    have heq : fileAddress host? (pathChars path ++ tailChars a.query a.fragment) = a :=
      Except.ok.inj hfile
    have hsome : (fileAddress host? (pathChars path ++ tailChars a.query a.fragment)).host? =
        some host := by
      rw [heq]
      exact h.host?_eq
    have hremote' : ∀ host', host? = some host' →
        IsFileAuthority (.ofHost (some host') none) host' := by
      rintro host' rfl
      exact ⟨rfl, (readFileHost_eq_ok_iff.mp hhost).2⟩
    obtain ⟨au', host', path', rfl, hwritten⟩ :=
      written_fileAddress (Option.ne_none_iff_exists'.mpr ⟨host, hsome⟩) hremote'
    obtain rfl : host' = host := Option.some.inj (hwritten.host?_eq.symm.trans hsome)
    exact (readFileHost_eq_ok_iff.mp hhost).1
  · intro hhost
    refine bind_eq_ok_iff.mpr ⟨some host, readFileHost_eq_ok_iff.mpr ⟨hhost, hremote⟩, ?_⟩
    rw [fileAddress_pathChars h hkind]
    rfl

/-- An address that is written like this is read back exactly if its host is. -/
lemma Written.readChars_chars_iff (h : Written a au host path)
    (hhost : readPlace (Kind.ofScheme a.scheme) cs = .ok (some host)) :
    readChars a.chars = .ok a ↔
      readPlace (Kind.ofScheme a.scheme) host.chars = .ok (some host) := by
  have hplace := isPlace_chars hhost
  obtain ⟨hne, hprinted⟩ := printed_of_readPlace hhost
  rw [readChars, visible_of_printed (h.printed hprinted), h.chars_eq,
    readScheme?_slashes h.scheme, h.lower, String.ofList_toList]
  dsimp only
  cases hkind : Kind.ofScheme a.scheme with
  | file =>
      rw [hkind, readPlace_eq_ok_iff (by decide)] at hhost
      exact readFile_restChars_iff h hkind hplace (isDrive_chars hhost)
  | special =>
      have hdrop : ('/' :: '/' :: restChars a au path).dropWhile (isSlash .special) =
          restChars a au path := by
        show (restChars a au path).dropWhile (isSlash .special) = _
        obtain ⟨c, cs, hchars⟩ := List.exists_cons_of_ne_nil (chars_ne_nil h.isAuthority hne)
        have hmem : c ∈ au.chars := by
          rw [hchars]
          exact List.mem_cons_self
        have hne : ∀ d ∈ ['/', '\\', '?', '#'], c ≠ d := by
          rintro d hd rfl
          exact notMem_chars h.isAuthority hplace hd hmem
        rw [restChars, hchars, List.cons_append, List.dropWhile_cons, if_neg]
        simp [isSlash, hne '/' (by decide), hne '\\' (by decide)]
      have hservice := readService_restChars_iff h (by rw [hkind]; decide) hplace
      rw [hkind] at hservice
      dsimp only
      rw [hdrop, hservice]
  | plain =>
      have hservice := readService_restChars_iff h (by rw [hkind]; decide) hplace
      rw [hkind] at hservice
      exact hservice

/-- An address whose host is settled. -/
def Settled (a : Address) : Prop :=
  ∀ host, a.host? = some host → host.Settled (Kind.ofScheme a.scheme)

/-- **Addresses are read back** from their texts: one with a host that is read is read back exactly
if its host is settled. -/
theorem readChars_chars_iff (h : readChars cs = .ok a) (hhost : a.host? ≠ none) :
    readChars a.chars = .ok a ↔ a.Settled := by
  obtain ⟨au, host, path, hwritten, place, -, hplace⟩ := exists_written h hhost
  rw [hwritten.readChars_chars_iff hplace]
  constructor
  · intro hback host' hhost'
    obtain rfl : host = host' := Option.some.inj (hwritten.host?_eq.symm.trans hhost')
    exact settled_of_readPlace_chars hback
  · exact fun hsettled => readPlace_chars hplace (hsettled host hwritten.host?_eq)

/-- Nothing is asked of an address that is read from ASCII without percent signs. -/
lemma settled_of_readChars (h : readChars cs = .ok a) (hcs : ∀ c ∈ cs, c.toNat < 0x80 ∧ c ≠ '%') :
    a.Settled := by
  intro host hhost
  obtain ⟨au, host', path, hwritten, place, hmem, hplace⟩ := exists_written h (by rw [hhost]; nofun)
  obtain rfl : host' = host := Option.some.inj (hwritten.host?_eq.symm.trans hhost)
  exact settled_of_ascii hplace fun c hc => hcs c (hmem c hc)

/-- What is known of the text of an address with a host: it has its scheme, no white space, and the
host is not empty. -/
lemma text_of_readChars (h : readChars cs = .ok a) (hhost : a.host? ≠ none) :
    (∃ scheme rest, a.chars = scheme ++ ':' :: '/' :: '/' :: rest) ∧ Printed a.chars ∧
      ∃ host, a.host? = some host ∧ host.chars ≠ [] := by
  obtain ⟨au, host, path, hwritten, place, -, hplace⟩ := exists_written h hhost
  obtain ⟨hne, hprinted⟩ := printed_of_readPlace hplace
  exact ⟨⟨_, _, hwritten.chars_eq⟩, hwritten.printed hprinted, host, hwritten.host?_eq, hne⟩

end Address

end Roster
