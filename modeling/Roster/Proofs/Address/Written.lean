import Mathlib
import Roster.Proofs.Address.Segments

/-!
# How addresses are written

An address with a host that is read is written in a form of its own, whatever text it was read from:
the scheme in lower case, triplets for all characters that a part cannot hold, no port that is the
usual one, and no segments that stand for directories.

* `Text.Percent.Spares`: the classes whose characters are all gone once they are triplets.
* `IsSegment`, `IsPath`, `IsAuthority`: how the parts of such an address are written.
* `Written`: how the address is; `exists_written`: what is read is written like this.
-/

namespace Roster

namespace Text

/-! ### Triplets -/

namespace Percent

variable {inSet : Char → Bool} {c : Char} {cs : List Char}

/-- A class without the characters that triplets are made of. -/
def Spares (inSet : Char → Bool) : Prop :=
  inSet '%' = false ∧ ∀ n < 16, inSet (upperDigit n) = false

instance (inSet : Char → Bool) : Decidable (Spares inSet) := by
  rw [Spares]
  infer_instance

/-- What is written with triplets are characters of the text outside the class, and triplets. -/
lemma cases_of_mem_encode (h : c ∈ encode inSet cs) :
    c ∈ cs ∧ inSet c = false ∨ c = '%' ∨ ∃ n < 16, c = upperDigit n := by
  obtain ⟨d, hd, hc⟩ := List.mem_flatMap.mp h
  rw [encodeChar] at hc
  split_ifs at hc with hin
  · obtain ⟨b, -, hb⟩ := List.mem_flatMap.mp hc
    have hlt : b.toNat < 256 := b.toNat_lt
    simp only [triplet, List.mem_cons, List.not_mem_nil, or_false] at hb
    rcases hb with rfl | rfl | rfl
    · exact Or.inr (Or.inl rfl)
    · exact Or.inr (Or.inr ⟨_, by omega, rfl⟩)
    · exact Or.inr (Or.inr ⟨_, by omega, rfl⟩)
  · rw [List.mem_singleton.mp hc]
    exact Or.inl ⟨hd, by simpa using hin⟩

lemma Spares.of_mem_encode (hset : Spares inSet) (h : c ∈ encode inSet cs) : inSet c = false := by
  rcases cases_of_mem_encode h with ⟨-, hc⟩ | rfl | ⟨n, hn, rfl⟩
  · exact hc
  · exact hset.1
  · exact hset.2 n hn

lemma spares_userInfo : Spares userInfo := by decide

lemma spares_path : Spares path := by decide

lemma spares_fragment : Spares fragment := by decide

lemma spares_controls : Spares controls := by decide

end Percent

/-- A piece has characters of the text only, and none that separates pieces. -/
lemma of_mem_pieces {p : Char → Bool} {w cs : List Char} (hw : w ∈ pieces p cs) :
    ∀ c ∈ w, c ∈ cs ∧ p c = false := by
  induction cs generalizing w with
  | nil =>
      rw [pieces, List.mem_singleton] at hw
      subst hw
      exact fun c hc => absurd hc List.not_mem_nil
  | cons d cs ih =>
      have hrest : ∀ {v}, v ∈ pieces p cs → ∀ c ∈ v, c ∈ d :: cs ∧ p c = false := fun hv c hc =>
        (ih hv c hc).imp_left (List.mem_cons_of_mem _)
      rw [pieces] at hw
      split_ifs at hw with hd
      · rcases List.mem_cons.mp hw with rfl | hw
        · exact fun c hc => absurd hc List.not_mem_nil
        · exact hrest hw
      · cases hps : pieces p cs with
        | nil => exact absurd hps (pieces_ne_nil p cs)
        | cons v vs =>
            rw [hps] at hw hrest
            rcases List.mem_cons.mp hw with rfl | hw
            · exact List.forall_mem_cons.mpr
                ⟨⟨List.mem_cons_self, by simpa using hd⟩, hrest List.mem_cons_self⟩
            · exact hrest (List.mem_cons_of_mem _ hw)

end Text

namespace Address

variable {scheme : String} {kind : Kind} {cs s : List Char} {path ss : List (List Char)}

/-- The characters that a query has as triplets. -/
def inQuery (kind : Kind) : Char → Bool :=
  if kind = .plain then Text.Percent.query else Text.Percent.specialQuery

lemma spares_inQuery (kind : Kind) : Text.Percent.Spares (inQuery kind) := by cases kind <;> decide

/-! ### Segments -/

/-- A segment as it is written: nothing in it ends a segment or a path, and it stands for no
directory. -/
structure IsSegment (kind : Kind) (s : List Char) : Prop where
  encoded : ∀ c ∈ s, Text.Percent.path c = false
  unparted : ∀ c ∈ s, isSlash kind c = false
  notSingle : isSingleDot s = false
  notDouble : isDoubleDot s = false

lemma isSegment_nil (kind : Kind) : IsSegment kind [] :=
  ⟨fun _ hc => absurd hc List.not_mem_nil, fun _ hc => absurd hc List.not_mem_nil, by decide,
    by decide⟩

lemma mem_of_mem_shorten (h : s ∈ shorten kind path) : s ∈ path := by
  unfold shorten at h
  split at h
  · split_ifs at h
    · exact h
    · cases h
  · exact List.mem_of_mem_dropLast h

lemma exists_of_isDrive (h : isDrive s = true) :
    ∃ c d, s = [c, d] ∧ c.isAlpha = true ∧ (d = ':' ∨ d = '|') := by
  unfold isDrive at h
  split at h
  · next c d =>
    simp only [Bool.and_eq_true, Bool.or_eq_true, beq_iff_eq] at h
    exact ⟨c, d, rfl, h⟩
  · cases h

/-- A disk with its colon is a segment. -/
lemma isSegment_drive (hs : IsSegment kind s) (h : isDrive s = true) :
    IsSegment kind (s.take 1 ++ [':']) := by
  obtain ⟨c, d, rfl, -⟩ := exists_of_isDrive h
  refine ⟨fun e he => ?_, fun e he => ?_, ?_, ?_⟩
  · rcases List.mem_append.mp he with he | he
    · exact hs.encoded e (List.mem_of_mem_take he)
    · rw [List.mem_singleton.mp he]
      decide
  · rcases List.mem_append.mp he with he | he
    · exact hs.unparted e (List.mem_of_mem_take he)
    · rw [List.mem_singleton.mp he]
      cases kind <;> rfl
  · simp [isSingleDot, ← String.toList_inj]
  · simp [isDoubleDot, ← String.toList_inj]

lemma forall_mem_push (hpath : ∀ s ∈ path, IsSegment kind s) (hs : IsSegment kind s) :
    ∀ t ∈ push kind path s, IsSegment kind t := by
  rw [push]
  split_ifs with hdrive
  · exact fun t ht => List.mem_singleton.mp ht ▸ isSegment_drive hs hdrive.2.2
  · exact fun t ht => (List.mem_append.mp ht).elim (hpath t) fun ht => List.mem_singleton.mp ht ▸ hs

/-- What is left of segments has none that stand for directories. -/
lemma forall_mem_walk (hpath : ∀ s ∈ path, IsSegment kind s)
    (hss : ∀ s ∈ ss, (∀ c ∈ s, Text.Percent.path c = false) ∧ ∀ c ∈ s, isSlash kind c = false) :
    ∀ t ∈ walk kind path ss, IsSegment kind t := by
  have hshorten : ∀ {path : List (List Char)}, (∀ s ∈ path, IsSegment kind s) →
      ∀ s ∈ shorten kind path, IsSegment kind s := fun hpath s hs => hpath s (mem_of_mem_shorten hs)
  have hempty : ∀ {path : List (List Char)}, (∀ s ∈ path, IsSegment kind s) →
      ∀ s ∈ path ++ [[]], IsSegment kind s := fun hpath s hs =>
    (List.mem_append.mp hs).elim (hpath s) fun hs => List.mem_singleton.mp hs ▸ isSegment_nil kind
  fun_induction walk kind path ss with
  | case1 => exact hpath
  | case2 path s hdouble => exact hempty (hshorten hpath)
  | case3 path s _ hsingle => exact hempty hpath
  | case4 path s hdouble hsingle =>
      obtain ⟨⟨hencoded, hunparted⟩, -⟩ := List.forall_mem_cons.mp hss
      exact forall_mem_push hpath
        ⟨hencoded, hunparted, by simpa using hsingle, by simpa using hdouble⟩
  | case5 path s rest _ hdouble ih => exact ih (hshorten hpath) (List.forall_mem_cons.mp hss).2
  | case6 path s rest _ _ hsingle ih => exact ih hpath (List.forall_mem_cons.mp hss).2
  | case7 path s rest _ hdouble hsingle ih =>
      obtain ⟨⟨hencoded, hunparted⟩, hss⟩ := List.forall_mem_cons.mp hss
      exact ih (forall_mem_push hpath
        ⟨hencoded, hunparted, by simpa using hsingle, by simpa using hdouble⟩) hss

lemma push_ne_nil (kind : Kind) (path : List (List Char)) (s : List Char) :
    push kind path s ≠ [] := by
  rw [push]
  split_ifs <;> simp

/-- Segments are never all gone. -/
lemma walk_ne_nil (hss : ss ≠ []) : walk kind path ss ≠ [] := by
  fun_induction walk kind path ss with
  | case1 => exact absurd rfl hss
  | case2 | case3 => simp
  | case4 path s => exact push_ne_nil kind path s
  | case5 path s rest hne _ ih => exact ih fun hrest => hne hrest
  | case6 path s rest hne _ _ ih => exact ih fun hrest => hne hrest
  | case7 path s rest hne _ _ ih => exact ih fun hrest => hne hrest

/-! ### Paths -/

/-- The segments of a path text, encoded. -/
lemma isSegment_of_mem_segments (cs : List Char) : ∀ s ∈ segments kind cs, IsSegment kind s := by
  refine forall_mem_walk (fun s hs => absurd hs List.not_mem_nil) fun s hs => ?_
  obtain ⟨w, hw, rfl⟩ := List.mem_map.mp hs
  refine ⟨fun c => Text.Percent.spares_path.of_mem_encode, fun c hc => ?_⟩
  have hslash : isSlash kind '%' = false ∧
      ∀ n < 16, isSlash kind (Text.Percent.upperDigit n) = false := by
    cases kind <;> decide
  rcases Text.Percent.cases_of_mem_encode hc with ⟨hmem, -⟩ | rfl | ⟨n, hn, rfl⟩
  · exact (Text.of_mem_pieces hw c hmem).2
  · exact hslash.1
  · exact hslash.2 n hn

lemma segments_ne_nil (kind : Kind) (cs : List Char) : segments kind cs ≠ [] :=
  walk_ne_nil (by simpa using Text.pieces_ne_nil (isSlash kind) cs)

lemma isSegment_of_mem_readPath (cs : List Char) : ∀ s ∈ readPath kind cs, IsSegment kind s := by
  unfold readPath
  split
  · split_ifs
    · exact fun s hs => absurd hs List.not_mem_nil
    · exact fun s hs => List.mem_singleton.mp hs ▸ isSegment_nil kind
  · split_ifs
    · exact isSegment_of_mem_segments _
    · exact isSegment_of_mem_segments _

lemma readPath_ne_nil (hkind : kind ≠ .plain) (cs : List Char) : readPath kind cs ≠ [] := by
  unfold readPath
  split
  · rw [if_neg hkind]
    exact List.cons_ne_nil _ _
  · split_ifs
    · exact segments_ne_nil kind _
    · exact segments_ne_nil kind _

lemma mem_of_mem_trimFront (h : s ∈ trimFront path) : s ∈ path := by
  fun_induction trimFront path with
  | case1 s' rest ih => exact List.mem_cons_of_mem _ (ih h)
  | case2 => exact h

lemma trimFront_ne_nil (h : path ≠ []) : trimFront path ≠ [] := by
  fun_induction trimFront path with
  | case1 s' rest ih => exact ih (List.cons_ne_nil _ _)
  | case2 => exact h

/-- An empty segment is left in front only if it is all there is. -/
lemma trimFront_eq_singleton (h : (trimFront path).head? = some []) : trimFront path = [[]] := by
  fun_induction trimFront path with
  | case1 s' rest ih => exact ih h
  | case2 path hne =>
      obtain ⟨rest, rfl⟩ := List.head?_eq_some_iff.mp h
      cases rest with
      | nil => rfl
      | cons s rest => exact absurd rfl (hne s rest)

/-- A path as it is written. In front of the path of a file there is neither a disk nor an empty
segment, unless that is all there is. -/
structure IsPath (kind : Kind) (path : List (List Char)) : Prop where
  segments : ∀ s ∈ path, IsSegment kind s
  nonempty : kind ≠ .plain → path ≠ []
  front : kind = .file → ∀ s, path.head? = some s → isDrive s = false ∧ (s = [] → path = [[]])

lemma isPath_readPath (hkind : kind ≠ .file) (cs : List Char) : IsPath kind (readPath kind cs) :=
  ⟨isSegment_of_mem_readPath cs, fun hplain => readPath_ne_nil hplain cs, fun hfile =>
    absurd hfile hkind⟩

/-- The path of a file that has no disk in front. -/
lemma isPath_trimFront
    (hdrive : ((trimFront (readPath .file cs)).head?.map isDrive).getD false = false) :
    IsPath .file (trimFront (readPath .file cs)) := by
  refine ⟨fun s hs => isSegment_of_mem_readPath cs s (mem_of_mem_trimFront hs), fun _ =>
    trimFront_ne_nil (readPath_ne_nil (show Kind.file ≠ .plain by decide) cs), fun _ s hs =>
    ⟨?_, ?_⟩⟩
  · rw [hs] at hdrive
    exact hdrive
  · rintro rfl
    exact trimFront_eq_singleton hs

/-! ### Authorities -/

/-- An authority as it is written. -/
structure IsAuthority (scheme : String) (au : Authority) (host : Host) : Prop where
  host : au.host = some host
  user : ∀ c ∈ au.user.toList, Text.Percent.userInfo c = false
  password : ∀ c ∈ au.password.toList, Text.Percent.userInfo c = false
  port : ∀ n, au.port = some n → n < Nat.pow 2 16 ∧ unusualPort? scheme n = some n

/-- The authority of a file is a host, and not this machine. -/
def IsFileAuthority (au : Authority) (host : Host) : Prop :=
  au = .ofHost (some host) none ∧ host ≠ .name "localhost"

lemma userInfo_of_readUser (cs : List Char) :
    (∀ c ∈ (readUser cs).1.toList, Text.Percent.userInfo c = false) ∧
      ∀ c ∈ (readUser cs).2.toList, Text.Percent.userInfo c = false := by
  have hencode : ∀ {ds : List Char}, ∀ c ∈ (String.ofList
      (Text.Percent.encode Text.Percent.userInfo ds)).toList, Text.Percent.userInfo c = false := by
    intro ds c hc
    rw [String.toList_ofList] at hc
    exact Text.Percent.spares_userInfo.of_mem_encode hc
  exact ⟨hencode, hencode⟩

/-- A port that is read is one, and not the usual one. -/
lemma unusual_of_readPort {port : Option Nat} {rest : List Char}
    (h : readPort scheme cs = .ok (port, rest)) (n : Nat) (hn : port = some n) :
    n < Nat.pow 2 16 ∧ unusualPort? scheme n = some n := by
  unfold readPort at h
  dsimp only at h
  generalize (Text.value? 10 (cs.takeWhile Char.isDigit)).getD 0 = m at h
  split_ifs at h with hlarge _ husual
  · cases h
    cases hn
  · cases h
    cases hn
    rw [Bool.or_eq_true, not_or] at husual
    refine ⟨show n < 65536 by omega, if_neg ?_⟩
    simpa using husual.2

lemma mem_of_mem_cutUser {c : Char} (h : c ∈ (cutUser cs).2) : c ∈ cs := by
  rw [cutUser] at h
  split_ifs at h
  · rw [List.mem_reverse] at h
    exact List.mem_reverse.mp (List.takeWhile_subset _ h)
  · exact h

/-- What an authority is read from: the user, the host, and the port, if there is one. -/
lemma readAuthority_cases {au : Authority} {left : List Char} {more : Bool}
    (h : readAuthority scheme kind cs more = .ok (au, left)) :
    readHost kind (cutHost false (cutUser cs).2).1 = .ok au.host ∧
      (au.user, au.password) = readUser ((cutUser cs).1.getD []) ∧
      (au.port = none ∨ ∃ rest, readPort scheme rest = .ok (au.port, left)) := by
  rw [readAuthority] at h
  dsimp only at h
  split at h
  · cases h
  · obtain ⟨host?, hread, h⟩ := bind_eq_ok_iff.mp h
    split at h
    · cases h
    · split at h
      · obtain ⟨⟨port, rest⟩, hport, h⟩ := bind_eq_ok_iff.mp h
        split at h
        · cases h
        · cases h
          exact ⟨hread, rfl, Or.inr ⟨_, hport⟩⟩
      · obtain ⟨⟨port, rest⟩, hport, h⟩ := bind_eq_ok_iff.mp h
        cases hport
        split at h
        · cases h
        · cases h
          exact ⟨hread, rfl, Or.inl rfl⟩

/-- What is read as an authority with a host is written like one. -/
lemma isAuthority_of_readAuthority {au : Authority} {left : List Char} {host : Host} {more : Bool}
    (h : readAuthority scheme kind cs more = .ok (au, left)) (hhost : au.host = some host) :
    IsAuthority scheme au host ∧
      ∃ place, (∀ c ∈ place, c ∈ cs) ∧ readHost kind place = .ok (some host) := by
  obtain ⟨hread, huser, hport⟩ := readAuthority_cases h
  rw [hhost] at hread
  obtain ⟨huserInfo, hpassword⟩ := userInfo_of_readUser ((cutUser cs).1.getD [])
  rw [← huser] at huserInfo hpassword
  refine ⟨⟨hhost, huserInfo, hpassword, fun n hn => ?_⟩, _, fun c hc => ?_, hread⟩
  · rcases hport with hnone | ⟨rest, hport⟩
    · rw [hnone] at hn
      cases hn
    · exact unusual_of_readPort hport n hn
  · refine mem_of_mem_cutUser ?_
    rw [← cutHost_append false (cutUser cs).2]
    exact List.mem_append_left _ hc

/-! ### Addresses -/

/-- An address with a host as it is written. -/
structure Written (a : Address) (au : Authority) (host : Host) (path : List (List Char)) :
    Prop where
  scheme : IsScheme a.scheme.toList
  lower : a.scheme.toList.map Char.toLower = a.scheme.toList
  authority : a.authority = some au
  isAuthority : IsAuthority a.scheme au host
  isFileAuthority : Kind.ofScheme a.scheme = .file → IsFileAuthority au host
  isPath : IsPath (Kind.ofScheme a.scheme) path
  path : a.path = .segments (path.map String.ofList)
  query : ∀ q, a.query = some q → ∀ c ∈ q.toList, inQuery (Kind.ofScheme a.scheme) c = false
  fragment : ∀ f, a.fragment = some f → ∀ c ∈ f.toList, Text.Percent.fragment c = false

/-- What is read as the host of an address. -/
def readPlace (kind : Kind) (cs : List Char) : Except Fault (Option Host) :=
  if kind = .plain then readPlainHost cs else some <$> readSpecialHost cs

lemma readPlace_eq_ok_iff {host : Host} (hkind : kind ≠ .plain) :
    readPlace kind cs = .ok (some host) ↔ readSpecialHost cs = .ok host := by
  rw [readPlace, if_neg hkind]
  cases readSpecialHost cs <;> simp

/-- A service has in the place of its host what is read there. -/
lemma readHost_eq_ok_iff {host : Host} (hkind : kind ≠ .file) :
    readHost kind cs = .ok (some host) ↔ readPlace kind cs = .ok (some host) := by
  cases kind with
  | file => exact absurd rfl hkind
  | special =>
      rw [readHost_special_eq_ok_iff, readPlace_eq_ok_iff (by decide)]
      simp
  | plain => exact Iff.rfl

/-- A file has a host, unless that is this machine. -/
lemma readFileHost_eq_ok_iff {host : Host} :
    readFileHost cs = .ok (some host) ↔
      readPlace .file cs = .ok (some host) ∧ host ≠ .name "localhost" := by
  rw [readPlace_eq_ok_iff (by decide), readFileHost]
  cases cs with
  | nil => simp [readSpecialHost_nil, pure, Except.pure]
  | cons c cs =>
      cases readSpecialHost (c :: cs) with
      | error f => simp [bind, Except.bind]
      | ok host' =>
          by_cases hlocal : host' = .name "localhost"
          · simp only [hlocal, bind, Except.bind, pure, Except.pure, List.isEmpty_cons,
              Bool.false_eq_true, if_false, if_true, Except.ok.injEq, reduceCtorEq, false_iff]
            exact fun h => h.2 h.1.symm
          · simp only [hlocal, bind, Except.bind, pure, Except.pure, List.isEmpty_cons,
              Bool.false_eq_true, if_false, Except.ok.injEq, Option.some.injEq]
            exact ⟨fun h => ⟨h, h ▸ hlocal⟩, And.left⟩

lemma inQuery_of_readTail (kind : Kind) {tail : List Char} {q : String}
    (h : (readTail kind tail).1 = some q) : ∀ c ∈ q.toList, inQuery kind c = false := by
  rw [readTail] at h
  dsimp only at h
  split at h
  · cases h
    intro c hc
    rw [String.toList_ofList] at hc
    exact (spares_inQuery kind).of_mem_encode hc
  · cases h

lemma fragment_of_readTail (kind : Kind) {tail : List Char} {f : String}
    (h : (readTail kind tail).2 = some f) : ∀ c ∈ f.toList, Text.Percent.fragment c = false := by
  rw [readTail] at h
  dsimp only at h
  split at h
  · cases h
    intro c hc
    rw [String.toList_ofList] at hc
    exact Text.Percent.spares_fragment.of_mem_encode hc
  · cases h

/-- What is put together from parts that are written like this is written like this. -/
lemma written_build {au : Authority} {host : Host} (hscheme : IsScheme scheme.toList)
    (hlower : scheme.toList.map Char.toLower = scheme.toList) (hkind : kind = Kind.ofScheme scheme)
    (hau : IsAuthority scheme au host) (hfile : kind = .file → IsFileAuthority au host)
    (hpath : IsPath kind path) (tail : List Char) :
    Written (build scheme kind (some au) path tail) au host path := by
  subst hkind
  exact ⟨hscheme, hlower, rfl, hau, hfile, hpath, rfl, fun q hq => inQuery_of_readTail _ hq,
    fun f hf => fragment_of_readTail (Kind.ofScheme scheme) hf⟩

/-- What is read as a scheme stands in front of a colon, in any case. -/
lemma readScheme?_cases {rest : List Char} (h : readScheme? cs = some (scheme, rest)) :
    ∃ front, cs = front ++ ':' :: rest ∧ scheme = String.ofList (front.map Char.toLower) := by
  unfold readScheme? at h
  split at h
  · cases h
  · split_ifs at h
    split at h
    · next heq =>
      cases h
      exact ⟨_, by rw [← heq, List.takeWhile_append_dropWhile], rfl⟩
    · cases h

lemma lower_of_readScheme? {rest : List Char} (h : readScheme? cs = some (scheme, rest)) :
    scheme.toList.map Char.toLower = scheme.toList := by
  obtain ⟨front, -, rfl⟩ := readScheme?_cases h
  rw [String.toList_ofList, lower_lower]

lemma mem_of_readScheme? {rest : List Char} {c : Char} (h : readScheme? cs = some (scheme, rest))
    (hc : c ∈ rest) : c ∈ cs := by
  obtain ⟨front, rfl, -⟩ := readScheme?_cases h
  exact List.mem_append_right _ (List.mem_cons_of_mem _ hc)

lemma mem_of_mem_trimBy {p : Char → Bool} {c : Char} (h : c ∈ Text.trimBy p cs) : c ∈ cs :=
  List.dropWhile_subset _ (List.mem_reverse.mp (List.dropWhile_subset _ (List.mem_reverse.mp h)))

lemma eq_file_of_ofScheme (h : Kind.ofScheme scheme = .file) : scheme = "file" := by
  by_contra hne
  simp only [Kind.ofScheme, if_neg hne] at h
  split_ifs at h

lemma mem_of_mem_cutAt {p : Char → Bool} {c : Char} (h : c ∈ (Text.cutAt p cs).1) : c ∈ cs :=
  List.takeWhile_subset _ h

/-- What is behind the two slashes of a service with a host. -/
lemma exists_written_of_readService {a : Address} (hscheme : IsScheme scheme.toList)
    (hlower : scheme.toList.map Char.toLower = scheme.toList) (hkind : kind = Kind.ofScheme scheme)
    (hnotFile : kind ≠ .file) (h : readService scheme kind cs = .ok a) (hhost : a.host? ≠ none) :
    ∃ au host path, Written a au host path ∧
      ∃ place, (∀ c ∈ place, c ∈ cs) ∧ readPlace kind place = .ok (some host) := by
  obtain ⟨⟨au, left⟩, hread, h⟩ := bind_eq_ok_iff.mp h
  cases h
  obtain ⟨host, hhost⟩ := Option.ne_none_iff_exists'.mp hhost
  obtain ⟨hau, place, hplace, hread⟩ := isAuthority_of_readAuthority hread hhost
  exact ⟨au, host, _, written_build hscheme hlower hkind hau (fun hfile => absurd hfile hnotFile)
    (isPath_readPath hnotFile _) _, place, fun c hc => mem_of_mem_cutAt (hplace c hc),
    (readHost_eq_ok_iff hnotFile).mp hread⟩

/-- The address of a file that is put together from a host and a path. -/
def fileAddress (host? : Option Host) (rest : List Char) : Address :=
  let path := trimFront (readPath .file (cutPath rest).1)
  let host := if (path.head?.map isDrive).getD false then none else host?
  build "file" .file (some (.ofHost host none)) path (cutPath rest).2

/-- A file on another machine has no disk in front of its path. -/
lemma written_fileAddress {host? : Option Host} {rest : List Char}
    (h : (fileAddress host? rest).host? ≠ none)
    (hau : ∀ host, host? = some host → IsFileAuthority (.ofHost (some host) none) host) :
    ∃ au host path, host? = some host ∧ Written (fileAddress host? rest) au host path := by
  obtain ⟨host, hhost⟩ := Option.ne_none_iff_exists'.mp h
  have hbranch : (if ((trimFront (readPath .file (cutPath rest).1)).head?.map isDrive).getD false
      then none else host?) = some host := hhost
  split_ifs at hbranch with hdrive
  subst hbranch
  have hfile : fileAddress (some host) rest = build "file" .file (some (.ofHost (some host) none))
      (trimFront (readPath .file (cutPath rest).1)) (cutPath rest).2 := by
    simp only [fileAddress, if_neg hdrive]
  have hscheme : IsScheme "file".toList := ⟨⟨'f', rfl, by decide⟩, List.all_eq_true.mp (by decide)⟩
  rw [hfile]
  exact ⟨_, host, _, rfl, written_build hscheme (by decide) rfl
    ⟨rfl, fun c hc => absurd hc List.not_mem_nil, fun c hc => absurd hc List.not_mem_nil,
      fun n hn => by cases hn⟩ (fun _ => hau host rfl)
    (isPath_trimFront (Bool.eq_false_iff.mpr hdrive)) _⟩

/-- What is behind the scheme of a file on a host. -/
lemma exists_written_of_readFile {a : Address} (h : readFile cs = .ok a) (hhost : a.host? ≠ none) :
    ∃ au host path, Written a au host path ∧
      ∃ place, (∀ c ∈ place, c ∈ cs) ∧ readPlace .file place = .ok (some host) := by
  have hnone : ∀ rest, fileAddress none rest ≠ a := by
    rintro rest rfl
    obtain ⟨-, host, -, hsome, -⟩ := written_fileAddress hhost nofun
    cases hsome
  unfold readFile at h
  dsimp only at h
  split at h
  · next c d rest =>
    split_ifs at h
    · exact absurd (Except.ok.inj h) (hnone _)
    · obtain ⟨host?, hread, h⟩ := bind_eq_ok_iff.mp h
      obtain rfl : fileAddress host? _ = a := Except.ok.inj h
      obtain ⟨au, host, path, rfl, hwritten⟩ := written_fileAddress hhost fun host heq =>
        ⟨rfl, (readFileHost_eq_ok_iff.mp (heq ▸ hread)).2⟩
      exact ⟨au, host, path, hwritten, _, fun e he => List.mem_cons_of_mem _
        (List.mem_cons_of_mem _ (mem_of_mem_cutAt he)), (readFileHost_eq_ok_iff.mp hread).1⟩
    · exact absurd (Except.ok.inj h) (hnone _)
  · exact absurd (Except.ok.inj h) (hnone _)

/-- **How addresses are written.** An address with a host that is read is written in its own form,
and its host is read from a part of the text. -/
theorem exists_written {a : Address} (h : readChars cs = .ok a) (hhost : a.host? ≠ none) :
    ∃ au host path, Written a au host path ∧
      ∃ place, (∀ c ∈ place, c ∈ cs) ∧
        readPlace (Kind.ofScheme a.scheme) place = .ok (some host) := by
  have htext : ∀ c ∈ (Text.trimBy Text.isControlOrSpace cs).filter fun c => !isIgnored c, c ∈ cs :=
    fun c hc => mem_of_mem_trimBy (List.mem_filter.mp hc).1
  unfold readChars at h
  generalize (Text.trimBy Text.isControlOrSpace cs).filter (fun c => !isIgnored c) = text at h htext
  dsimp only at h
  split at h
  · cases h
  · next scheme rest hread =>
    have hscheme := isScheme_of_readScheme? hread
    have hlower := lower_of_readScheme? hread
    have hrest : ∀ c ∈ rest, c ∈ cs := fun c hc => htext c (mem_of_readScheme? hread hc)
    split at h
    · next hkind =>
      obtain ⟨au, host, path, hwritten, place, hplace, hhost⟩ := exists_written_of_readFile h hhost
      have hfile : a.scheme = "file" := (readFile_segments h).1
      exact ⟨au, host, path, hwritten, place, fun c hc => hrest c (hplace c hc), hfile ▸ hhost⟩
    · next hkind =>
      obtain ⟨au, host, path, hwritten, place, hplace, hhost⟩ :=
        exists_written_of_readService hscheme hlower hkind.symm nofun h hhost
      obtain rfl := (readService_segments h).1
      exact ⟨au, host, path, hwritten, place, fun c hc =>
        hrest c (List.dropWhile_subset _ (hplace c hc)), hkind ▸ hhost⟩
    · next hkind =>
      split at h
      · next rest' =>
        obtain ⟨au, host, path, hwritten, place, hplace, hhost⟩ :=
          exists_written_of_readService hscheme hlower hkind.symm nofun h hhost
        obtain rfl := (readService_segments h).1
        exact ⟨au, host, path, hwritten, place, fun c hc =>
          hrest c (List.mem_cons_of_mem _ (List.mem_cons_of_mem _ (hplace c hc))), hkind ▸ hhost⟩
      · cases h
        exact absurd (by rw [host?, (readRootless_authority _ _).2]; rfl) hhost

end Address

end Roster
